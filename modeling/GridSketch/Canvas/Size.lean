/-!
# Canvas sizes

A canvas has between one and a thousand columns, and as many rows.

* `CanvasSize.check` accepts a size or says what is wrong with it, the width before the height.
-/

namespace GridSketch

/-- The most columns or rows of a canvas. -/
def maxExtent : Nat := 1000

/-- The size of a canvas. -/
structure CanvasSize where
  width : Nat
  height : Nat
  width_pos : 0 < width
  height_pos : 0 < height
  width_le : width ≤ maxExtent
  height_le : height ≤ maxExtent

namespace CanvasSize

/-- The size of a canvas if no other is asked for. -/
def standard : CanvasSize where
  width := 80
  height := 24
  width_pos := Nat.succ_pos 79
  height_pos := Nat.succ_pos 23
  width_le := Nat.le_of_ble_eq_true rfl
  height_le := Nat.le_of_ble_eq_true rfl

/-- The two dimensions of a canvas. -/
inductive Dimension where
  | width
  | height
  deriving DecidableEq, Repr

/-- The name of a dimension. -/
def Dimension.name : Dimension → String
  | width => "width"
  | height => "height"

/-- What is wrong with a size: a dimension is no number, not positive, or too large. -/
inductive Problem where
  | notInteger (d : Dimension)
  | notPositive (d : Dimension)
  | tooLarge (d : Dimension)
  deriving DecidableEq, Repr

/-- The dimension that a problem is about. -/
def Problem.dimension : Problem → Dimension
  | notInteger d | notPositive d | tooLarge d => d

/-- The sentence about a problem. -/
def Problem.message : Problem → String
  | notInteger _ => "Input should be a valid integer"
  | notPositive _ => "Input should be greater than 0"
  | tooLarge _ => "Input should be less than or equal to 1000"

/-- One dimension within its bounds, or what is wrong with it. -/
def checkExtent (d : Dimension) :
    Option Int → Except Problem { n : Nat // 0 < n ∧ n ≤ maxExtent }
  | none => .error (.notInteger d)
  | some n =>
    if _hpos : 0 < n then
      if _hle : n ≤ maxExtent then .ok ⟨n.toNat, by omega, by omega⟩ else .error (.tooLarge d)
    else .error (.notPositive d)

/-- The size with the given dimensions, or what is wrong with them. -/
def check (width height : Option Int) : Except (List Problem) CanvasSize :=
  match checkExtent .width width, checkExtent .height height with
  | .ok w, .ok h => .ok ⟨w, h, w.2.1, h.2.1, w.2.2, h.2.2⟩
  | .error p, .ok _ | .ok _, .error p => .error [p]
  | .error p, .error q => .error [p, q]

end CanvasSize

end GridSketch
