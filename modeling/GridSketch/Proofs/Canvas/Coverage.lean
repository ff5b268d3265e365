import GridSketch.Canvas.Picture
import GridSketch.Proofs.Canvas.Cell
import Mathlib.Data.List.ProdSigma

/-!
# The cells that a shape covers

A shape covers some cells of the unbounded plane of cells, and drawing it marks those that the grid
has. The edges of a box and the cells of a segment are walked across the grid only; walked to their
ends, they give the same cells there.

* `Box.border`, `Segment.path`: the walks to their ends.
* `Box.mem_edges`, `Segment.mem_cells`: the clipped walks make no difference inside the grid.
* `Shape.covers` says which cells a shape covers; `Grid.cell?_draw` is what drawing it does.
-/

namespace GridSketch

/-! ## Walks to their ends -/

/-- The cells of the four edges of a box, whatever the grid. -/
def Box.border (b : Box) : List (Int × Int) :=
  (intRange b.x (b.x + b.width - 1)).flatMap (fun i => [(i, b.y), (i, b.y + b.height - 1)]) ++
  (intRange b.y (b.y + b.height - 1)).flatMap (fun j => [(b.x, j), (b.x + b.width - 1, j)])

theorem Box.mem_edges {b : Box} {columns rows : Nat} {x y : Int} (hx : 0 ≤ x ∧ x < columns)
    (hy : 0 ≤ y ∧ y < rows) : (x, y) ∈ b.edges columns rows ↔ (x, y) ∈ b.border := by
  simp only [edges, border, List.mem_append, List.mem_flatMap, mem_intRange, List.mem_cons,
    Prod.mk.injEq, List.not_mem_nil, or_false]
  constructor
  · rintro (⟨i, hi, h⟩ | ⟨j, hj, h⟩)
    · exact Or.inl ⟨i, by omega, h⟩
    · exact Or.inr ⟨j, by omega, h⟩
  · rintro (⟨i, hi, h⟩ | ⟨j, hj, h⟩)
    · exact Or.inl ⟨i, by omega, h⟩
    · exact Or.inr ⟨j, by omega, h⟩

namespace Segment

/-- The cells of a segment from its start to its end, whatever the grid. -/
def path (s : Segment) : List (Int × Int) := (intRange 0 s.majorLength).map s.cell

theorem visible_iff (s : Segment) (limit : Nat) (i : Int) :
    ((s.visible limit).1 ≤ i ∧ i ≤ (s.visible limit).2) ↔
      (0 ≤ i ∧ i ≤ s.majorLength) ∧ 0 ≤ (s.cell i).1 ∧ (s.cell i).1 < limit := by
  simp only [visible, cell, direction, majorLength]
  split
  · simp only [Int.one_mul]
    omega
  · simp only [Int.neg_mul, Int.one_mul]
    omega

theorem mem_cells {s : Segment} {limit : Nat} {c : Int × Int} :
    c ∈ s.cells limit ↔ c ∈ s.path ∧ 0 ≤ c.1 ∧ c.1 < limit := by
  simp only [cells, path, List.mem_map, mem_intRange, visible_iff]
  constructor
  · rintro ⟨i, ⟨hi, hc⟩, rfl⟩
    exact ⟨⟨i, hi, rfl⟩, hc⟩
  · rintro ⟨⟨i, hi, rfl⟩, hc⟩
    exact ⟨i, ⟨hi, hc⟩, rfl⟩

end Segment

/-- The cells of the segment between two cells, whatever the grid. -/
def segmentPath (x₀ y₀ x₁ y₁ : Int) : List (Int × Int) :=
  if (y₁ - y₀).natAbs ≤ (x₁ - x₀).natAbs then Segment.path ⟨x₀, y₀, x₁, y₁⟩
  else (Segment.path ⟨y₀, x₀, y₁, x₁⟩).map Prod.swap

theorem mem_segmentCells {x₀ y₀ x₁ y₁ : Int} {columns rows : Nat} {x y : Int}
    (hx : 0 ≤ x ∧ x < columns) (hy : 0 ≤ y ∧ y < rows) :
    (x, y) ∈ segmentCells x₀ y₀ x₁ y₁ columns rows ↔ (x, y) ∈ segmentPath x₀ y₀ x₁ y₁ := by
  unfold segmentCells segmentPath
  split
  · simp [Segment.mem_cells, hx]
  · simp [Segment.mem_cells, hy]

/-! ## Shapes -/

namespace Shape

/-- The mark of a shape. -/
def mark : Shape → Char
  | circle .. => circleMark
  | rectangle .. => rectangleMark
  | line .. => lineMark

/-- Whether a shape covers a cell. -/
def covers (s : Shape) (x y : Nat) : Bool :=
  match s with
  | circle center radius =>
    center.x.isFinite && center.y.isFinite && radius.isFinite && onRing center radius x y
  | rectangle corner extent =>
    match Number.trunc? corner.x, Number.trunc? corner.y, Number.trunc? extent.width,
      Number.trunc? extent.height with
    | some a, some b, some w, some h => decide (((x : Int), (y : Int)) ∈ Box.border ⟨a, b, w, h⟩)
    | _, _, _, _ => false
  | line first last =>
    match Number.trunc? first.x, Number.trunc? first.y, Number.trunc? last.x,
      Number.trunc? last.y with
    | some x₀, some y₀, some x₁, some y₁ =>
      decide (((x : Int), (y : Int)) ∈ segmentPath x₀ y₀ x₁ y₁)
    | _, _, _, _ => false

end Shape

namespace Grid

variable {width height : Nat} {x y : Nat}

theorem cell?_ofNumbers {g : Grid width height} {mark : Char}
    {drawn : Int → Int → Int → Int → Grid width height} {covered : Int → Int → Int → Int → Bool}
    (hdrawn : ∀ a b c d, (drawn a b c d).cell? x y =
      if covered a b c d then some mark else g.cell? x y)
    (a? b? c? d? : Option Int) :
    (match a?, b?, c?, d? with
      | some a, some b, some c, some d => drawn a b c d
      | _, _, _, _ => g).cell? x y =
      if (match a?, b?, c?, d? with
        | some a, some b, some c, some d => covered a b c d
        | _, _, _, _ => false) then some mark else g.cell? x y := by
  cases a? with
  | none => rfl
  | some a =>
    cases b? with
    | none => rfl
    | some b =>
      cases c? with
      | none => rfl
      | some c =>
        cases d? with
        | none => rfl
        | some d => exact hdrawn a b c d

/-- **Drawing a shape** puts its mark into the cells that it covers, and changes no other. -/
theorem cell?_draw (g : Grid width height) (s : Shape) (hx : x < width) (hy : y < height) :
    (g.draw s).cell? x y = if s.covers x y then some s.mark else g.cell? x y := by
  have hcolumn : (0 : Int) ≤ x ∧ (x : Int) < width := by omega
  have hrow : (0 : Int) ≤ y ∧ (y : Int) < height := by omega
  cases s with
  | circle center radius =>
    simp only [draw, Shape.covers, Shape.mark]
    split
    · next hfinite => simp only [cell?_plotWhere _ _ _ hx hy, hfinite, Bool.true_and]
    · next hfinite => simp [Bool.eq_false_iff.2 hfinite]
  | rectangle corner extent =>
    refine cell?_ofNumbers (fun a b w h => ?_) ..
    simp only [cell?_plotAll _ _ _ hx hy, Box.mem_edges hcolumn hrow, decide_eq_true_eq, Shape.mark]
  | line first last =>
    refine cell?_ofNumbers (fun x₀ y₀ x₁ y₁ => ?_) ..
    simp only [cell?_plotAll _ _ _ hx hy, mem_segmentCells hcolumn hrow, decide_eq_true_eq,
      Shape.mark]

end Grid

end GridSketch
