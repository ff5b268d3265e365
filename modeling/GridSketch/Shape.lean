import GridSketch.Keyword
import GridSketch.Number.Layout
import GridSketch.Text.Quoted

/-!
# Shapes

A draw statement makes a circle, a rectangle or a line. Coordinates keep their fractions; the canvas
drops them when the shape is drawn.
-/

namespace GridSketch

/-- A point of the plane. -/
structure Point where
  x : Float
  y : Float
  deriving DecidableEq, Repr

/-- The extent of a box. -/
structure Extent where
  width : Float
  height : Float
  deriving DecidableEq, Repr

/-- What can be drawn. -/
inductive Shape where
  | circle (center : Point) (radius : Float)
  | rectangle (corner : Point) (extent : Extent)
  | line (first last : Point)
  deriving DecidableEq, Repr

/-- A point in prose. -/
def Point.describe (p : Point) : String :=
  "(" ++ Number.display p.x ++ ", " ++ Number.display p.y ++ ")"

/-- An extent in prose. -/
def Extent.describe (e : Extent) : String :=
  Number.display e.width ++ "x" ++ Number.display e.height

namespace Shape

/-- A shape in prose. -/
def describe : Shape → String
  | circle center radius =>
    "Circle drawn at " ++ center.describe ++ " with radius " ++ Number.display radius ++ "."
  | rectangle corner extent =>
    "Rectangle drawn at " ++ corner.describe ++ " with size " ++ extent.describe ++ "."
  | line first last => "Line drawn from " ++ first.describe ++ " to " ++ last.describe ++ "."

/-- The keyword that draws a shape. -/
def keyword : Shape → Keyword
  | circle .. => .circle
  | rectangle .. => .rectangle
  | line .. => .line

/-- The numbers that a shape is drawn from. -/
def arguments : Shape → List Float
  | circle center radius => [center.x, center.y, radius]
  | rectangle corner extent => [corner.x, corner.y, extent.width, extent.height]
  | line first last => [first.x, first.y, last.x, last.y]

/-- The shape that a keyword draws from the given numbers. -/
def ofArguments? : Keyword → List Float → Option Shape
  | .circle, [x, y, radius] => some (circle ⟨x, y⟩ radius)
  | .rectangle, [x, y, width, height] => some (rectangle ⟨x, y⟩ ⟨width, height⟩)
  | .line, [x₁, y₁, x₂, y₂] => some (line ⟨x₁, y₁⟩ ⟨x₂, y₂⟩)
  | _, _ => none

theorem ofArguments?_arguments (s : Shape) : ofArguments? s.keyword s.arguments = some s := by
  cases s <;> rfl

/-- The refusal to draw a shape, in words. -/
def refusal (word : String) (count : Nat) : String :=
  "cannot build " ++ Text.quoted word ++ " from " ++ Number.intText count ++ " argument(s)"

end Shape

/-- A shape and the color that was current when it was drawn. -/
structure ColoredShape where
  shape : Shape
  color : String
  deriving DecidableEq, Repr

end GridSketch
