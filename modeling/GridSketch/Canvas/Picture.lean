import GridSketch.Canvas.Grid
import GridSketch.Canvas.Segment
import GridSketch.Number.Distance
import GridSketch.Shape

/-!
# Pictures

Shapes are drawn onto a grid in order, and later marks cover earlier ones. A shape with a coordinate
that is not finite draws nothing.

* A circle marks every cell whose distance from the center differs from the radius by less than one.
* A rectangle marks the four edges of the box between its whole coordinates.
* A line marks the cells of the segment between its whole endpoints.
-/

namespace GridSketch

/-- The mark of a circle. -/
def circleMark : Char := 'o'

/-- The mark of a rectangle. -/
def rectangleMark : Char := '#'

/-- The mark of a line. -/
def lineMark : Char := '*'

/-- A cell lies on the ring, one unit thick, around a center. -/
def onRing (center : Point) (radius : Float) (x y : Nat) : Bool :=
  let distance := Number.hypotenuse (Float.ofNat x - center.x) (Float.ofNat y - center.y)
  decide ((distance - radius).abs < 1.0)

/-- A box in whole cells. -/
structure Box where
  x : Int
  y : Int
  width : Int
  height : Int
  deriving DecidableEq, Repr

/-- The cells of the four edges of a box, each edge walked only across the columns or rows that the
    grid has. -/
def Box.edges (b : Box) (columns rows : Nat) : List (Int × Int) :=
  (intRange (max b.x 0) (min (b.x + b.width) columns - 1)).flatMap
    (fun i => [(i, b.y), (i, b.y + b.height - 1)]) ++
  (intRange (max b.y 0) (min (b.y + b.height) rows - 1)).flatMap
    (fun j => [(b.x, j), (b.x + b.width - 1, j)])

/-- The cells of the segment between two cells. The major axis is the one with the greater length,
    the horizontal one if both are equal. -/
def segmentCells (x₀ y₀ x₁ y₁ : Int) (columns rows : Nat) : List (Int × Int) :=
  if (y₁ - y₀).natAbs ≤ (x₁ - x₀).natAbs then Segment.cells ⟨x₀, y₀, x₁, y₁⟩ columns
  else (Segment.cells ⟨y₀, x₀, y₁, x₁⟩ rows).map Prod.swap

namespace Grid

variable {width height : Nat}

/-- Draws a shape onto a grid. -/
def draw (g : Grid width height) : Shape → Grid width height
  | .circle center radius =>
    if center.x.isFinite && center.y.isFinite && radius.isFinite then
      g.plotWhere circleMark (onRing center radius)
    else g
  | .rectangle corner extent =>
    match Number.trunc? corner.x, Number.trunc? corner.y, Number.trunc? extent.width,
      Number.trunc? extent.height with
    | some x, some y, some w, some h =>
      g.plotAll rectangleMark (Box.edges ⟨x, y, w, h⟩ width height)
    | _, _, _, _ => g
  | .line first last =>
    match Number.trunc? first.x, Number.trunc? first.y, Number.trunc? last.x,
      Number.trunc? last.y with
    | some x₀, some y₀, some x₁, some y₁ =>
      g.plotAll lineMark (segmentCells x₀ y₀ x₁ y₁ width height)
    | _, _, _, _ => g

end Grid

/-- The picture of shapes on a grid of the given size; a negative size counts as zero. -/
def render (shapes : List Shape) (width height : Int) : Grid width.toNat height.toNat :=
  shapes.foldl Grid.draw (Grid.blank width.toNat height.toNat)

/-- What a picture can be made of: shapes with a color or without one. -/
inductive Drawable where
  | bare (s : Shape)
  | colored (c : ColoredShape)
  deriving DecidableEq, Repr

/-- The shape to be drawn. Its color, if it has one, is not seen. -/
def Drawable.shape : Drawable → Shape
  | bare s => s
  | colored c => c.shape

/-- The picture of shapes of which some may have a color. -/
def renderAll (drawables : List Drawable) (width height : Int) : Grid width.toNat height.toNat :=
  drawables.foldl (fun g d => g.draw d.shape) (Grid.blank width.toNat height.toNat)

theorem renderAll_eq (drawables : List Drawable) (width height : Int) :
    renderAll drawables width height = render (drawables.map (·.shape)) width height := by
  rw [renderAll, render, List.foldl_map]

end GridSketch
