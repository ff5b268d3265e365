/-!
# Grids of characters

A grid has a fixed number of columns and rows, and a character in each cell. Cells are addressed by
integers, from the top left corner; a mark outside the grid is dropped.

* `Grid.plot` puts a mark into a cell, `Grid.cell?` looks at one.
* `Grid.rows` are the lines of the grid as texts, `Grid.text` the whole.
-/

namespace GridSketch

/-- Rows of characters. -/
structure Grid (width height : Nat) where
  cells : Vector (Vector Char width) height
  deriving DecidableEq

namespace Grid

variable {width height : Nat}

/-- The character of an empty cell. -/
def blankMark : Char := ' '

/-- The empty grid. -/
def blank (width height : Nat) : Grid width height :=
  ⟨Vector.replicate height (Vector.replicate width blankMark)⟩

/-- The character in a cell, `none` outside the grid. -/
def cell? (g : Grid width height) (x y : Nat) : Option Char :=
  g.cells[y]?.bind (·[x]?)

/-- Puts a mark into a cell; nothing happens outside the grid. -/
def plot (mark : Char) (g : Grid width height) (x y : Int) : Grid width height :=
  if h : 0 ≤ x ∧ 0 ≤ y ∧ y.toNat < height then
    ⟨g.cells.set y.toNat ((g.cells.get ⟨y.toNat, h.2.2⟩).setIfInBounds x.toNat mark) h.2.2⟩
  else g

/-- Puts a mark into every cell of a list. -/
def plotAll (mark : Char) (g : Grid width height) (points : List (Int × Int)) :
    Grid width height :=
  points.foldl (fun g p => g.plot mark p.1 p.2) g

/-- Puts a mark into every cell that passes a test of its column and row. -/
def plotWhere (mark : Char) (g : Grid width height) (test : Nat → Nat → Bool) :
    Grid width height :=
  ⟨g.cells.mapIdx fun y row => row.mapIdx fun x c => if test x y then mark else c⟩

/-- The rows of a grid, from the top. -/
def rows (g : Grid width height) : List String :=
  g.cells.toList.map fun row => String.ofList row.toList

/-- The rows of a grid, one to a line. -/
def text (g : Grid width height) : String := String.intercalate "\n" g.rows

end Grid

end GridSketch
