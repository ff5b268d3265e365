import GridSketch.Proofs.Canvas.Coverage

/-!
# The size of a grid clips a picture

What a picture has in a cell depends on the shapes alone: the last one that covers the cell leaves
its mark there. So a larger grid shows more of the same picture.

* `painted` is the character that shapes leave in a cell of the plane.
* `render_cell_of_le`: two pictures of the same shapes agree where both have cells.
-/

namespace GridSketch

/-- The character that shapes leave in a cell that held `c`, each covering the ones before it. -/
def paintOver (shapes : List Shape) (x y : Nat) (c : Char) : Char :=
  shapes.foldl (fun c s => if s.covers x y then s.mark else c) c

/-- The character that shapes leave in a cell of the plane. -/
def painted (shapes : List Shape) (x y : Nat) : Char := paintOver shapes x y Grid.blankMark

section
variable {x y : Nat}

theorem Grid.cell?_drawAll {width height : Nat} (shapes : List Shape) (g : Grid width height)
    (hx : x < width) (hy : y < height) :
    (shapes.foldl Grid.draw g).cell? x y = (g.cell? x y).map (paintOver shapes x y) := by
  induction shapes generalizing g with
  | nil =>
    rw [List.foldl_nil, g.cell?_eq_some hx hy]
    rfl
  | cons s shapes ih =>
    rw [List.foldl_cons, ih, g.cell?_draw s hx hy, g.cell?_eq_some hx hy]
    simp only [paintOver, List.foldl_cons, Option.map_some]
    split <;> rfl

/-- **A picture shows what its shapes leave in the plane,** in every cell that it has. -/
theorem cell?_render (shapes : List Shape) {width height : Int} (hx : x < width) (hy : y < height) :
    (render shapes width height).cell? x y = some (painted shapes x y) := by
  have hcolumn : x < width.toNat := by omega
  have hrow : y < height.toNat := by omega
  rw [render, Grid.cell?_drawAll shapes _ hcolumn hrow, Grid.cell?_blank hcolumn hrow,
    Option.map_some, painted]

/-- **The size of a grid never changes what is drawn,** only how much of it is seen: in a cell that
    the smaller of two grids has, pictures of the same shapes show the same character. -/
theorem render_cell_of_le (shapes : List Shape) {width width' height height' : Int}
    (hwidth : width ≤ width') (hheight : height ≤ height') (hx : x < width) (hy : y < height) :
    ∃ c, (render shapes width height).cell? x y = some c ∧
      (render shapes width' height').cell? x y = some c :=
  ⟨painted shapes x y, cell?_render shapes hx hy,
    cell?_render shapes (Int.lt_of_lt_of_le hx hwidth) (Int.lt_of_lt_of_le hy hheight)⟩

/-- A box that reaches far beyond both grids, and a line over it. -/
theorem render_cell_of_le_far_box :
    ∃ c, (render [.rectangle ⟨-2, 1⟩ ⟨1e300, 7⟩, .line ⟨0, 3⟩ ⟨9, -1⟩] 3 2).cell? 2 1 = some c ∧
      (render [.rectangle ⟨-2, 1⟩ ⟨1e300, 7⟩, .line ⟨0, 3⟩ ⟨9, -1⟩] 40 12).cell? 2 1 = some c :=
  render_cell_of_le _ (by decide) (by decide) (by decide) (by decide)

end

end GridSketch
