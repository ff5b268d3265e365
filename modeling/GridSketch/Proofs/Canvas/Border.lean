import GridSketch.Proofs.Canvas.Coverage
import GridSketch.Proofs.Canvas.Truncation

/-!
# The border of a box

A rectangle is drawn by walking the edges of its box: the first and the last row once for each
column, the first and the last column once for each row. A box with columns and rows has these cells
for its border. A box that has only the one or the other has no cells, and is walked all the same.

* `Box.Contains`, `Box.OnBorder`: the cells of a box, and those of its border.
* `Box.mem_border_iff`: the cells that are walked; `Box.mem_border_of_pos`, `Box.mem_border_of_flat`,
  `Box.mem_border_of_narrow`: what they are in a box with cells and in one without.
* `Grid.draw_rectangle_border`: the walk across the grid leaves what the walk to all ends leaves.
* `Grid.draw_rectangle_outside`: when marks stay inside the box, and where they are when they do not.
-/

namespace GridSketch

/-! ## The cells of a box -/

namespace Box

/-- The box has this column. -/
def HasColumn (b : Box) (x : Int) : Prop := b.x ≤ x ∧ x < b.x + b.width

/-- The box has this row. -/
def HasRow (b : Box) (y : Int) : Prop := b.y ≤ y ∧ y < b.y + b.height

/-- The box has this cell. -/
def Contains (b : Box) (x y : Int) : Prop := b.HasColumn x ∧ b.HasRow y

/-- Where the walk along the first and the last column goes. -/
def EndColumn (b : Box) (x : Int) : Prop := x = b.x ∨ x = b.x + b.width - 1

/-- Where the walk along the first and the last row goes. -/
def EndRow (b : Box) (y : Int) : Prop := y = b.y ∨ y = b.y + b.height - 1

/-- The box has this cell, at one of its ends. -/
def OnBorder (b : Box) (x y : Int) : Prop := b.Contains x y ∧ (b.EndColumn x ∨ b.EndRow y)

variable {b : Box} {x y : Int}

instance : Decidable (b.HasColumn x) := inferInstanceAs (Decidable (_ ∧ _))
instance : Decidable (b.HasRow y) := inferInstanceAs (Decidable (_ ∧ _))
instance : Decidable (b.Contains x y) := inferInstanceAs (Decidable (_ ∧ _))
instance : Decidable (b.EndColumn x) := inferInstanceAs (Decidable (_ ∨ _))
instance : Decidable (b.EndRow y) := inferInstanceAs (Decidable (_ ∨ _))
instance : Decidable (b.OnBorder x y) := inferInstanceAs (Decidable (_ ∧ _))

theorem mem_border_iff :
    (x, y) ∈ b.border ↔ b.HasColumn x ∧ b.EndRow y ∨ b.HasRow y ∧ b.EndColumn x := by
  simp only [border, HasColumn, HasRow, EndColumn, EndRow, List.mem_append, List.mem_flatMap,
    mem_intRange, List.mem_cons, Prod.mk.injEq, List.not_mem_nil, or_false]
  constructor
  · rintro (⟨i, hi, h⟩ | ⟨j, hj, h⟩)
    · exact Or.inl (by omega)
    · exact Or.inr (by omega)
  · rintro (⟨hi, h⟩ | ⟨hj, h⟩)
    · exact Or.inl ⟨x, by omega, by omega⟩
    · exact Or.inr ⟨y, by omega, by omega⟩

theorem mem_border_of_pos (hwidth : 1 ≤ b.width) (hheight : 1 ≤ b.height) :
    (x, y) ∈ b.border ↔ b.OnBorder x y := by
  simp only [mem_border_iff, OnBorder, Contains, HasColumn, HasRow, EndColumn, EndRow]
  omega

theorem mem_border_of_flat (hheight : b.height ≤ 0) :
    (x, y) ∈ b.border ↔ b.HasColumn x ∧ b.EndRow y := by
  simp only [mem_border_iff, HasColumn, HasRow, EndColumn, EndRow]
  omega

theorem mem_border_of_narrow (hwidth : b.width ≤ 0) :
    (x, y) ∈ b.border ↔ b.HasRow y ∧ b.EndColumn x := by
  simp only [mem_border_iff, HasColumn, HasRow, EndColumn, EndRow]
  omega

theorem contains_of_mem_border (h : 1 ≤ b.width ↔ 1 ≤ b.height) (hmem : (x, y) ∈ b.border) :
    b.Contains x y := by
  simp only [mem_border_iff, Contains, HasColumn, HasRow, EndColumn, EndRow] at *
  omega

end Box

/-! ## Drawing a rectangle -/

namespace Grid

variable {width height : Nat}

theorem ext_cell? {g g' : Grid width height}
    (h : ∀ x y, x < width → y < height → g.cell? x y = g'.cell? x y) : g = g' := by
  refine congrArg Grid.mk (Vector.ext fun y hy => Vector.ext fun x hx => ?_)
  have hcell := h x y hx hy
  rw [cell?_eq_some _ hx hy, cell?_eq_some _ hx hy] at hcell
  exact Option.some.inj hcell

theorem plotAll_edges (mark : Char) (g : Grid width height) (b : Box) :
    g.plotAll mark (b.edges width height) = g.plotAll mark b.border := by
  refine ext_cell? fun x y hx hy => ?_
  rw [cell?_plotAll _ _ _ hx hy, cell?_plotAll _ _ _ hx hy]
  simp only [Box.mem_edges (b := b) (show (0 : Int) ≤ x ∧ (x : Int) < width by omega)
    (show (0 : Int) ≤ y ∧ (y : Int) < height by omega)]

section
variable {corner : Point} {extent : Extent} {b : Box} (hb : b.TruncatedFrom corner extent)
include hb

theorem draw_rectangle (g : Grid width height) :
    g.draw (.rectangle corner extent) = g.plotAll rectangleMark b.border := by
  rw [hb.draw, plotAll_edges]

theorem cell?_draw_rectangle (g : Grid width height) {x y : Nat} (hx : x < width)
    (hy : y < height) :
    (g.draw (.rectangle corner extent)).cell? x y =
      if ((x : Int), (y : Int)) ∈ b.border then some rectangleMark else g.cell? x y := by
  rw [draw_rectangle hb, cell?_plotAll _ _ _ hx hy]

end

/-- **The clipped walk leaves what the whole walk leaves.** A rectangle from finite numbers has a box
    of whole cells, and drawing it plots, one after the other, all cells of the first and the last
    row and then of the first and the last column of the box; those off the grid are ignored. If the
    box has columns and rows, the cells that hold the mark afterwards are those of its border, and
    every other cell keeps what it held. -/
theorem draw_rectangle_border {corner : Point} {extent : Extent}
    (hfinite : ∀ v ∈ (Shape.rectangle corner extent).arguments, v.isFinite = true) :
    ∃ b : Box, b.TruncatedFrom corner extent ∧
      ∀ {width height : Nat} (g : Grid width height),
        g.draw (.rectangle corner extent) = g.plotAll rectangleMark b.border ∧
        (1 ≤ b.width → 1 ≤ b.height → ∀ x y : Nat, x < width → y < height →
          (g.draw (.rectangle corner extent)).cell? x y =
            if b.OnBorder x y then some rectangleMark else g.cell? x y) := by
  obtain ⟨b, hb⟩ := Box.exists_truncatedFrom hfinite
  refine ⟨b, hb, fun g => ⟨draw_rectangle hb g, fun hw hh x y hx hy => ?_⟩⟩
  rw [cell?_draw_rectangle hb g hx hy]
  simp only [Box.mem_border_of_pos hw hh]

/-- A box of four columns, of which two are left of the grid, and three rows, of which one is below
    it. -/
theorem draw_rectangle_border_clipped :
    let sketch : Shape := .rectangle ⟨-2.5, 1.9⟩ ⟨4.2, 3.5⟩
    let box : Box := ⟨-2, 1, 4, 3⟩
    (∀ v ∈ sketch.arguments, v.isFinite = true) ∧
      box.TruncatedFrom ⟨-2.5, 1.9⟩ ⟨4.2, 3.5⟩ ∧ 1 ≤ box.width ∧ 1 ≤ box.height ∧
      (blank 5 3).draw sketch = (blank 5 3).plotAll rectangleMark box.border ∧
      ((blank 5 3).draw sketch).cell? 1 2 = some rectangleMark ∧
      ((blank 5 3).draw sketch).cell? 0 2 = some blankMark := by
  intro sketch box
  have hfinite : ∀ v ∈ sketch.arguments, v.isFinite = true := by decide
  have hbox : box.TruncatedFrom ⟨-2.5, 1.9⟩ ⟨4.2, 3.5⟩ :=
    ⟨by decide, by decide, by decide, by decide⟩
  obtain ⟨b, hb, h⟩ := draw_rectangle_border hfinite
  obtain rfl : b = box := hb.unique hbox
  obtain ⟨hdraw, hcells⟩ := h (blank 5 3)
  exact ⟨hfinite, hbox, by decide, by decide, hdraw,
    hcells (by decide) (by decide) 1 2 (by decide) (by decide),
    hcells (by decide) (by decide) 0 2 (by decide) (by decide)⟩

/-- **When a rectangle stays inside its box.** It marks no cell outside a box that has columns and
    rows, and none at all if the box has neither. A box with columns and no rows has no cells, but
    two are marked in each of its columns: beside the corner, and at the end of the height that is
    zero or negative. Likewise for a box with rows and no columns. -/
theorem draw_rectangle_outside {corner : Point} {extent : Extent} {b : Box}
    (hb : b.TruncatedFrom corner extent) (g : Grid width height) {x y : Nat} (hx : x < width)
    (hy : y < height) :
    let drawn := (g.draw (.rectangle corner extent)).cell? x y
    ((1 ≤ b.width ↔ 1 ≤ b.height) → drawn ≠ g.cell? x y → b.Contains x y) ∧
    (b.width ≤ 0 → b.height ≤ 0 → drawn = g.cell? x y) ∧
    (1 ≤ b.width → b.height ≤ 0 → ¬ b.Contains x y ∧
      drawn = if b.HasColumn x ∧ b.EndRow y then some rectangleMark else g.cell? x y) ∧
    (b.width ≤ 0 → 1 ≤ b.height → ¬ b.Contains x y ∧
      drawn = if b.HasRow y ∧ b.EndColumn x then some rectangleMark else g.cell? x y) := by
  intro drawn
  have hdrawn : drawn = if ((x : Int), (y : Int)) ∈ b.border then some rectangleMark
      else g.cell? x y := cell?_draw_rectangle hb g hx hy
  refine ⟨fun h hne => ?_, fun hw hh => ?_, fun _ hh => ⟨?_, ?_⟩, fun hw _ => ⟨?_, ?_⟩⟩
  · refine Box.contains_of_mem_border h (Decidable.by_contra fun hout => hne ?_)
    rw [hdrawn, if_neg hout]
  · rw [hdrawn, if_neg]
    simp only [Box.mem_border_of_flat hh, Box.HasColumn]
    omega
  · simp only [Box.Contains, Box.HasRow]
    omega
  · simp only [hdrawn, Box.mem_border_of_flat hh]
  · simp only [Box.Contains, Box.HasColumn]
    omega
  · simp only [hdrawn, Box.mem_border_of_narrow hw]

/-- A box of four columns and no row, with its corner in the last row of the grid. -/
theorem draw_rectangle_outside_flat :
    let box : Box := ⟨1, 2, 4, 0⟩
    box.TruncatedFrom ⟨1, 2⟩ ⟨4, 0.9⟩ ∧ 1 ≤ box.width ∧ box.height ≤ 0 ∧ ¬ box.Contains 2 1 ∧
      ((blank 6 3).draw (.rectangle ⟨1, 2⟩ ⟨4, 0.9⟩)).cell? 2 1 = some rectangleMark := by
  intro box
  have hbox : box.TruncatedFrom ⟨1, 2⟩ ⟨4, 0.9⟩ := ⟨by decide, by decide, by decide, by decide⟩
  obtain ⟨hout, hdrawn⟩ := (draw_rectangle_outside hbox (blank 6 3) (x := 2) (y := 1) (by decide)
    (by decide)).2.2.1 (by decide) (by decide)
  exact ⟨hbox, by decide, by decide, hout, hdrawn⟩

/-- A rectangle does not always stay inside its box: one that is three columns wide and no row high
    marks a cell above its corner. -/
theorem rectangle_marks_outside :
    ¬ ∀ (corner : Point) (extent : Extent) (b : Box), b.TruncatedFrom corner extent →
      ∀ {width height : Nat} (g : Grid width height) (x y : Nat), x < width → y < height →
        (g.draw (.rectangle corner extent)).cell? x y ≠ g.cell? x y → b.Contains x y := by
  intro h
  have hbox : Box.TruncatedFrom ⟨1, 2, 3, 0⟩ ⟨1, 2⟩ ⟨3, 0⟩ :=
    ⟨by decide, by decide, by decide, by decide +kernel⟩
  have hmarked :
      ((blank 6 4).draw (.rectangle ⟨1, 2⟩ ⟨3, 0⟩)).cell? 1 1 ≠ (blank 6 4).cell? 1 1 := by
    rw [cell?_draw_rectangle hbox _ (by decide) (by decide)]
    decide
  have hinside : Box.Contains ⟨1, 2, 3, 0⟩ (1 : Nat) (1 : Nat) :=
    h ⟨1, 2⟩ ⟨3, 0⟩ _ hbox (blank 6 4) 1 1 (by decide) (by decide) hmarked
  exact absurd hinside (by decide)

end Grid

end GridSketch
