import GridSketch.Canvas.Grid

/-!
# The cells of a grid

What the operations of a grid put into its cells, one equation for each.

* `Grid.cell?_plot`, `Grid.cell?_plotAll`: a cell holds the mark if it is one of those plotted, and
  what it held before if not.
* `Grid.cell?_plotWhere`: the same for a test of all cells.
-/

namespace GridSketch.Grid

variable {width height : Nat} {x y : Nat}

theorem cell?_eq_some (g : Grid width height) (hx : x < width) (hy : y < height) :
    g.cell? x y = some (g.cells[y])[x] := by
  simp [cell?, hx, hy]

theorem cell?_blank (hx : x < width) (hy : y < height) :
    (blank width height).cell? x y = some blankMark := by
  simp [cell?, blank, hx, hy]

theorem cell?_plot (mark : Char) (g : Grid width height) (a b : Int) (hx : x < width)
    (hy : y < height) :
    (g.plot mark a b).cell? x y =
      if ((x : Int), (y : Int)) = (a, b) then some mark else g.cell? x y := by
  have hcell := g.cell?_eq_some hx hy
  simp only [Prod.mk.injEq]
  unfold plot
  split
  · next hin =>
    obtain ⟨ha, hb, -⟩ := hin
    by_cases hrow : b.toNat = y
    · subst hrow
      by_cases hcolumn : a.toNat = x
      · subst hcolumn
        rw [if_pos ⟨Int.toNat_of_nonneg ha, Int.toNat_of_nonneg hb⟩]
        simp [cell?, hx, hy]
      · rw [if_neg (by omega), hcell]
        simp only [cell?, hx, hy, hcolumn, Vector.getElem?_eq_getElem, Vector.getElem_set_self,
          Option.bind_some, Vector.getElem_setIfInBounds, if_false]
        rfl
    · rw [if_neg (by omega), hcell]
      simp [cell?, hx, hy, hrow]
  · next hout =>
    rw [if_neg (by omega)]

theorem cell?_plotAll (mark : Char) (g : Grid width height) (points : List (Int × Int))
    (hx : x < width) (hy : y < height) :
    (g.plotAll mark points).cell? x y =
      if ((x : Int), (y : Int)) ∈ points then some mark else g.cell? x y := by
  induction points generalizing g with
  | nil => simp [plotAll]
  | cons p points ih =>
    have hrest : (g.plotAll mark (p :: points)).cell? x y =
        ((g.plot mark p.1 p.2).plotAll mark points).cell? x y := rfl
    rw [hrest, ih, cell?_plot mark g p.1 p.2 hx hy]
    by_cases hp : ((x : Int), (y : Int)) = (p.1, p.2)
    · simp [hp]
    · simp only [List.mem_cons, hp, false_or, if_false]

theorem cell?_plotWhere (mark : Char) (g : Grid width height) (test : Nat → Nat → Bool)
    (hx : x < width) (hy : y < height) :
    (g.plotWhere mark test).cell? x y = if test x y then some mark else g.cell? x y := by
  have hcell : (g.plotWhere mark test).cell? x y =
      some (if test x y then mark else (g.cells[y])[x]) := by
    simp [cell?, plotWhere, hx, hy]
  rw [hcell, g.cell?_eq_some hx hy]
  split <;> rfl

end GridSketch.Grid
