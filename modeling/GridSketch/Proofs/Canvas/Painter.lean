import GridSketch.Proofs.Canvas.Clipping
import GridSketch.Proofs.Canvas.Truncation

/-!
# Later shapes cover earlier ones

A picture shows in each cell the last shape that has marked it. What a shape marks it marks alone as
well, whatever was drawn before.

* `Drawable.marks` says which cells a shape marks when it is drawn alone; `topMark` is the mark of
  the last shape that does.
* `Grid.splitOn_text`: the rows of a picture can be read off its text.
* `renderAll_painter`: all that decides what a picture looks like.
-/

namespace GridSketch

/-- Whether a shape, drawn alone on a grid of the given size, marks a cell. -/
def Drawable.marks (width height : Int) (x y : Nat) (d : Drawable) : Bool :=
  (renderAll [d] width height).cell? x y == some d.shape.mark

/-- The mark of the last shape that marks a cell, a blank if none does. -/
def topMark (drawables : List Drawable) (width height : Int) (x y : Nat) : Char :=
  ((drawables.reverse.find? (·.marks width height x y)).map (·.shape.mark)).getD Grid.blankMark

section
variable {x y : Nat}

/-! ## One cell -/

theorem paintOver_eq (shapes : List Shape) (c : Char) :
    paintOver shapes x y c = ((shapes.reverse.find? (·.covers x y)).map (·.mark)).getD c := by
  induction shapes generalizing c with
  | nil => rfl
  | cons s shapes ih =>
    have hfirst : paintOver (s :: shapes) x y c =
        paintOver shapes x y (if s.covers x y then s.mark else c) := rfl
    rw [hfirst, ih, List.reverse_cons, List.find?_append]
    cases shapes.reverse.find? (·.covers x y) with
    | some top => rfl
    | none => cases hs : s.covers x y <;> simp [hs]

theorem Shape.mark_ne_blank (s : Shape) : s.mark ≠ Grid.blankMark := by
  cases s with
  | circle => exact (by decide : circleMark ≠ Grid.blankMark)
  | rectangle => exact (by decide : rectangleMark ≠ Grid.blankMark)
  | line => exact (by decide : lineMark ≠ Grid.blankMark)

theorem Drawable.marks_eq_covers {width height : Int} (hx : x < width) (hy : y < height)
    (d : Drawable) : d.marks width height x y = d.shape.covers x y := by
  have hblank : Grid.blankMark ≠ d.shape.mark := (Shape.mark_ne_blank d.shape).symm
  rw [marks, renderAll_eq, cell?_render _ hx hy, painted, paintOver_eq]
  cases hc : d.shape.covers x y <;> simp [hc, hblank]

theorem cell?_renderAll (drawables : List Drawable) {width height : Int} (hx : x < width)
    (hy : y < height) :
    (renderAll drawables width height).cell? x y = some (topMark drawables width height x y) := by
  have hmarks : (fun d : Drawable => d.marks width height x y) = fun d => d.shape.covers x y :=
    funext (Drawable.marks_eq_covers hx hy)
  rw [renderAll_eq, cell?_render _ hx hy, painted, paintOver_eq, topMark, hmarks, ← List.map_reverse,
    List.find?_map, Option.map_map]
  rfl

end

/-! ## The rows -/

namespace Grid

variable {width height : Nat}

theorem length_rows (g : Grid width height) : g.rows.length = height := by
  simp [rows]

theorem length_row (g : Grid width height) {row : String} (h : row ∈ g.rows) :
    row.length = width := by
  obtain ⟨cells, -, rfl⟩ := List.mem_map.1 h
  simp

theorem rows_getElem? (g : Grid width height) (x y : Nat) :
    g.rows[y]?.bind (·.toList[x]?) = g.cell? x y := by
  have hrow : g.rows[y]? = g.cells[y]?.map fun row => String.ofList row.toList := by simp [rows]
  rw [hrow, Option.bind_map, cell?]
  refine Option.bind_congr fun row _ => ?_
  simp

theorem splitOn_text (g : Grid width height) (hheight : 0 < height)
    (hline : ∀ row ∈ g.rows, '\n' ∉ row.toList) :
    g.text.toList.splitOn '\n' = g.rows.map String.toList := by
  have htext : g.text.toList = ['\n'].intercalate (g.rows.map String.toList) := by
    rw [text, String.toList_intercalate]
    rfl
  rw [htext]
  refine List.splitOn_intercalate '\n' ?_ ?_
  · intro row hrow
    obtain ⟨r, hr, rfl⟩ := List.mem_map.1 hrow
    exact hline r hr
  · intro hnil
    have hlength := g.length_rows
    rw [List.map_eq_nil_iff.1 hnil] at hlength
    exact absurd hlength (Nat.ne_of_lt hheight)

end Grid

theorem topMark_ne_newline (drawables : List Drawable) (width height : Int) (x y : Nat) :
    topMark drawables width height x y ≠ '\n' := by
  unfold topMark
  cases drawables.reverse.find? (·.marks width height x y) with
  | none => exact (by decide : Grid.blankMark ≠ '\n')
  | some d =>
    cases hs : d.shape with
    | circle => simp [hs, Shape.mark, circleMark]
    | rectangle => simp [hs, Shape.mark, rectangleMark]
    | line => simp [hs, Shape.mark, lineMark]

theorem renderAll_row_chars (drawables : List Drawable) (width height : Int) :
    ∀ row ∈ (renderAll drawables width height).rows, '\n' ∉ row.toList := by
  intro row hrow hmem
  obtain ⟨y, hy, rfl⟩ := List.getElem_of_mem hrow
  obtain ⟨x, hx, hchar⟩ := List.getElem_of_mem hmem
  have hcell := (renderAll drawables width height).rows_getElem? x y
  rw [List.getElem?_eq_getElem hy, Option.bind_some, List.getElem?_eq_getElem hx, hchar] at hcell
  have hlength := (renderAll drawables width height).length_row hrow
  rw [Grid.length_rows] at hy
  rw [String.length_toList, hlength] at hx
  rw [cell?_renderAll drawables (by omega) (by omega)] at hcell
  exact topMark_ne_newline _ _ _ _ _ (Option.some.inj hcell).symm

/-- **The painter's law.** A picture has as many rows and columns as its size says, none where it is
    negative. Each cell holds the mark of the last shape that, drawn alone, marks it, and a blank if
    there is none. So a shape with a coordinate that is not finite may be left out, the color of a
    shape may be dropped, and the rows can be read off the text. -/
theorem renderAll_painter (drawables : List Drawable) (width height : Int) :
    let picture := renderAll drawables width height
    ((picture.rows.length : Int) = max height 0 ∧
      ∀ row ∈ picture.rows, (row.length : Int) = max width 0) ∧
    (∀ x y : Nat, x < width → y < height →
      picture.rows[y]?.bind (·.toList[x]?) = some (topMark drawables width height x y)) ∧
    (∀ before d after, drawables = before ++ d :: after →
      (∃ v ∈ d.shape.arguments, v.isFinite = false) →
        renderAll (before ++ after) width height = picture) ∧
    (∀ before c after, drawables = before ++ .colored c :: after →
      renderAll (before ++ .bare c.shape :: after) width height = picture) ∧
    (0 < width → 0 < height → picture.text.toList.splitOn '\n' = picture.rows.map String.toList) := by
  refine ⟨⟨?_, fun row hrow => ?_⟩, fun x y hx hy => ?_, ?_, ?_, fun _ hheight => ?_⟩
  · rw [Grid.length_rows]
    omega
  · rw [Grid.length_row _ hrow]
    omega
  · rw [Grid.rows_getElem?, cell?_renderAll drawables hx hy]
  · rintro before d after rfl hd
    simp only [renderAll, List.foldl_append, List.foldl_cons, Grid.draw_of_not_finite _ hd]
  · rintro before c after rfl
    simp only [renderAll, List.foldl_append, List.foldl_cons, Drawable.shape]
  · exact Grid.splitOn_text _ (by omega) (renderAll_row_chars drawables width height)

end GridSketch
