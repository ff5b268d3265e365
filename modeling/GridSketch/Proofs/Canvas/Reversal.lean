import GridSketch.Proofs.Canvas.Border
import GridSketch.Proofs.Canvas.Stepwise
import Mathlib.Tactic.LinearCombination

/-!
# Lines drawn from the other end

A line and its reversal are walked along the same axis over the same coordinates. On the minor axis
each takes the cell nearest to the ideal line, which is the same line. They differ where the ideal
line is half way between two cells: there each takes the cell on the side of its own start.

* `Segment.reversed`, `Segment.HalfWay`: the segment walked the other way, and the steps where two
  cells are equally near.
* `Span.axis`, `Span.segment`: the axis of a line and the segment between its ends.
* `Grid.draw_line_reversed`: what becomes of a drawing when its line is reversed.
-/

namespace GridSketch

namespace Segment

/-- The segment from the end to the start. -/
def reversed (s : Segment) : Segment := ⟨s.majorEnd, s.minorEnd, s.majorStart, s.minorStart⟩

/-- In `i` major steps, between the start and the end, the ideal line is half way between two cells:
    an odd number of half minor steps has been made. -/
def HalfWay (s : Segment) (i : Int) : Prop :=
  0 < i ∧ i < s.majorLength ∧ ∃ k, 2 * i * s.minorLength = (2 * k + 1) * s.majorLength

variable {s : Segment}

@[simp] theorem majorLength_reversed (s : Segment) : s.reversed.majorLength = s.majorLength := by
  simp only [majorLength, reversed]
  omega

@[simp] theorem minorLength_reversed (s : Segment) : s.reversed.minorLength = s.minorLength := by
  simp only [minorLength, reversed]
  omega

/-! ## The minor steps of the walk back -/

/-- What the walk back still has to make is at most half a step away from the ideal line, and half a
    step only on the side of the end. -/
theorem nearest_reversed {i k : Int} :
    s.reversed.Nearest (s.majorLength - i) (s.minorLength - k) ↔
      -s.majorLength ≤ 2 * (i * s.minorLength - k * s.majorLength) ∧
        2 * (i * s.minorLength - k * s.majorLength) < s.majorLength := by
  have hback : 2 * ((s.majorLength - i) * s.minorLength - (s.minorLength - k) * s.majorLength) =
      -(2 * (i * s.minorLength - k * s.majorLength)) := by ring
  rw [Nearest, majorLength_reversed, minorLength_reversed, hback]
  constructor
  · rintro ⟨_, _⟩
    constructor <;> omega
  · rintro ⟨_, _⟩
    constructor <;> omega

theorem error_of_halfWay {i k : Int} (hnearest : s.Nearest i k) (h : s.HalfWay i) :
    2 * (i * s.minorLength - k * s.majorLength) = s.majorLength := by
  obtain ⟨hpos, hlt, m, hm⟩ := h
  have hmajor : 0 < s.majorLength := by omega
  have herror : 2 * (i * s.minorLength - k * s.majorLength) =
      (2 * (m - k) + 1) * s.majorLength := by
    have hsplit : 2 * (i * s.minorLength - k * s.majorLength) =
        2 * i * s.minorLength - 2 * k * s.majorLength := by ring
    rw [hsplit, hm]
    ring
  obtain ⟨hlow, hhigh⟩ := hnearest
  rw [herror] at hlow hhigh
  -- of the odd multiples of the major length, only the first one is small enough
  have hm_low : -1 < 2 * (m - k) + 1 := by
    refine Int.lt_of_mul_lt_mul_right ?_ hmajor.le
    rwa [neg_one_mul]
  have hm_high : 2 * (m - k) + 1 ≤ 1 := by
    refine Int.le_of_mul_le_mul_right ?_ hmajor
    rwa [one_mul]
  obtain rfl : m = k := by omega
  rw [herror]
  ring

theorem error_of_not_halfWay (hmajor : 0 < s.majorLength) {i k : Int} (hi : 0 ≤ i)
    (hle : i ≤ s.majorLength) (hnearest : s.Nearest i k) (h : ¬ s.HalfWay i) :
    2 * (i * s.minorLength - k * s.majorLength) < s.majorLength := by
  refine lt_of_le_of_ne hnearest.2 fun herror => h ?_
  have hodd : 2 * i * s.minorLength = (2 * k + 1) * s.majorLength := by
    linear_combination herror
  refine ⟨lt_of_le_of_ne hi ?_, lt_of_le_of_ne hle ?_, k, hodd⟩
  · rintro rfl
    have hzero : 2 * k + 1 = 0 := by
      refine (mul_eq_zero.1 ?_).resolve_right hmajor.ne'
      rw [← hodd]
      ring
    omega
  · rintro rfl
    have heven : 2 * s.minorLength = 2 * k + 1 := by
      refine mul_right_cancel₀ hmajor.ne' ?_
      rw [← hodd]
      ring
    omega

theorem minorSteps_reversed (hmajor : 0 < s.majorLength) {i : Int} (hi : 0 ≤ i)
    (hle : i ≤ s.majorLength) (h : ¬ s.HalfWay i) :
    s.reversed.minorSteps (s.majorLength - i) = s.minorLength - s.minorSteps i := by
  have hnearest : s.Nearest i (s.minorSteps i) := (nearest_iff hmajor).2 rfl
  have hback : s.reversed.Nearest (s.majorLength - i) (s.minorLength - s.minorSteps i) :=
    nearest_reversed.2 ⟨hnearest.1.le, error_of_not_halfWay hmajor hi hle hnearest h⟩
  exact ((nearest_iff (by rwa [majorLength_reversed])).1 hback).symm

theorem minorSteps_reversed_halfWay {i : Int} (h : s.HalfWay i) :
    s.reversed.minorSteps (s.majorLength - i) = s.minorLength - (s.minorSteps i + 1) := by
  have hmajor : 0 < s.majorLength := h.1.trans h.2.1
  have herror := error_of_halfWay ((nearest_iff hmajor).2 rfl) h
  have hnext : 2 * (i * s.minorLength - (s.minorSteps i + 1) * s.majorLength) =
      -s.majorLength := by
    linear_combination herror
  have hback : s.reversed.Nearest (s.majorLength - i) (s.minorLength - (s.minorSteps i + 1)) :=
    nearest_reversed.2 (by rw [hnext]; omega)
  exact ((nearest_iff (by rwa [majorLength_reversed])).1 hback).symm

/-! ## The cells of the walk back -/

theorem add_direction_left (first last : Int) {k : Int} (hk : first = last → k = 0) :
    last + direction last first * ((last - first).natAbs - k) =
      first + direction first last * k := by
  unfold direction
  rcases lt_trichotomy first last with h | rfl | h
  · rw [if_neg (by omega), if_pos h.le]
    omega
  · simp [hk rfl]
  · rw [if_pos h.le, if_neg (by omega)]
    omega

theorem minorSteps_eq_zero (h : s.minorStart = s.minorEnd) (i : Int) : s.minorSteps i = 0 := by
  have hminor : s.minorLength = 0 := by simp [minorLength, h]
  rcases s.majorLength_nonneg.lt_or_eq with hmajor | hmajor
  · refine ((nearest_iff hmajor).1 ?_).symm
    rw [Nearest, hminor, mul_zero, zero_mul]
    omega
  · rw [minorSteps, if_pos hmajor.symm]

theorem cell_reversed_fst (s : Segment) {i : Int} (hi : 0 ≤ i) (hle : i ≤ s.majorLength) :
    (s.reversed.cell (s.majorLength - i)).1 = (s.cell i).1 := by
  refine add_direction_left s.majorStart s.majorEnd fun h => ?_
  simp only [majorLength, h] at hle
  omega

/-- **Off the half way, the walk back meets the cells of the walk there.** -/
theorem cell_reversed (h : s.minorLength ≤ s.majorLength) {i : Int} (hi : 0 ≤ i)
    (hle : i ≤ s.majorLength) (hoff : ¬ s.HalfWay i) :
    s.reversed.cell (s.majorLength - i) = s.cell i := by
  refine Prod.ext (cell_reversed_fst s hi hle) ?_
  have hsteps : s.reversed.minorSteps (s.majorLength - i) = s.minorLength - s.minorSteps i := by
    rcases s.majorLength_nonneg.lt_or_eq with hmajor | hmajor
    · exact minorSteps_reversed hmajor hi hle hoff
    · -- a segment of a single cell
      have hminor := s.minorLength_nonneg
      rw [minorSteps, minorSteps, majorLength_reversed, if_pos hmajor.symm, if_pos hmajor.symm]
      omega
  simp only [cell]
  rw [hsteps]
  exact add_direction_left s.minorStart s.minorEnd fun heq => minorSteps_eq_zero heq i

/-- **Half way, it meets the next cell** on the minor axis, in the direction of the walk there. -/
theorem cell_reversed_halfWay {i : Int} (h : s.HalfWay i) :
    (s.reversed.cell (s.majorLength - i)).2 =
      (s.cell i).2 + direction s.minorStart s.minorEnd := by
  simp only [cell]
  rw [minorSteps_reversed_halfWay h]
  have hback : s.minorEnd + direction s.minorEnd s.minorStart *
      (s.minorLength - (s.minorSteps i + 1)) =
      s.minorStart + direction s.minorStart s.minorEnd * (s.minorSteps i + 1) := by
    refine add_direction_left s.minorStart s.minorEnd fun heq => ?_
    -- a segment without minor steps is nowhere half way
    obtain ⟨hpos, hlt, k, hk⟩ := h
    have hminor : s.minorLength = 0 := by simp [minorLength, heq]
    rw [hminor, mul_zero, eq_comm, mul_eq_zero] at hk
    omega
  refine hback.trans ?_
  ring

theorem minorSteps_of_halfWay {i : Int} (h : s.HalfWay i) :
    0 ≤ s.minorSteps i ∧ s.minorSteps i + 1 ≤ s.minorLength := by
  have hmajor : 0 < s.majorLength := h.1.trans h.2.1
  have hminor := s.minorLength_nonneg
  have herror := error_of_halfWay ((nearest_iff hmajor).2 rfl) h
  have hstart : 0 ≤ i * s.minorLength := mul_nonneg h.1.le hminor
  have hend : i * s.minorLength ≤ s.minorLength * s.majorLength := by
    rw [mul_comm s.minorLength]
    exact mul_le_mul_of_nonneg_right h.2.1.le hminor
  have hlow : -1 < s.minorSteps i := by
    refine Int.lt_of_mul_lt_mul_right (a := s.majorLength) ?_ hmajor.le
    rw [neg_one_mul]
    omega
  have hhigh : s.minorSteps i < s.minorLength := by
    refine Int.lt_of_mul_lt_mul_right (a := s.majorLength) ?_ hmajor.le
    omega
  omega

/-- The two cells are neighbours with the ideal line in their middle, and each of them is the one
    nearer to where its walk begins. -/
theorem cells_of_halfWay {i : Int} (h : s.HalfWay i) :
    let there := s.cell i
    let back := s.reversed.cell (s.majorLength - i)
    (back.2 - there.2).natAbs = 1 ∧
      (there.2 + back.2) * s.majorLength = 2 * (s.minorStart * s.majorLength +
        direction s.minorStart s.minorEnd * (i * s.minorLength)) ∧
      (there.2 - s.minorStart).natAbs < (back.2 - s.minorStart).natAbs ∧
      (back.2 - s.minorEnd).natAbs < (there.2 - s.minorEnd).natAbs := by
  intro there back
  have hback : back.2 = there.2 + direction s.minorStart s.minorEnd := cell_reversed_halfWay h
  have hthere : there.2 = s.minorStart + direction s.minorStart s.minorEnd * s.minorSteps i := rfl
  have herror := error_of_halfWay ((nearest_iff (h.1.trans h.2.1)).2 rfl) h
  refine ⟨?_, ?_, ?_⟩
  · rw [hback, direction]
    split <;> omega
  · rw [hback, hthere]
    linear_combination -direction s.minorStart s.minorEnd * herror
  · have hsteps := minorSteps_of_halfWay h
    have hlength : s.minorLength = (s.minorEnd - s.minorStart).natAbs := rfl
    rw [hback, hthere, direction]
    split
    · constructor <;> omega
    · constructor <;> omega

theorem map_fst_path_reversed (s : Segment) :
    s.reversed.path.map Prod.fst = (s.path.map Prod.fst).reverse := by
  have hcount : ((s.majorLength + 1 - 0).toNat : Int) = s.majorLength + 1 := by
    have := s.majorLength_nonneg
    omega
  rw [path, path, majorLength_reversed, intRange]
  generalize (s.majorLength + 1 - 0).toNat = count at hcount
  simp only [List.map_map]
  refine List.ext_getElem (by simp) fun j hj _ => ?_
  simp only [List.length_map, List.length_range] at hj
  simp only [List.getElem_map, List.getElem_range, List.getElem_reverse, List.length_map,
    List.length_range, Function.comp_apply, zero_add]
  have hstep : (j : Int) = s.majorLength - (count - 1 - j : Nat) := by omega
  rw [hstep]
  exact cell_reversed_fst s (by omega) (by omega)

theorem mem_path_reversed {c : Int × Int} :
    c ∈ s.reversed.path ↔
      ∃ i, (0 ≤ i ∧ i ≤ s.majorLength) ∧ s.reversed.cell (s.majorLength - i) = c := by
  simp only [path, List.mem_map, mem_intRange, majorLength_reversed]
  constructor
  · rintro ⟨j, hj, rfl⟩
    exact ⟨s.majorLength - j, by omega, by rw [sub_sub_cancel]⟩
  · rintro ⟨i, hi, rfl⟩
    exact ⟨s.majorLength - i, by omega, rfl⟩

end Segment

/-! ## Lines -/

/-- The axis along which a line is walked. -/
inductive Axis where
  | horizontal
  | vertical
  deriving DecidableEq, Repr

/-- The cell with a major and a minor coordinate. -/
def Axis.cell : Axis → Int × Int → Int × Int
  | horizontal, c => c
  | vertical, c => c.swap

namespace Span

/-- The axis with the greater length, the horizontal one if both are equal. -/
def axis (l : Span) : Axis :=
  if (l.y₁ - l.y₀).natAbs ≤ (l.x₁ - l.x₀).natAbs then .horizontal else .vertical

/-- The segment from one end to the other, by its coordinates along an axis and across it. -/
def along (l : Span) : Axis → Segment
  | .horizontal => ⟨l.x₀, l.y₀, l.x₁, l.y₁⟩
  | .vertical => ⟨l.y₀, l.x₀, l.y₁, l.x₁⟩

/-- The segment that is walked. -/
def segment (l : Span) : Segment := l.along l.axis

/-- The cells of a line, from one end to the other. -/
def cells (l : Span) : List (Int × Int) := l.segment.path.map l.axis.cell

/-- The line from the other end. -/
def reversed (l : Span) : Span := ⟨l.x₁, l.y₁, l.x₀, l.y₀⟩

variable {l : Span}

theorem axis_reversed (l : Span) : l.reversed.axis = l.axis := by
  have hx : (l.x₀ - l.x₁).natAbs = (l.x₁ - l.x₀).natAbs := by omega
  have hy : (l.y₀ - l.y₁).natAbs = (l.y₁ - l.y₀).natAbs := by omega
  simp only [axis, reversed, hx, hy]

theorem segment_reversed (l : Span) : l.reversed.segment = l.segment.reversed := by
  rw [segment, segment, axis_reversed]
  cases l.axis <;> rfl

theorem minorLength_segment (l : Span) : l.segment.minorLength ≤ l.segment.majorLength := by
  unfold segment axis
  split
  · simp only [along, Segment.minorLength, Segment.majorLength]
    omega
  · simp only [along, Segment.minorLength, Segment.majorLength]
    omega

theorem cells_eq (l : Span) : l.cells = segmentPath l.x₀ l.y₀ l.x₁ l.y₁ := by
  unfold cells segment axis segmentPath
  split
  · exact List.map_id _
  · rfl

theorem mem_cells {c : Int × Int} :
    c ∈ l.cells ↔
      ∃ i, (0 ≤ i ∧ i ≤ l.segment.majorLength) ∧ l.axis.cell (l.segment.cell i) = c := by
  simp [cells, Segment.path]

theorem mem_cells_reversed {c : Int × Int} :
    c ∈ l.reversed.cells ↔ ∃ i, (0 ≤ i ∧ i ≤ l.segment.majorLength) ∧
      l.axis.cell (l.reversed.segment.cell (l.segment.majorLength - i)) = c := by
  simp only [cells, List.mem_map, axis_reversed, segment_reversed, Segment.mem_path_reversed]
  constructor
  · rintro ⟨_, ⟨i, hi, rfl⟩, rfl⟩
    exact ⟨i, hi, rfl⟩
  · rintro ⟨i, hi, rfl⟩
    exact ⟨_, ⟨i, hi, rfl⟩, rfl⟩

theorem TruncatedFrom.reversed {first last : Point} (h : l.TruncatedFrom first last) :
    l.reversed.TruncatedFrom last first := ⟨h.x₁, h.y₁, h.x₀, h.y₀⟩

end Span

/-! ## Drawing a line -/

namespace Grid

variable {width height : Nat}

/-- A grid of this size has the cell. -/
def Shows (width height : Nat) (c : Int × Int) : Prop :=
  (0 ≤ c.1 ∧ c.1 < width) ∧ 0 ≤ c.2 ∧ c.2 < height

instance (c : Int × Int) : Decidable (Shows width height c) := inferInstanceAs (Decidable (_ ∧ _))

theorem draw_line {first last : Point} {l : Span} (hl : l.TruncatedFrom first last)
    (g : Grid width height) : g.draw (.line first last) = g.plotAll lineMark l.cells := by
  rw [hl.draw]
  refine ext_cell? fun x y hx hy => ?_
  rw [cell?_plotAll _ _ _ hx hy, cell?_plotAll _ _ _ hx hy, l.cells_eq]
  simp only [mem_segmentCells (show (0 : Int) ≤ x ∧ (x : Int) < width by omega)
    (show (0 : Int) ≤ y ∧ (y : Int) < height by omega)]

theorem plotAll_congr (mark : Char) (g : Grid width height) {points points' : List (Int × Int)}
    (h : ∀ c, Shows width height c → (c ∈ points ↔ c ∈ points')) :
    g.plotAll mark points = g.plotAll mark points' := by
  refine ext_cell? fun x y hx hy => ?_
  have hshown : Shows width height ((x : Int), (y : Int)) := ⟨by omega, by omega⟩
  rw [cell?_plotAll _ _ _ hx hy, cell?_plotAll _ _ _ hx hy]
  simp only [h _ hshown]

/-- **Reversing a line changes it only where it is half way between two cells.** A line from finite
    numbers has whole ends, and drawing it plots its cells from one end to the other. The line from
    the other end has the same major axis and the same major coordinates, in the reverse order. At
    each of them it has the same cell, unless the ideal line is half way between two cells there;
    then the two lines have these two cells, and each has the one nearer to its own start. So if the
    grid has no such cell, both leave the same drawing. -/
theorem draw_line_reversed {first last : Point}
    (hfinite : ∀ v ∈ (Shape.line first last).arguments, v.isFinite = true) :
    ∃ l : Span, l.TruncatedFrom first last ∧
      (∀ {width height : Nat} (g : Grid width height),
        g.draw (.line first last) = g.plotAll lineMark (l.segment.path.map l.axis.cell) ∧
        g.draw (.line last first) =
          g.plotAll lineMark (l.reversed.segment.path.map l.reversed.axis.cell)) ∧
      l.reversed.axis = l.axis ∧
      l.reversed.segment.path.map Prod.fst = (l.segment.path.map Prod.fst).reverse ∧
      (∀ i, 0 ≤ i → i ≤ l.segment.majorLength →
        let there := l.segment.cell i
        let back := l.reversed.segment.cell (l.segment.majorLength - i)
        back.1 = there.1 ∧ (¬ l.segment.HalfWay i → back.2 = there.2) ∧
        (l.segment.HalfWay i →
          (back.2 - there.2).natAbs = 1 ∧
          (there.2 + back.2) * l.segment.majorLength =
            2 * (l.segment.minorStart * l.segment.majorLength +
              Segment.direction l.segment.minorStart l.segment.minorEnd *
                (i * l.segment.minorLength)) ∧
          (there.2 - l.segment.minorStart).natAbs < (back.2 - l.segment.minorStart).natAbs ∧
          (back.2 - l.reversed.segment.minorStart).natAbs <
            (there.2 - l.reversed.segment.minorStart).natAbs)) ∧
      ∀ {width height : Nat} (g : Grid width height),
        (∀ i, l.segment.HalfWay i → ¬ Shows width height (l.axis.cell (l.segment.cell i)) ∧
          ¬ Shows width height
            (l.axis.cell (l.reversed.segment.cell (l.segment.majorLength - i)))) →
        g.draw (.line last first) = g.draw (.line first last) := by
  obtain ⟨l, hl⟩ := Span.exists_truncatedFrom hfinite
  refine ⟨l, hl, fun g => ⟨draw_line hl g, draw_line hl.reversed g⟩, l.axis_reversed, ?_,
    fun i hi hle => ⟨?_, fun hoff => ?_, fun hhalf => ?_⟩, fun g hunseen => ?_⟩
  · rw [l.segment_reversed, Segment.map_fst_path_reversed]
  · rw [l.segment_reversed, Segment.cell_reversed_fst _ hi hle]
  · rw [l.segment_reversed, Segment.cell_reversed l.minorLength_segment hi hle hoff]
  · rw [l.segment_reversed]
    exact Segment.cells_of_halfWay hhalf
  · rw [draw_line hl, draw_line hl.reversed]
    refine plotAll_congr _ _ fun c hc => ?_
    rw [Span.mem_cells_reversed, Span.mem_cells]
    refine exists_congr fun i => and_congr_right fun hi => ?_
    by_cases hhalf : l.segment.HalfWay i
    · -- neither line has the cell, which is on the grid, at this step
      obtain ⟨hthere, hback⟩ := hunseen i hhalf
      refine iff_of_false ?_ ?_
      · rintro rfl
        exact hback hc
      · rintro rfl
        exact hthere hc
    · rw [l.segment_reversed, Segment.cell_reversed l.minorLength_segment hi.1 hi.2 hhalf]

/-- A line from (0, 0) to (4, 2) is half way between two cells at its first step. A grid of a single
    column shows nothing of that. -/
theorem draw_line_reversed_slope :
    let line : Shape := .line ⟨0.5, 0⟩ ⟨4.9, 2⟩
    let span : Span := ⟨0, 0, 4, 2⟩
    (∀ v ∈ line.arguments, v.isFinite = true) ∧ span.TruncatedFrom ⟨0.5, 0⟩ ⟨4.9, 2⟩ ∧
      span.segment.HalfWay 1 ∧
      ((span.reversed.segment.cell 3).2 - (span.segment.cell 1).2).natAbs = 1 ∧
      (blank 1 3).draw (.line ⟨4.9, 2⟩ ⟨0.5, 0⟩) = (blank 1 3).draw line := by
  intro line span
  have hfinite : ∀ v ∈ line.arguments, v.isFinite = true := by decide
  have hspan : span.TruncatedFrom ⟨0.5, 0⟩ ⟨4.9, 2⟩ :=
    ⟨by decide, by decide +kernel, by decide, by decide⟩
  have hhalf : span.segment.HalfWay 1 := ⟨by decide, by decide, 0, by decide⟩
  obtain ⟨l, hl, -, -, -, hcells, hdraw⟩ := draw_line_reversed hfinite
  obtain rfl : l = span := hl.unique hspan
  refine ⟨hfinite, hspan, hhalf, ((hcells 1 (by decide) (by decide)).2.2 hhalf).1,
    hdraw (blank 1 3) fun i hi => ?_⟩
  obtain ⟨hpos, hlt, -⟩ := hi
  have hlength : span.segment.majorLength = 4 := by decide
  rw [hlength] at hlt ⊢
  obtain rfl | rfl | rfl : i = 1 ∨ i = 2 ∨ i = 3 := by omega
  all_goals exact ⟨by decide, by decide⟩

end Grid

end GridSketch
