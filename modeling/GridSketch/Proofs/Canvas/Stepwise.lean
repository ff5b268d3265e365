import GridSketch.Proofs.Canvas.Coverage
import Mathlib.Data.List.Sort
import Mathlib.Tactic.Ring

/-!
# Segments walked step by step

The classical walk along a segment keeps an error. Every major step adds twice the minor length to
it; when it exceeds the major length a minor step is made, which takes twice the major length off.
Neither a division nor a jump is needed, but the walk has to begin at the start. The cells of a
segment are worked out one at a time, each from its number alone.

* `Segment.walk`, `Segment.walked`: the walk, and the cells that it reaches.
* `Segment.Nearest`: the condition on the minor steps that both ways of working them out meet, and
  that only one number meets (`Segment.nearest_iff`).
* `Segment.cells_stepwise`: the cells of a segment are those of the walk that lie within the limit.
-/

namespace GridSketch

/-! ## Ranges -/

theorem pairwise_intRange (first last : Int) : (intRange first last).Pairwise (· < ·) := by
  rw [intRange, List.pairwise_map]
  exact List.pairwise_lt_range.imp fun h => by omega

theorem intRange_eq_filter {a b first last : Int} {test : Int → Bool}
    (h : ∀ i, (a ≤ i ∧ i ≤ b) ↔ (first ≤ i ∧ i ≤ last) ∧ test i = true) :
    intRange a b = (intRange first last).filter test := by
  refine (pairwise_intRange a b).eq_of_mem_iff ((pairwise_intRange first last).filter test) ?_
  intro i
  rw [List.mem_filter, mem_intRange, mem_intRange, h i]

namespace Segment

variable {s : Segment}

/-! ## The walk -/

/-- How far a walk has come: the error, and the number of minor steps. -/
structure Walk where
  error : Int
  steps : Int
  deriving DecidableEq, Repr

/-- One major step of the walk, and the minor step that goes with it if the error is too large. -/
def advance (s : Segment) (w : Walk) : Walk :=
  if s.majorLength < w.error + 2 * s.minorLength then
    ⟨w.error + 2 * s.minorLength - 2 * s.majorLength, w.steps + 1⟩
  else ⟨w.error + 2 * s.minorLength, w.steps⟩

/-- The walk after some major steps. -/
def walk (s : Segment) : Nat → Walk
  | 0 => ⟨0, 0⟩
  | i + 1 => s.advance (s.walk i)

/-- The cell that the walk reaches, by its major and its minor coordinate. -/
def reached (s : Segment) (i : Nat) : Int × Int :=
  (s.majorStart + direction s.majorStart s.majorEnd * i,
    s.minorStart + direction s.minorStart s.minorEnd * (s.walk i).steps)

/-- The cells of the whole walk, from the start. -/
def walked (s : Segment) : List (Int × Int) :=
  (List.range (s.majorLength.toNat + 1)).map s.reached

theorem majorLength_nonneg (s : Segment) : 0 ≤ s.majorLength := Int.natCast_nonneg _

theorem minorLength_nonneg (s : Segment) : 0 ≤ s.minorLength := Int.natCast_nonneg _

/-! ## The error -/

theorem advance_steps (s : Segment) (w : Walk) :
    (s.advance w).steps = w.steps ∨ (s.advance w).steps = w.steps + 1 := by
  unfold advance
  split
  · exact Or.inr rfl
  · exact Or.inl rfl

theorem advance_error (s : Segment) (w : Walk) :
    (s.advance w).error =
      w.error + 2 * s.minorLength - 2 * s.majorLength * ((s.advance w).steps - w.steps) := by
  unfold advance
  split
  · dsimp only
    ring
  · dsimp only
    ring

theorem advance_bounds (h : s.minorLength ≤ s.majorLength) {w : Walk}
    (hw : -s.majorLength < w.error ∧ w.error ≤ s.majorLength) :
    -s.majorLength < (s.advance w).error ∧ (s.advance w).error ≤ s.majorLength := by
  have hminor := s.minorLength_nonneg
  unfold advance
  split
  · dsimp only
    omega
  · dsimp only
    omega

/-- The error is twice the distance from the ideal line, counted in parts of a minor step of which
    the major length makes one. -/
theorem walk_error (s : Segment) (i : Nat) :
    (s.walk i).error = 2 * (i * s.minorLength - (s.walk i).steps * s.majorLength) := by
  induction i with
  | zero => simp [walk]
  | succ i ih =>
    rw [walk, advance_error, ih, Nat.cast_succ]
    ring

theorem walk_bounds (h : s.minorLength ≤ s.majorLength) (hmajor : 0 < s.majorLength) (i : Nat) :
    -s.majorLength < (s.walk i).error ∧ (s.walk i).error ≤ s.majorLength := by
  induction i with
  | zero =>
    rw [walk]
    dsimp only
    omega
  | succ i ih => exact advance_bounds h ih

/-! ## The nearest number of minor steps -/

/-- A number of minor steps is the nearest to the ideal line in `i` major steps: it is at most half
    a step away, and half a step only on the side of the start. -/
def Nearest (s : Segment) (i k : Int) : Prop :=
  -s.majorLength < 2 * (i * s.minorLength - k * s.majorLength) ∧
    2 * (i * s.minorLength - k * s.majorLength) ≤ s.majorLength

/-- The floor division finds the nearest number, and there is no other. -/
theorem nearest_iff (hmajor : 0 < s.majorLength) {i k : Int} :
    s.Nearest i k ↔ k = s.minorSteps i := by
  have hdouble : 0 < 2 * s.majorLength := by omega
  rw [minorSteps, if_neg hmajor.ne', Int.fdiv_eq_ediv_of_nonneg _ hdouble.le, eq_comm,
    neg_eq_iff_eq_neg, Int.ediv_eq_iff_of_pos hdouble]
  have hsplit : 2 * (i * s.minorLength - k * s.majorLength) =
      2 * i * s.minorLength - 2 * (k * s.majorLength) := by ring
  have hlow : -k * (2 * s.majorLength) = -(2 * (k * s.majorLength)) := by ring
  rw [Nearest, hsplit]
  constructor
  · rintro ⟨_, _⟩
    constructor <;> omega
  · rintro ⟨_, _⟩
    constructor <;> omega

theorem nearest_walk (h : s.minorLength ≤ s.majorLength) (hmajor : 0 < s.majorLength) (i : Nat) :
    s.Nearest i (s.walk i).steps := by
  rw [Nearest, ← walk_error]
  exact walk_bounds h hmajor i

theorem walk_steps (h : s.minorLength ≤ s.majorLength) {i : Nat} (hi : i ≤ s.majorLength) :
    (s.walk i).steps = s.minorSteps i := by
  obtain hmajor | hmajor := s.majorLength_nonneg.lt_or_eq
  · exact (nearest_iff hmajor).1 (nearest_walk h hmajor i)
  · -- a segment of a single cell, at which the walk stands
    obtain rfl : i = 0 := by omega
    rw [minorSteps, if_pos hmajor.symm, walk]

theorem cell_eq_reached (h : s.minorLength ≤ s.majorLength) {i : Nat} (hi : i ≤ s.majorLength) :
    s.cell i = s.reached i := by
  rw [cell, reached, walk_steps h hi]

/-! ## The cells of the walk -/

theorem path_eq_walked (h : s.minorLength ≤ s.majorLength) : s.path = s.walked := by
  have hmajor := s.majorLength_nonneg
  have hcount : (s.majorLength + 1 - 0).toNat = s.majorLength.toNat + 1 := by omega
  rw [path, walked, intRange, hcount, List.map_map]
  refine List.map_congr_left fun i hi => ?_
  rw [List.mem_range] at hi
  rw [Function.comp_apply, Int.zero_add, cell_eq_reached h (by omega)]

theorem cells_eq_filter (s : Segment) (limit : Nat) :
    s.cells limit = s.path.filter fun c : Int × Int => decide (0 ≤ c.1 ∧ c.1 < limit) := by
  rw [cells, path, List.filter_map, intRange_eq_filter]
  intro i
  rw [visible_iff, Function.comp_apply, decide_eq_true_eq]

theorem cell_injective (s : Segment) : Function.Injective s.cell := by
  intro i j hij
  have hmajor := congrArg Prod.fst hij
  simp only [cell, direction] at hmajor
  split at hmajor
  · omega
  · omega

theorem nodup_path (s : Segment) : s.path.Nodup :=
  ((pairwise_intRange 0 s.majorLength).imp fun h => h.ne).map _ fun _ _ h =>
    s.cell_injective.ne h

theorem add_direction_mul (first last : Int) :
    first + direction first last * (last - first).natAbs = last := by
  unfold direction
  split
  · omega
  · omega

theorem reached_zero (s : Segment) : s.reached 0 = (s.majorStart, s.minorStart) := by
  simp [reached, walk]

theorem reached_majorLength (h : s.minorLength ≤ s.majorLength) :
    s.reached s.majorLength.toNat = (s.majorEnd, s.minorEnd) := by
  have hlast : (s.majorLength.toNat : Int) = s.majorLength :=
    Int.toNat_of_nonneg s.majorLength_nonneg
  have hsteps : (s.walk s.majorLength.toNat).steps = s.minorLength := by
    obtain hmajor | hmajor := s.majorLength_nonneg.lt_or_eq
    · have hnearest : s.Nearest s.majorLength.toNat s.minorLength := by
        rw [Nearest, hlast, Int.mul_comm s.minorLength, Int.sub_self]
        omega
      rw [(nearest_iff hmajor).1 hnearest, walk_steps h hlast.le]
    · have hminor := s.minorLength_nonneg
      rw [← hmajor, Int.toNat_zero, walk]
      dsimp only
      omega
  rw [reached, hsteps, hlast, majorLength, minorLength, add_direction_mul, add_direction_mul]

theorem reached_succ (s : Segment) (i : Nat) :
    (s.reached (i + 1)).1 = (s.reached i).1 + direction s.majorStart s.majorEnd ∧
      ((s.reached (i + 1)).2 = (s.reached i).2 ∨
        (s.reached (i + 1)).2 = (s.reached i).2 + direction s.minorStart s.minorEnd) := by
  simp only [reached, walk]
  constructor
  · rw [Nat.cast_succ]
    ring
  · refine (s.advance_steps (s.walk i)).imp (fun h => by rw [h]) fun h => ?_
    rw [h]
    ring

/-- **The cells of a segment are the cells of the walk along it** whose major coordinate lies within
    the limit, in their order and without repetition. The walk makes the nearest number of minor
    steps, which no other number is; it begins at the start, arrives at the end, and goes from one
    cell to the next by one major step and at most one minor step towards the end. -/
theorem cells_stepwise (h : s.minorLength ≤ s.majorLength) (limit : Nat) :
    (s.cells limit = s.walked.filter (fun c : Int × Int => decide (0 ≤ c.1 ∧ c.1 < limit)) ∧
      (s.cells limit).Nodup) ∧
    (0 < s.majorLength → ∀ (i : Nat) (k : Int), s.Nearest i k ↔ k = (s.walk i).steps) ∧
    (s.reached 0 = (s.majorStart, s.minorStart) ∧
      s.reached s.majorLength.toNat = (s.majorEnd, s.minorEnd)) ∧
    ∀ i : Nat, (s.reached (i + 1)).1 = (s.reached i).1 + direction s.majorStart s.majorEnd ∧
      ((s.reached (i + 1)).2 = (s.reached i).2 ∨
        (s.reached (i + 1)).2 = (s.reached i).2 + direction s.minorStart s.minorEnd) := by
  refine ⟨⟨?_, ?_⟩, ?_, ⟨s.reached_zero, reached_majorLength h⟩, s.reached_succ⟩
  · rw [cells_eq_filter, path_eq_walked h]
  · rw [cells_eq_filter]
    exact s.nodup_path.filter _
  · intro hmajor i k
    rw [nearest_iff hmajor, (nearest_iff hmajor).1 (nearest_walk h hmajor i)]

/-- A segment to the left with both ends outside a grid of four columns. Its third major step is
    an exact tie. -/
theorem cells_stepwise_left :
    Segment.minorLength ⟨5, 0, -1, 3⟩ ≤ Segment.majorLength ⟨5, 0, -1, 3⟩ ∧
      0 < Segment.majorLength ⟨5, 0, -1, 3⟩ ∧
      Segment.cells ⟨5, 0, -1, 3⟩ 4 = [(3, 1), (2, 1), (1, 2), (0, 2)] ∧
      Segment.cells ⟨5, 0, -1, 3⟩ 4 =
        (walked ⟨5, 0, -1, 3⟩).filter (fun c : Int × Int => decide (0 ≤ c.1 ∧ c.1 < (4 : Nat))) ∧
      (Nearest ⟨5, 0, -1, 3⟩ (3 : Nat) 1 ↔ 1 = (walk ⟨5, 0, -1, 3⟩ 3).steps) :=
  have hlength : Segment.minorLength ⟨5, 0, -1, 3⟩ ≤ Segment.majorLength ⟨5, 0, -1, 3⟩ := by decide
  have hmajor : 0 < Segment.majorLength ⟨5, 0, -1, 3⟩ := by decide
  ⟨hlength, hmajor, by decide, (cells_stepwise hlength 4).1.1,
    (cells_stepwise hlength 4).2.1 hmajor 3 1⟩

end Segment

end GridSketch
