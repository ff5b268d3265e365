/-!
# Straight segments in whole cells

A segment is walked along its major axis, one cell at a time; on the minor axis it takes the cell
nearest to the ideal line, and a tie goes towards the start. Only the cells whose major coordinate
lies within a limit are produced, so an end far away costs nothing.
-/

namespace GridSketch

/-- A segment between two cells, by its major and its minor coordinates. -/
structure Segment where
  majorStart : Int
  minorStart : Int
  majorEnd : Int
  minorEnd : Int
  deriving DecidableEq, Repr

/-- The integers from `first` up to `last`, both included. -/
def intRange (first last : Int) : List Int :=
  (List.range (last + 1 - first).toNat).map fun (n : Nat) => first + n

@[simp] theorem mem_intRange {first last n : Int} :
    n ∈ intRange first last ↔ first ≤ n ∧ n ≤ last := by
  simp only [intRange, List.mem_map, List.mem_range]
  constructor
  · rintro ⟨k, hk, rfl⟩
    omega
  · intro h
    exact ⟨(n - first).toNat, by omega, by omega⟩

namespace Segment

/-- The length along the major axis. -/
def majorLength (s : Segment) : Int := (s.majorEnd - s.majorStart).natAbs

/-- The length along the minor axis. -/
def minorLength (s : Segment) : Int := (s.minorEnd - s.minorStart).natAbs

/-- The direction from one coordinate to another: one step up or down. -/
def direction (first last : Int) : Int := if first ≤ last then 1 else -1

/-- The number of minor steps made in `i` major steps: the whole number nearest to the ideal one,
    the lower of two that are equally near. -/
def minorSteps (s : Segment) (i : Int) : Int :=
  if s.majorLength = 0 then 0
  else -(s.majorLength - 2 * i * s.minorLength).fdiv (2 * s.majorLength)

/-- The cell reached in `i` major steps, by its major and its minor coordinate. -/
def cell (s : Segment) (i : Int) : Int × Int :=
  (s.majorStart + direction s.majorStart s.majorEnd * i,
    s.minorStart + direction s.minorStart s.minorEnd * s.minorSteps i)

/-- The first and the last major step with a major coordinate from zero up to below the limit. -/
def visible (s : Segment) (limit : Nat) : Int × Int :=
  if s.majorStart ≤ s.majorEnd then
    (max 0 (-s.majorStart), min s.majorLength (limit - 1 - s.majorStart))
  else (max 0 (s.majorStart - (limit - 1)), min s.majorLength s.majorStart)

/-- The cells with a major coordinate from zero up to below the limit, from the start. -/
def cells (s : Segment) (limit : Nat) : List (Int × Int) :=
  (intRange (s.visible limit).1 (s.visible limit).2).map s.cell

end Segment

end GridSketch
