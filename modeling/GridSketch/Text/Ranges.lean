/-!
# Character classes as tables of code points

A class of characters is a list of inclusive ranges of code points, in ascending order.
-/

namespace GridSketch.Text

/-- A character belongs to a table when its code point lies in one of the ranges. -/
def inRanges (table : List (Nat × Nat)) (c : Char) : Bool :=
  table.any fun range => range.1 ≤ c.toNat && c.toNat ≤ range.2

theorem inRanges_iff {table : List (Nat × Nat)} {c : Char} :
    inRanges table c = true ↔ ∃ range ∈ table, range.1 ≤ c.toNat ∧ c.toNat ≤ range.2 := by
  simp [inRanges]

end GridSketch.Text
