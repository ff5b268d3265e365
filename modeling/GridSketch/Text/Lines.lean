/-!
# Lines of text

A line feed ends a line. `unlines` puts lines together and `lines` takes a text apart; the last line
of a text need not be ended.
-/

namespace GridSketch.Text

/-- Lines, each ended by a line feed. -/
def unlines (ls : List String) : String := String.join (ls.map (· ++ "\n"))

/-- The lines of a text. -/
def lines (s : String) : List String :=
  let pieces := s.splitOn "\n"
  if pieces.getLast? = some "" then pieces.dropLast else pieces

end GridSketch.Text
