import GridSketch.Diagnostic
import GridSketch.Token.Lexeme

/-!
# From a script to its tokens

Blanks separate tokens and are dropped. At every other character the first kind of token with a
lexeme there is taken; if no kind has one, the script is refused at that place.

* `Lexer.tokens` reads the tokens of a text that begins at a given position.
* `tokenize` reads a whole script.
-/

namespace GridSketch

namespace Lexer

/-- The characters of a refused line that are shown. -/
def snippetWidth : Nat := 20

/-- The rest of a line, cut short if it is long. -/
def snippet (cs : List Char) : String :=
  let line := cs.takeWhile (· != '\n')
  if line.length ≤ snippetWidth then String.ofList line
  else String.ofList (line.take snippetWidth) ++ "..."

/-- The tokens of a text that begins at position `p`. -/
def tokens (p : Position) (cs : List Char) : Except Diagnostic (List Token) :=
  let start := p.advanceAll (cs.takeWhile Text.isBlank)
  let rest := cs.dropWhile Text.isBlank
  if _hrest : rest = [] then .ok []
  else
    match _hfirst : firstLexeme? rest with
    | none => .error (.atPosition start (.noToken (snippet rest)))
    | some (kind, n) =>
      let lexeme := rest.take n
      let token : Token := ⟨kind, String.ofList (kind.textOf lexeme), start⟩
      (tokens (start.advanceAll lexeme) (rest.drop n)).map (token :: ·)
  termination_by cs.length
  decreasing_by
    have hpos := firstLexeme?_pos _hfirst
    have hle := (List.dropWhile_suffix (l := cs) Text.isBlank).length_le
    have hne := List.length_pos_iff.2 _hrest
    rw [List.length_drop]
    exact Nat.lt_of_lt_of_le (Nat.sub_lt hne hpos) hle

end Lexer

/-- The tokens of a script, or the place where none begins. -/
def tokenize (source : String) : Except Diagnostic (List Token) := Lexer.tokens {} source.toList

end GridSketch
