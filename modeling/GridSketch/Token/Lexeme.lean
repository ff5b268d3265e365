import GridSketch.Text.Blank
import GridSketch.Text.Digit
import GridSketch.Text.Word
import GridSketch.Token

/-!
# Lexemes

A lexeme is the text of one token in a script. Each kind of token says how long its lexeme is at the
beginning of a text, if there is one.

* `TokenKind.lexemeLength?` is the rule of a kind. A number may have a sign and a fraction; a string
  runs to the next quote; a keyword must end where a word ends; a name is made of ASCII letters,
  digits and underscores; every other kind has one spelling.
* `firstLexeme?` is the first kind of `TokenKind.all` with a lexeme.
-/

namespace GridSketch

/-- The characters a name may begin with. -/
def isNameStart (c : Char) : Bool := c.isAlpha || c == '_'

/-- The characters a name may go on with. -/
def isNameChar (c : Char) : Bool := c.isAlphanum || c == '_'

/-- The length of a string literal, quotes included. -/
def stringLength? : List Char → Option Nat
  | '"' :: cs => if cs.contains '"' then some ((cs.takeWhile (· != '"')).length + 2) else none
  | _ => none

/-- The length of a point and the digits after it; nothing if there is no digit. -/
def fractionLength : List Char → Nat
  | '.' :: cs =>
    let digits := (cs.takeWhile Text.isDecimalDigit).length
    if digits = 0 then 0 else digits + 1
  | _ => 0

/-- The length of digits with an optional fraction. -/
def unsignedLength? (cs : List Char) : Option Nat :=
  let digits := (cs.takeWhile Text.isDecimalDigit).length
  if digits = 0 then none else some (digits + fractionLength (cs.drop digits))

/-- The length of a number literal: an optional minus sign, digits and an optional fraction. -/
def numberLength? : List Char → Option Nat
  | '-' :: cs => (unsignedLength? cs).map (· + 1)
  | cs => unsignedLength? cs

/-- The length of a name. -/
def nameLength? : List Char → Option Nat
  | c :: cs => if isNameStart c then some ((cs.takeWhile isNameChar).length + 1) else none
  | [] => none

/-- The length of a given spelling. -/
def spellingLength? (spelling cs : List Char) : Option Nat :=
  if spelling.isPrefixOf cs then some spelling.length else none

/-- The length of a given spelling that has to end where a word ends. -/
def wordLength? (word cs : List Char) : Option Nat :=
  if word.isPrefixOf cs && Text.atWordEnd (cs.drop word.length) then some word.length else none

/-- The length of the lexeme of a kind at the beginning of a text. -/
def TokenKind.lexemeLength? : TokenKind → List Char → Option Nat
  | .string, cs => stringLength? cs
  | .number, cs => numberLength? cs
  | .keyword k, cs => wordLength? k.word.toList cs
  | .identifier, cs => nameLength? cs
  | .operator o, cs => spellingLength? o.symbol.toList cs
  | .assign, cs => spellingLength? ['='] cs
  | .question, cs => spellingLength? ['?'] cs
  | .colon, cs => spellingLength? [':'] cs
  | .leftParen, cs => spellingLength? ['('] cs
  | .rightParen, cs => spellingLength? [')'] cs
  | .comma, cs => spellingLength? [','] cs

/-- The first kind with a lexeme at the beginning of a text, and the length of the lexeme. -/
def firstLexeme? (cs : List Char) : Option (TokenKind × Nat) :=
  TokenKind.all.findSome? fun kind => (kind.lexemeLength? cs).map (kind, ·)

/-- The text of a token, from its lexeme: a string loses its quotes. -/
def TokenKind.textOf (kind : TokenKind) (lexeme : List Char) : List Char :=
  if kind = .string then (lexeme.drop 1).dropLast else lexeme

/-! ## No lexeme is empty -/

theorem spellingLength?_pos {spelling cs : List Char} {n : Nat}
    (h : spellingLength? spelling cs = some n) (hs : spelling ≠ []) : 0 < n := by
  have hpos := List.length_pos_iff.2 hs
  unfold spellingLength? at h
  split at h <;> grind

theorem wordLength?_pos {word cs : List Char} {n : Nat}
    (h : wordLength? word cs = some n) (hw : word ≠ []) : 0 < n := by
  have hpos := List.length_pos_iff.2 hw
  unfold wordLength? at h
  split at h <;> grind

theorem unsignedLength?_pos {cs : List Char} {n : Nat} (h : unsignedLength? cs = some n) :
    0 < n := by
  simp only [unsignedLength?] at h
  split at h <;> grind

theorem numberLength?_pos {cs : List Char} {n : Nat} (h : numberLength? cs = some n) : 0 < n := by
  unfold numberLength? at h
  split at h
  · obtain ⟨m, -, rfl⟩ := Option.map_eq_some_iff.1 h
    omega
  · exact unsignedLength?_pos h

theorem nameLength?_pos {cs : List Char} {n : Nat} (h : nameLength? cs = some n) : 0 < n := by
  unfold nameLength? at h
  split at h <;> simp_all
  omega

theorem stringLength?_pos {cs : List Char} {n : Nat} (h : stringLength? cs = some n) : 0 < n := by
  unfold stringLength? at h
  split at h <;> simp_all
  omega

theorem TokenKind.lexemeLength?_pos {kind : TokenKind} {cs : List Char} {n : Nat}
    (h : kind.lexemeLength? cs = some n) : 0 < n := by
  cases kind with
  | string => exact stringLength?_pos h
  | number => exact numberLength?_pos h
  | identifier => exact nameLength?_pos h
  | keyword k => exact wordLength?_pos h (by cases k <;> decide)
  | operator o => exact spellingLength?_pos h (by cases o <;> decide)
  | _ => exact spellingLength?_pos h (by decide)

theorem firstLexeme?_pos {cs : List Char} {kind : TokenKind} {n : Nat}
    (h : firstLexeme? cs = some (kind, n)) : 0 < n := by
  obtain ⟨k, -, hk⟩ := List.exists_of_findSome?_eq_some h
  obtain ⟨m, hm, heq⟩ := Option.map_eq_some_iff.1 hk
  obtain ⟨rfl, rfl⟩ := Prod.mk.inj heq
  exact TokenKind.lexemeLength?_pos hm

end GridSketch
