import GridSketch.Keyword
import GridSketch.Number.Layout
import GridSketch.Text.Quoted

/-!
# Tokens

A script is a flat list of tokens. A token has a kind, its text (a string literal without the quotes
around it) and the position of its first character.
-/

namespace GridSketch

/-- The binary operators. -/
inductive Operator where
  | plus
  | minus
  | star
  | slash
  | eq
  | ne
  | le
  | ge
  | lt
  | gt
  deriving DecidableEq, Repr

namespace Operator

/-- Arithmetic binds tighter than comparison, and `*` and `/` tighter than `+` and `-`. -/
def precedence : Operator → Nat
  | star | slash => 2
  | plus | minus => 1
  | eq | ne | le | ge | lt | gt => 0

/-- The spelling of an operator. -/
def symbol : Operator → String
  | plus => "+"
  | minus => "-"
  | star => "*"
  | slash => "/"
  | eq => "=="
  | ne => "!="
  | le => "<="
  | ge => ">="
  | lt => "<"
  | gt => ">"

end Operator

/-- The kinds of tokens. -/
inductive TokenKind where
  | number
  | string
  | identifier
  | keyword (k : Keyword)
  | operator (o : Operator)
  | question
  | colon
  | assign
  | leftParen
  | rightParen
  | comma
  deriving DecidableEq, Repr

namespace TokenKind

/-- The name of a kind. -/
def name : TokenKind → String
  | number => "NUMBER"
  | string => "STRING"
  | identifier => "IDENTIFIER"
  | keyword k => k.entry.tokenName
  | operator .plus => "PLUS"
  | operator .minus => "MINUS"
  | operator .star => "STAR"
  | operator .slash => "SLASH"
  | operator .eq => "EQ"
  | operator .ne => "NEQ"
  | operator .le => "LTE"
  | operator .ge => "GTE"
  | operator .lt => "LT"
  | operator .gt => "GT"
  | question => "TERNARY"
  | colon => "COLON"
  | assign => "ASSIGN"
  | leftParen => "LPAREN"
  | rightParen => "RPAREN"
  | comma => "COMMA"

/-- All kinds, in the order in which the lexer tries them: literals first, keywords before names,
    and an operator of two characters before the one that it begins with. -/
def all : List TokenKind :=
  [string, number] ++ Keyword.all.map keyword ++ [identifier] ++
  [operator .eq, operator .ne, operator .le, operator .ge, operator .lt, operator .gt, assign,
    operator .plus, operator .minus, operator .star, operator .slash, question, colon, leftParen,
    rightParen, comma]

theorem mem_all (kind : TokenKind) : kind ∈ all := by
  cases kind with
  | keyword k => cases k <;> decide
  | operator o => cases o <;> decide
  | _ => decide

/-- The kind with the given name. -/
def ofName? (name : String) : Option TokenKind := all.find? (·.name == name)

/-- The kinds that stand for a value on their own. -/
def isOperand : TokenKind → Bool
  | number | string | identifier => true
  | _ => false

end TokenKind

/-- A place in a script. Lines and columns are counted from one; a token made by hand may carry any
    position. -/
structure Position where
  line : Int := 1
  col : Int := 1
  deriving DecidableEq, Repr

namespace Position

/-- The place after a character. Only a line feed begins a new line. -/
def advance (p : Position) (c : Char) : Position :=
  if c = '\n' then ⟨p.line + 1, 1⟩ else ⟨p.line, p.col + 1⟩

/-- The place after a run of characters. -/
def advanceAll (p : Position) (cs : List Char) : Position := cs.foldl advance p

@[simp] theorem advanceAll_nil (p : Position) : p.advanceAll [] = p := rfl

@[simp] theorem advanceAll_cons (p : Position) (c : Char) (cs : List Char) :
    p.advanceAll (c :: cs) = (p.advance c).advanceAll cs := rfl

theorem advanceAll_append (p : Position) (cs ds : List Char) :
    p.advanceAll (cs ++ ds) = (p.advanceAll cs).advanceAll ds := by
  simp [advanceAll]

end Position

/-- A token of a script. -/
structure Token where
  kind : TokenKind
  text : String
  position : Position := {}
  deriving DecidableEq, Repr

namespace Token

/-- A token in full: kind, quoted text and position. -/
def describe (t : Token) : String :=
  "Token(" ++ t.kind.name ++ ", " ++ Text.quoted t.text ++ ", L" ++
    Number.intText t.position.line ++ ":" ++ Number.intText t.position.col ++ ")"

end Token

end GridSketch
