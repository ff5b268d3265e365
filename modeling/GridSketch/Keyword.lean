/-!
# Keywords

Seven words open a statement. Each has an entry in the reference: its family, the number of
arguments that follow it, and the texts shown to the user.

* `Keyword.all` lists them in the order of the reference, which is also the order in which the lexer
  tries them; `Keyword.ofWord?` looks one up by its spelling.
* `Keyword.reference` is the table printed by the help.
-/

namespace GridSketch

/-- The words that open a statement. -/
inductive Keyword where
  | circle
  | rectangle
  | line
  | color
  | clear
  | let_
  | stik
  deriving DecidableEq, Repr

namespace Keyword

/-- The kinds of statement a keyword can open. -/
inductive Family where
  | draw
  | style
  | canvas
  | binding
  | loop
  deriving DecidableEq, Repr

/-- The name of a family. -/
def Family.name : Family → String
  | draw => "DRAW"
  | style => "STYLE"
  | canvas => "CANVAS"
  | binding => "BINDING"
  | loop => "LOOP"

/-- What the reference says about a keyword. -/
structure Entry where
  /-- The spelling in a script. -/
  word : String
  /-- The spelling in prose. -/
  title : String
  family : Family
  /-- The name of the keyword's tokens. -/
  tokenName : String
  /-- The number of single tokens that follow the keyword as its arguments. -/
  arity : Nat
  usage : String
  intent : String
  /-- A remark, if there is one. -/
  description? : Option String
  deriving DecidableEq, Repr

/-- The entry of a keyword in the reference. -/
def entry : Keyword → Entry
  | circle =>
    ⟨"circle", "Circle", .draw, "KW_CIRCLE", 3, "circle x y radius",
      "Draw a one-cell-thick ring around (x, y).", none⟩
  | rectangle =>
    ⟨"rectangle", "Rectangle", .draw, "KW_RECTANGLE", 4, "rectangle x y width height",
      "Draw the outline of a box from its top-left corner.", none⟩
  | line =>
    ⟨"line", "Line", .draw, "KW_LINE", 4, "line x1 y1 x2 y2",
      "Draw a straight segment between two points.", none⟩
  | color =>
    ⟨"color", "Color", .style, "KW_COLOR", 1, "color \"red\"",
      "Set the color tagged onto shapes drawn afterwards.",
      some "The argument must be a string literal."⟩
  | clear =>
    ⟨"clear", "Clear", .canvas, "KW_CLEAR", 0, "clear",
      "Remove every shape drawn so far. Variables survive.", none⟩
  | let_ =>
    ⟨"let", "Let", .binding, "KW_LET", 0, "let size = 5 + 10 * 2",
      "Bind a variable to the value of an expression.",
      some "The bare form \x60size = 5\x60 is accepted as well."⟩
  | stik =>
    ⟨"stik", "Stik", .loop, "KW_STIK", 2, "stik 3 \"hello\"",
      "Print a message a fixed number of times.",
      some "The count must be a non-negative integer literal."⟩

/-- The spelling of a keyword. -/
def word (k : Keyword) : String := k.entry.word

/-- The number of arguments of a keyword. -/
def arity (k : Keyword) : Nat := k.entry.arity

/-- All keywords, in the order of the reference. -/
def all : List Keyword := [circle, rectangle, line, color, clear, let_, stik]

/-- The keyword with the given spelling. -/
def ofWord? (word : String) : Option Keyword := all.find? (·.word == word)

theorem mem_all (k : Keyword) : k ∈ all := by cases k <;> decide

theorem ofWord?_word (k : Keyword) : ofWord? k.word = some k := by cases k <;> decide

theorem word_of_ofWord? {word : String} {k : Keyword} (h : ofWord? word = some k) :
    k.word = word := by
  simpa using List.find?_some h

/-! ## The reference table -/

/-- A text cut or filled with spaces to the width of a column. -/
def column (width : Nat) (s : String) : String :=
  let cs := s.toList.take width
  String.ofList (cs ++ List.replicate (width - cs.length) ' ')

/-- The row of a keyword. -/
def row (k : Keyword) : String :=
  "║ " ++ column 10 k.word ++ " ║ " ++ column 28 k.entry.usage ++ " ║ " ++
    column 44 k.entry.intent ++ " ║"

/-- The rows above those of the keywords. -/
def heading : List String :=
  ["╔════════════╦══════════════════════════════╦══════════════════════════════════════════════╗",
   "║ Keyword    ║ Usage                        ║ Intent                                       ║",
   "╠════════════╬══════════════════════════════╬══════════════════════════════════════════════╣"]

/-- The row below those of the keywords. -/
def footing : String :=
  "╚════════════╩══════════════════════════════╩══════════════════════════════════════════════╝"

/-- The table of all keywords. -/
def reference : String := String.intercalate "\n" (heading ++ all.map row ++ [footing])

end Keyword

end GridSketch
