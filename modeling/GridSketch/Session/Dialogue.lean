import GridSketch.Session
import GridSketch.Text.Blank
import GridSketch.Text.Lines

/-!
# Dialogues

In a dialogue the user types one line after another, and each is a word of command or a piece of
script. It ends with a word of farewell, at the end of the input, or when a line breaks a limit.

* `Dialogue.answer` is the answer to one line.
* `Dialogue.transcript` is all that is shown for a list of lines.
-/

namespace GridSketch

namespace Dialogue

/-- What a dialogue opens with. -/
def banner : String :=
  String.intercalate "\n"
    ["",
      "╔══════════════════════════════════════════════════════════════╗",
      "║                                                              ║",
      "║     ─── HOLYSTIK ───                                         ║",
      "║                                                              ║",
      "║     Shapes, variables and a calculator on one line           ║",
      "║     Type 'help' for the keyword reference                    ║",
      "║     Type 'exit' or Ctrl+C to quit                            ║",
      "║                                                              ║",
      "╚══════════════════════════════════════════════════════════════╝",
      ""]

/-- What is shown before each line is typed. -/
def prompt : String := "  stik> "

/-- What a dialogue closes with. -/
def farewell : String := "  Goodbye."

/-- How a dialogue goes on after a line. -/
inductive Next where
  | goOn (s : Session)
  | stop
  | broken (b : Breach)
  deriving DecidableEq, Repr

/-- The answer to a line: the lines shown, and how the dialogue goes on. -/
def answer (size : CanvasSize) (s : Session) (typed : String) : List String × Next :=
  let line := String.ofList (Text.trimBlanks typed.toList)
  if line = "" then ([], .goOn s)
  else if line.map Char.toLower = "exit" ∨ line.map Char.toLower = "quit" then ([farewell], .stop)
  else
    match s.command? size line with
    | some (s, shown) => (shown, .goOn s)
    | none =>
      let (s, report) := s.runIncremental line
      let shown := report.lines.map ("  " ++ ·)
      match report.fault?.bind Fault.breach? with
      | some b => (shown, .broken b)
      | none => (shown, .goOn s)

/-- All that is shown from a prompt on, and the limit that was broken, if one was. -/
def transcriptFrom (size : CanvasSize) (s : Session) : List String → String × Option Breach
  | [] => (prompt ++ "\n" ++ farewell ++ "\n", none)
  | typed :: rest =>
    let (shown, next) := answer size s typed
    let head := prompt ++ Text.unlines shown
    match next with
    | .goOn s =>
      let (tail, breach?) := transcriptFrom size s rest
      (head ++ tail, breach?)
    | .stop => (head, none)
    | .broken b => (head, some b)

/-- All that is shown in a dialogue of the given lines, and the limit that was broken, if one
    was. -/
def transcript (size : CanvasSize) (lines : List String) : String × Option Breach :=
  let (shown, breach?) := transcriptFrom size {} lines
  (banner ++ "\n" ++ shown, breach?)

end Dialogue

end GridSketch
