import GridSketch.Canvas.Picture
import GridSketch.Canvas.Size
import GridSketch.Script.Run

/-!
# Sessions

A session runs one script after another on the same state and keeps a log of all lines said.

* `Session.execute` runs tokens, `Session.runIncremental` a text; a failure of the script is said as
  one more line. `Session.run` starts over before it runs a text.
* `Session.command?` answers the words that inspect or reset the session.
-/

namespace GridSketch

/-- What came of running tokens: the lines said, and the fault that ended the run early, if one
    did. -/
structure Outcome where
  lines : List String
  fault? : Option Fault
  deriving DecidableEq, Repr

/-- What came of running a text: the lines said, the shapes there are now, and the fault that ended
    the run early, if one did. -/
structure Report where
  lines : List String
  shapes : List ColoredShape
  fault? : Option Fault
  deriving DecidableEq, Repr

/-- What the line that says a failure begins with. -/
def failurePrefix : String := "Stik Error: "

namespace Session

/-- Starts over. -/
def reset (s : Session) : Session := { shown := s.shown }

/-- The lines logged since the session was `start`. -/
def linesSince (start s : Session) : List String := s.log.drop start.log.length

/-- The session after an action and the fault that ended it early, if one did. -/
def after (s : Session) (a : Action Unit) : Session × Option Fault :=
  match a.run s with
  | .ok () s' => (s', none)
  | .error fault s' => (s', some fault)

/-- Runs tokens. -/
def execute (s : Session) (ts : List Token) : Session × Outcome :=
  let (s', fault?) := s.after (GridSketch.execute ts)
  (s', ⟨s.linesSince s', fault?⟩)

/-- Runs a text on the state that the session has. A failure of the script is said; a breach is
    not. -/
def runIncremental (s : Session) (source : String) : Session × Report :=
  let (ran, fault?) := s.after do
    GridSketch.execute (← Action.consult fun _ => Fault.ofScript (tokenize source))
  let s' :=
    match fault? with
    | some (.script d) => ran.say (failurePrefix ++ d.message)
    | _ => ran
  (s', ⟨s.linesSince s', s'.state.shapes, fault?⟩)

/-- Runs a text after starting over. -/
def run (source : String) (s : Session := {}) : Session × Report := s.reset.runIncremental source

/-! ## Words of command -/

/-- What the help says after the keyword reference. -/
def helpText : String :=
  String.intercalate "\n"
    ["", "Examples:", "  let r = 4 + 2", "  circle 40 12 r", "  color \"red\"",
      "  rectangle 10 5 20 8", "  r > 5 ? \"big\" : \"small\"", "  stik 2 \"hello\"", "",
      "Commands: help, vars, shapes, show, reset, exit", ""]

/-- The variables, one to a line. -/
def variableLines (s : Session) : List String :=
  match s.state.bindings with
  | [] => ["  (no variables)"]
  | vars => "  ─── Variables ───" :: vars.map fun (name, v) => "    " ++ name ++ " = " ++ v.display

/-- The shapes with their colors, one to a line. -/
def shapeLines (s : Session) : List String :=
  match s.state.shapes with
  | [] => ["  (no shapes)"]
  | shapes =>
    "  ─── Shapes ───" :: shapes.map fun c => "    [" ++ c.color ++ "] " ++ c.shape.describe

/-- The picture of the shapes. -/
def picture (size : CanvasSize) (shapes : List ColoredShape) : String :=
  (render (shapes.map (·.shape)) size.width size.height).text

/-- Answers a word of command, in capitals or not: the session after it and what it shows. -/
def command? (size : CanvasSize) (s : Session) (line : String) : Option (Session × List String) :=
  match line.map Char.toLower with
  | "help" => some (s, [Keyword.reference, helpText])
  | "vars" => some (s, s.variableLines)
  | "shapes" => some (s, s.shapeLines)
  | "show" => some (s, [picture size s.state.shapes])
  | "reset" => some (s.reset, ["  State cleared."])
  | _ => none

end Session

end GridSketch
