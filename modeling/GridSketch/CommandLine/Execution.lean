import GridSketch.CommandLine.Files
import GridSketch.CommandLine.Invocation
import GridSketch.Session.Dialogue

/-!
# Execution of commands

What a command prints, and how it ends, follows from its arguments and from what it reads.

* `runScript` runs a script and shows the picture, `calculateWords` shows the value of an
  expression.
* `execute` carries out a command line of the program, `executeRunner` one of the plain runner,
  which takes a path or `--calc` and an expression.
-/

namespace GridSketch

namespace CommandLine

/-- What breaks a program off. -/
inductive Break where
  | script (b : Breach)
  /-- The bytes of the script are not well-formed. -/
  | undecodable
  /-- No path holds the character NUL. -/
  | nulInPath
  deriving DecidableEq, Repr

/-- How a program ends. -/
inductive Ending where
  /-- It returns to its caller with a code. -/
  | returned (code : Nat)
  /-- It leaves with a code. -/
  | left (code : Nat)
  | broken (b : Break)
  deriving DecidableEq, Repr

/-- What a program has printed when it ends. -/
structure Printed where
  out : String := ""
  err : String := ""
  ending : Ending
  deriving DecidableEq, Repr

/-- A way to read a path. -/
abbrev Reader := String → Except ReadFailure ByteArray

/-- What is printed about the shapes at the end of a script. -/
def pictureText (size : CanvasSize) (shapes : List ColoredShape) : String :=
  if shapes.isEmpty then "Stik: No shapes were drawn.\n"
  else "\n--- Stik Terminal Graphics ---\n\n" ++ Session.picture size shapes ++ "\n"

/-- Runs the script in a file, shows it first unless that is unwanted, and shows the picture. -/
def runScript (read : Reader) (path : String) (size : CanvasSize) (quiet : Bool) : Printed :=
  if path.toList.contains '\x00' then { ending := .broken .nulInPath }
  else
    match read path with
    | .error failure =>
      { out := failurePrefix ++ "Failed to read file at path: " ++ path ++ "\n" ++
          failurePrefix ++ failure.message path ++ "\n",
        ending := .returned 1 }
    | .ok bytes =>
      match decodeScript? bytes with
      | none => { ending := .broken .undecodable }
      | some source =>
        let shown := if quiet then "" else "Stik File contents:\n" ++ source ++ "\n\n"
        let (_, report) := Session.run source
        let said := shown ++ Text.unlines report.lines
        match report.fault? with
        | some (.breach b) => { out := said, ending := .broken (.script b) }
        | some (.script _) =>
          { out := said ++ pictureText size report.shapes, ending := .returned 1 }
        | none => { out := said ++ pictureText size report.shapes, ending := .returned 0 }

/-- Shows the value of an expression that is given in words. -/
def calculateWords (words : List String) : Printed :=
  match Expression.calculate [] (String.intercalate " " words) with
  | .ok v => { out := "Stik Calculator Result: " ++ v.display ++ "\n", ending := .returned 0 }
  | .error (.script d) =>
    { out := "Stik Calculator Error: " ++ d.message ++ "\n", ending := .returned 1 }
  | .error (.breach b) => { ending := .broken (.script b) }

/-- Runs a script on a canvas of the given size, if that is a size. -/
def runSized (read : Reader) (path : String) (width height : Option Int) (quiet : Bool) :
    Printed :=
  match CanvasSize.check width height with
  | .ok size => runScript read path size quiet
  | .error problems =>
    { out := Text.unlines (problems.map fun p =>
        failurePrefix ++ "invalid " ++ p.dimension.name ++ ": " ++ p.message),
      ending := .returned 1 }

/-- Holds a dialogue over the lines of an input. -/
def holdDialogue (input : String) : Printed :=
  match Dialogue.transcript .standard (Text.lines input) with
  | (out, none) => { out, ending := .returned 0 }
  | (out, some b) => { out, ending := .broken (.script b) }

/-- Carries out what a command line asks for. -/
def Invocation.execute (read : Reader) (input : String) : Invocation → Printed
  | run file width height quiet => runSized read file width height quiet
  | calculate words => calculateWords words
  | repl => holdDialogue input
  | help t => { out := t.help, ending := .left 0 }
  | nothing => { out := Topic.program.help, ending := .returned 1 }
  | misuse t m =>
    { err := t.usage ++ t.title ++ ": error: " ++ m.message ++ "\n", ending := .left 2 }

/-- Carries out a command line of the program. -/
def execute (read : Reader) (input : String) (arguments : List String) : Printed :=
  (Invocation.ofArguments arguments).execute read input

/-- A program that leaves instead of returning. -/
def Printed.leaving (p : Printed) : Printed :=
  match p.ending with
  | .returned code => { p with ending := .left code }
  | _ => p

/-- Carries out a command line of the plain runner: a path, or `--calc` and the words of an
    expression. -/
def executeRunner (read : Reader) (arguments : List String) : Printed :=
  match arguments with
  | [] =>
    { out := "Stik Usage: python run.py <file.hstik> or python run.py --calc <expression>\n",
      ending := .left 1 }
  | ["--calc"] =>
    { out := "Stik Calculator Usage: python run.py --calc <expression>\n", ending := .left 1 }
  | "--calc" :: words => (calculateWords words).leaving
  | path :: _ => (runScript read path .standard false).leaving

end CommandLine

end GridSketch
