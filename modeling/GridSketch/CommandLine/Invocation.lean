import GridSketch.Canvas.Size
import GridSketch.CommandLine.Arguments
import GridSketch.Text.Lines

/-!
# Invocations

The program has three commands: `run` a script, `calc` an expression, and `repl` for a dialogue.
Each has its own grammar and help.

* `Invocation.ofArguments` says what a command line asks for.
* `Topic.usage` and `Topic.help` are the texts about the program and about each command.
-/

namespace GridSketch

namespace CommandLine

/-- What the help can be about: the program as a whole, or one of its commands. -/
inductive Topic where
  | program
  | run
  | calculate
  | repl
  deriving DecidableEq, Repr

namespace Topic

/-- The words that name the program or a command in messages. -/
def title : Topic → String
  | program => "holystik"
  | run => "holystik run"
  | calculate => "holystik calc"
  | repl => "holystik repl"

/-- The summary of a command line. -/
def usage : Topic → String
  | program => Text.unlines ["usage: holystik [-h] \x7brun,calc,repl\x7d ..."]
  | run =>
    Text.unlines
      ["usage: holystik run [-h] [--width WIDTH] [--height HEIGHT] [--quiet-source]",
        "                    file"]
  | calculate => Text.unlines ["usage: holystik calc [-h] expression [expression ...]"]
  | repl => Text.unlines ["usage: holystik repl [-h]"]

/-- What the help says after the summary. -/
def explanation : Topic → String
  | program =>
    Text.unlines
      ["",
        "HolyStik: a tiny drawing and calculator language",
        "",
        "positional arguments:",
        "  \x7brun,calc,repl\x7d  Command to run",
        "    run            Run a .hstik script and render its shapes",
        "    calc           Evaluate an expression",
        "    repl           Start an interactive session",
        "",
        "options:",
        "  -h, --help       show this help message and exit",
        "",
        "Examples:",
        "  holystik run examples/house.hstik",
        "  holystik calc \"3 + 5 * (2 - 8)\"",
        "  holystik repl"]
  | run =>
    Text.unlines
      ["",
        "positional arguments:",
        "  file             Path to the script",
        "",
        "options:",
        "  -h, --help       show this help message and exit",
        "  --width WIDTH    Canvas width in characters (default: 80)",
        "  --height HEIGHT  Canvas height in rows (default: 24)",
        "  --quiet-source   Don't echo the script before running it"]
  | calculate =>
    Text.unlines
      ["",
        "positional arguments:",
        "  expression  Expression (words are joined with spaces)",
        "",
        "options:",
        "  -h, --help  show this help message and exit"]
  | repl =>
    Text.unlines ["", "options:", "  -h, --help  show this help message and exit"]

/-- The help. -/
def help (t : Topic) : String := t.usage ++ t.explanation

/-! ## Grammars -/

/-- Asks for the help. -/
def helpRule : OptionRule := ⟨.help, ["-h", "--help"]⟩

/-- Sets the width of the canvas. -/
def widthRule : OptionRule := ⟨.integer, ["--width"]⟩

/-- Sets the height of the canvas. -/
def heightRule : OptionRule := ⟨.integer, ["--height"]⟩

/-- Keeps the script from being shown. -/
def quietRule : OptionRule := ⟨.flag, ["--quiet-source"]⟩

/-- The words that name the commands. -/
def commandWords : List String := ["run", "calc", "repl"]

/-- The command that a word names. -/
def ofWord? : String → Option Topic
  | "run" => some run
  | "calc" => some calculate
  | "repl" => some repl
  | _ => none

/-- The rules of a command line. -/
def grammar : Topic → Grammar
  | program => ⟨[helpRule], some ⟨"command", .command commandWords, false⟩⟩
  | run => ⟨[helpRule, widthRule, heightRule, quietRule], some ⟨"file", .one, true⟩⟩
  | calculate => ⟨[helpRule], some ⟨"expression", .oneOrMore, true⟩⟩
  | repl => ⟨[helpRule], none⟩

end Topic

/-- What a command line asks for. -/
inductive Invocation where
  /-- A width or height that was given without a number is `none`. -/
  | run (file : String) (width height : Option Int) (quiet : Bool)
  | calculate (words : List String)
  | repl
  /-- The help was asked for. -/
  | help (t : Topic)
  /-- No command was given. -/
  | nothing
  | misuse (t : Topic) (m : Misuse)
  deriving DecidableEq, Repr

namespace Invocation

/-- The command that a reading of its arguments stands for. -/
def ofReading (t : Topic) (r : Reading) : Invocation :=
  let words := r.operand?.getD []
  let standard := CanvasSize.standard
  match t with
  | .run =>
    run (words.headD "") (r.integer? Topic.widthRule standard.width)
      (r.integer? Topic.heightRule standard.height) (r.flags.contains Topic.quietRule)
  | .calculate => calculate words
  | .repl => repl
  | .program => nothing

/-- What a command line asks for. The command reads its own arguments; what neither the program nor
    the command takes is refused at the end. -/
def ofArguments (arguments : List String) : Invocation :=
  match Topic.program.grammar.read arguments with
  | .error m => misuse .program m
  | .ok r =>
    if r.help then help .program
    else
      let (t, own) :=
        match r.operand? with
        | some (word :: own) => ((Topic.ofWord? word).getD .program, own)
        | _ => (.program, [])
      match if t = .program then .ok {} else t.grammar.read own with
      | .error m => misuse t m
      | .ok s =>
        if s.help then help t
        else
          match r.extras ++ s.extras with
          | [] => ofReading t s
          | extras => misuse .program (.unrecognized extras)

end Invocation

end CommandLine

end GridSketch
