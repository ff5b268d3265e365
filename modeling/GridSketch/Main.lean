import GridSketch.CommandLine.Execution

/-!
# The program

The command line on the real file system and terminal. A dialogue answers each line as soon as it is
typed; everything else is printed at its end.
-/

namespace GridSketch

namespace CommandLine

/-- Why the system could not read a file. -/
def ReadFailure.ofError : IO.Error → ReadFailure
  | .noFileOrDirectory .. => .noSuchFile
  | .inappropriateType (some _) 21 _ => .isDirectory
  | .inappropriateType .. => .notDirectory
  | .permissionDenied _ code details => ⟨code.toNat, details⟩
  | e => ⟨5, toString e⟩

/-- Reads a path before the command that needs it is carried out. -/
def readNow (path : String) : IO Reader := do
  let content ← (IO.FS.readBinFile path).toBaseIO
  return fun _ => match content with
    | .ok bytes => .ok bytes
    | .error e => .error (ReadFailure.ofError e)

/-- Ends the program as a command has ended. -/
def finish (p : Printed) : IO UInt32 := do
  IO.print p.out
  IO.eprint p.err
  match p.ending with
  | .returned code | .left code => return code.toUInt32
  | .broken _ =>
    IO.eprintln "the program was broken off"
    return 1

/-- Answers the lines of the terminal until the dialogue ends. -/
partial def converse (input : IO.FS.Stream) (s : Session) : IO UInt32 := do
  IO.print Dialogue.prompt
  (← IO.getStdout).flush
  let line ← input.getLine
  if line.isEmpty then
    IO.println ("\n" ++ Dialogue.farewell)
    return 0
  let (shown, next) := Dialogue.answer .standard s line
  IO.print (Text.unlines shown)
  match next with
  | .goOn s => converse input s
  | .stop => return 0
  | .broken b => finish { ending := .broken (.script b) }

end CommandLine

end GridSketch

open GridSketch CommandLine in
/-- Carries out the command line. -/
def main (arguments : List String) : IO UInt32 := do
  match Invocation.ofArguments arguments with
  | .repl => do
    IO.println Dialogue.banner
    converse (← IO.getStdin) {}
  | .run file width height quiet =>
    finish ((Invocation.run file width height quiet).execute (← readNow file) "")
  | other => finish (other.execute (fun _ => .error .noSuchFile) "")
