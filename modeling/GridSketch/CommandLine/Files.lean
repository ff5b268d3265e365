import GridSketch.Number.Layout
import GridSketch.Text.Quoted

/-!
# Files

A script is read from a path. The content has to be well-formed UTF-8, and every kind of line end
becomes a line feed.

* `Failure` is why a path cannot be read, and its wording.
* `Files` is a tree of files and directories held as a value, for programs that run without a disk;
  `Files.read` finds a path in it.
* `decodeScript?` turns the bytes of a file into a script.
-/

namespace GridSketch

namespace CommandLine

/-- Why a path cannot be read: the number and the reason that the system gives. -/
structure ReadFailure where
  code : Nat
  reason : String
  deriving DecidableEq, Repr

namespace ReadFailure

def noSuchFile : ReadFailure := ⟨2, "No such file or directory"⟩
def notDirectory : ReadFailure := ⟨20, "Not a directory"⟩
def isDirectory : ReadFailure := ⟨21, "Is a directory"⟩
def nameTooLong : ReadFailure := ⟨36, "File name too long"⟩

/-- The sentence about a failure. -/
def message (f : ReadFailure) (path : String) : String :=
  "[Errno " ++ Number.intText f.code ++ "] " ++ f.reason ++ ": " ++ Text.quoted path

end ReadFailure

/-- The content of a file, `none` for a directory. -/
abbrev FileContent := Option ByteArray

/-- Files and empty directories by their paths, which are lists of names. -/
abbrev Files := List (List String × FileContent)

namespace Files

/-- The names in a path, without the empty ones and those that stay where they are. -/
def names (path : String) : List String :=
  (path.splitOn "/").filter fun name => name ≠ "" && name ≠ "."

/-- Adds a file. A name that ends in a slash is a directory. -/
def add (files : Files) (name : String) (bytes : ByteArray) : Files :=
  (names name, if name.endsWith "/" then none else some bytes) :: files

/-- What stands at a path of names: a file, or a directory if it is one or leads to something. -/
def entry? (files : Files) (at_ : List String) : Option FileContent :=
  match List.find? (·.1 == at_) files with
  | some (_, content) => some content
  | none =>
    if at_.isEmpty || files.any (at_.isPrefixOf ·.1) then some none else none

/-- A place that a path can lead to: within the files, or a directory above them. -/
inductive Place where
  | within (at_ : List String)
  | above
  deriving DecidableEq, Repr

/-- The longest name and the longest path, in bytes. -/
def maxNameBytes : Nat := 255
def maxPathBytes : Nat := 4095

/-- Takes a step along a path. Only from a directory is there a step, even one that stays. -/
def step (files : Files) (place : Place) (name : String) : Except ReadFailure Place :=
  match place with
  | .above =>
    if name = "" || name = "." || name = ".." then .ok .above
    else if maxNameBytes < name.utf8ByteSize then .error .nameTooLong
    else .error .noSuchFile
  | .within at_ =>
    match files.entry? at_ with
    | some none =>
      if name = "" || name = "." then .ok place
      else if name = ".." then .ok (if at_.isEmpty then .above else .within at_.dropLast)
      else if maxNameBytes < name.utf8ByteSize then .error .nameTooLong
      else if (files.entry? (at_ ++ [name])).isSome then .ok (.within (at_ ++ [name]))
      else .error .noSuchFile
    | some (some _) => .error .notDirectory
    | none => .error .noSuchFile

/-- The content of the file that a path leads to. -/
def read (files : Files) (path : String) : Except ReadFailure ByteArray := do
  if path = "" then .error .noSuchFile
  else if maxPathBytes < path.utf8ByteSize then .error .nameTooLong
  else
    let start := if path.startsWith "/" then Place.above else .within []
    match ← (path.splitOn "/").foldlM (step files) start with
    | .above => .error .isDirectory
    | .within at_ =>
      match files.entry? at_ with
      | some (some bytes) => .ok bytes
      | some none => .error .isDirectory
      | none => .error .noSuchFile

end Files

/-- Makes a line feed of every carriage return, alone or before a line feed. -/
def unifyLineEnds : List Char → List Char
  | '\r' :: '\n' :: cs => '\n' :: unifyLineEnds cs
  | '\r' :: cs => '\n' :: unifyLineEnds cs
  | c :: cs => c :: unifyLineEnds cs
  | [] => []

/-- The script that the bytes of a file hold, if they are well-formed. -/
def decodeScript? (bytes : ByteArray) : Option String :=
  (String.fromUTF8? bytes).map fun s => String.ofList (unifyLineEnds s.toList)

end CommandLine

end GridSketch
