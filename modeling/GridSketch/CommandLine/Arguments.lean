import GridSketch.Number.Numeral
import GridSketch.Text.Quoted

/-!
# Reading arguments

A command line is read by the rules of a `Grammar`: named options and at most one operand.

* An argument that begins with a dash names an option, in full, with its value after `=`, or by any
  beginning of a long name that only one option has. A lone dash, a negative number, and a text with
  a space in it are operands. After `--` everything is.
* `Grammar.classify` says what an argument is, `Grammar.read` reads a whole line.
* `Misuse` is what can be wrong with a line; the first fault from the left wins, then a missing
  operand.
-/

namespace GridSketch

namespace CommandLine

/-- What an option does. -/
inductive OptionKind where
  /-- Shows the help and ends the program. -/
  | help
  /-- Is set or not. -/
  | flag
  /-- Has a whole number as its value. -/
  | integer
  deriving DecidableEq, Repr

/-- An option and its spellings, each with its dashes. -/
structure OptionRule where
  kind : OptionKind
  spellings : List String
  deriving DecidableEq, Repr

/-- The name of an option in messages. -/
def OptionRule.title (r : OptionRule) : String := String.intercalate "/" r.spellings

/-- How much an operand takes. -/
inductive Extent where
  | one
  | oneOrMore
  /-- A word from a list, and every argument after it, options included. -/
  | command (words : List String)
  deriving DecidableEq, Repr

/-- An operand. -/
structure Operand where
  title : String
  extent : Extent
  required : Bool
  deriving DecidableEq, Repr

/-- The rules of a command line. -/
structure Grammar where
  options : List OptionRule
  operand? : Option Operand
  deriving DecidableEq, Repr

/-- What can be wrong with a command line. -/
inductive Misuse where
  | ambiguous (argument : String) (matching : List String)
  | valueMissing (option : String)
  | notInteger (option value : String)
  | valueIgnored (option value : String)
  | notAChoice (operand word : String) (words : List String)
  | operandMissing (operand : String)
  | unrecognized (arguments : List String)
  deriving DecidableEq, Repr

/-- The sentence about a misuse. -/
def Misuse.message : Misuse → String
  | ambiguous argument matching =>
    "ambiguous option: " ++ argument ++ " could match " ++ String.intercalate ", " matching
  | valueMissing option => "argument " ++ option ++ ": expected one argument"
  | notInteger option value =>
    "argument " ++ option ++ ": invalid int value: " ++ Text.quoted value
  | valueIgnored option value =>
    "argument " ++ option ++ ": ignored explicit argument " ++ Text.quoted value
  | notAChoice operand word words =>
    "argument " ++ operand ++ ": invalid choice: " ++ Text.quoted word ++ " (choose from " ++
      String.intercalate ", " (words.map Text.quoted) ++ ")"
  | operandMissing operand => "the following arguments are required: " ++ operand
  | unrecognized arguments => "unrecognized arguments: " ++ String.intercalate " " arguments

/-! ## What an argument is -/

/-- What is written together with an option. -/
inductive Attached where
  | nothing
  /-- A value, after a long name and the sign of equality. -/
  | value (cs : List Char)
  /-- More letters, after a letter and perhaps the sign of equality. -/
  | letters (cs : List Char)
  deriving DecidableEq, Repr

/-- What follows a name and the sign of equality. -/
def Attached.ofSign (name cs : List Char) : Attached :=
  match name with
  | '-' :: '-' :: _ => value cs
  | _ => letters cs

/-- An argument, classified. -/
inductive Item where
  | separator
  | word (text : String)
  | option (text : String) (rule : OptionRule) (attached : Attached)
  /-- It looks like an option, but none has that name. -/
  | unknown (text : String)
  deriving DecidableEq, Repr

namespace Item

/-- The argument as it was given. -/
def text : Item → String
  | separator => "--"
  | word text | option text _ _ | unknown text => text

/-- Whether the argument looks like an option. -/
def isOption : Item → Bool
  | option .. | unknown _ => true
  | _ => false

end Item

/-- Whether a text is a negative number: a minus sign, then digits with an optional point that is
    followed by digits. A line feed at the end does not count. -/
def isNegativeNumber : List Char → Bool
  | '-' :: cs =>
    let cs := if cs.getLast? = some '\n' then cs.dropLast else cs
    let rest := cs.dropWhile Text.isDecimalDigit
    match rest with
    | [] => !cs.isEmpty
    | '.' :: fraction => !fraction.isEmpty && fraction.all Text.isDecimalDigit
    | _ => false
  | _ => false

/-- A text up to its first sign of equality, and what follows the sign if there is one. -/
def splitAtSign (cs : List Char) : List Char × Option (List Char) :=
  match cs.span (· != '=') with
  | (name, _ :: value) => (name, some value)
  | (name, []) => (name, none)

namespace Grammar

/-- All spellings with their options, in order. -/
def spellings (g : Grammar) : List (String × OptionRule) :=
  g.options.flatMap fun rule => rule.spellings.map (·, rule)

/-- The option with the given spelling. -/
def find? (g : Grammar) (name : List Char) : Option OptionRule :=
  (g.spellings.find? fun (spelling, _) => spelling.toList == name).map (·.2)

/-- The options that an argument can stand for, and what it attaches to each. A long name may be cut
    short; a letter may be followed by more letters. -/
def candidates (g : Grammar) (cs : List Char) : List (String × OptionRule × Attached) :=
  match cs with
  | '-' :: '-' :: _ =>
    let (name, value?) := splitAtSign cs
    let attached := (value?.map Attached.value).getD .nothing
    g.spellings.filterMap fun (spelling, rule) =>
      if name.isPrefixOf spelling.toList then some (spelling, rule, attached) else none
  | _ =>
    g.spellings.filterMap fun (spelling, rule) =>
      if spelling.toList = cs.take 2 then some (spelling, rule, .letters (cs.drop 2))
      else if cs.isPrefixOf spelling.toList then some (spelling, rule, .nothing)
      else none

/-- What an argument before any separator is. -/
def classify (g : Grammar) (argument : String) : Except Misuse Item :=
  let cs := argument.toList
  if cs.head? ≠ some '-' then .ok (.word argument)
  else
    match g.find? cs with
    | some rule => .ok (.option argument rule .nothing)
    | none =>
      if cs.length = 1 then .ok (.word argument)
      else
        let (name, value?) := splitAtSign cs
        match value?, g.find? name with
        | some value, some rule => .ok (.option argument rule (.ofSign name value))
        | _, _ =>
          match g.candidates cs with
          | [(_, rule, attached)] => .ok (.option argument rule attached)
          | [] =>
            if isNegativeNumber cs || cs.contains ' ' then .ok (.word argument)
            else .ok (.unknown argument)
          | many => .error (.ambiguous argument (many.map (·.1)))

/-- What the arguments of a line are. Everything after the first separator is a word. -/
def classifyAll (g : Grammar) : List String → Except Misuse (List Item)
  | [] => .ok []
  | argument :: rest =>
    if argument = "--" then .ok (.separator :: rest.map Item.word)
    else do
      let item ← g.classify argument
      return item :: (← g.classifyAll rest)

end Grammar

/-! ## Reading a line -/

/-- What has been read from a line. -/
structure Reading where
  /-- Whether the help was asked for. -/
  help : Bool := false
  flags : List OptionRule := []
  /-- The values of options, the latest first; `none` for one that was cancelled. -/
  integers : List (OptionRule × Option Int) := []
  /-- What the operand has taken. -/
  operand? : Option (List String) := none
  /-- Arguments that nothing has taken. -/
  extras : List String := []
  deriving DecidableEq, Repr

namespace Reading

/-- The value of an option: the latest one if it was given more than once, the standard one if it
    was not given. -/
def integer? (r : Reading) (rule : OptionRule) (standard : Int) : Option Int :=
  ((r.integers.find? (·.1 == rule)).map (·.2)).getD (some standard)

/-- Adds an argument that nothing takes. -/
def addExtra (r : Reading) (argument : String) : Reading :=
  { r with extras := r.extras ++ [argument] }

/-- Takes an option without a value. -/
def take (r : Reading) (rule : OptionRule) : Reading :=
  match rule.kind with
  | .help => { r with help := true }
  | _ => { r with flags := rule :: r.flags }

/-- Takes an option with its value, which has to be a whole number. A separator in place of the value
    cancels the option: it counts as given, but has no value. -/
def takeValue (r : Reading) (rule : OptionRule) (value : String) : Except Misuse Reading :=
  if value = "--" then .ok { r with integers := (rule, none) :: r.integers }
  else
    match Number.integer? value with
    | some n => .ok { r with integers := (rule, some n) :: r.integers }
    | none => .error (.notInteger rule.title value)

end Reading

/-- The words an operand takes at the beginning of the arguments, and the rest; `none` if it takes
    none there. A separator among them is dropped, but not before a command. -/
def Extent.take? (extent : Extent) (items : List Item) : Option (List String × List Item) :=
  let isSeparator (i : Item) : Bool := i == .separator
  let before := items.takeWhile isSeparator
  match items.dropWhile isSeparator with
  | .word text :: rest =>
    match extent with
    | .one =>
      let taken := before.map Item.text ++ text :: (rest.takeWhile isSeparator).map Item.text
      some (taken.erase "--", rest.dropWhile isSeparator)
    | .oneOrMore =>
      let more := rest.takeWhile (!·.isOption)
      some ((before.map Item.text ++ text :: more.map Item.text).erase "--",
        rest.dropWhile (!·.isOption))
    | .command _ => some (items.map Item.text, [])
  | _ => none

/-- A word that leads a command has to be one of the words allowed. -/
def Operand.check (o : Operand) (taken : List String) : Except Misuse Unit :=
  match o.extent, taken with
  | .command words, word :: _ =>
    if word ∈ words then .ok () else .error (.notAChoice o.title word words)
  | _, _ => .ok ()

/-- What the operand takes at the beginning of the arguments, and the rest. It takes only once. -/
def Reading.operandHere? (g : Grammar) (r : Reading) (items : List Item) :
    Option (Operand × List String × List Item) :=
  match g.operand?, r.operand? with
  | some o, none => (o.extent.take? items).map (o, ·)
  | _, _ => none

/-- Letters written together: each is an option, and none has a value. A letter that is no option is
    taken, with those after it, for a value of the option before it, and refused. -/
def readLetters (g : Grammar) (rule : OptionRule) (r : Reading) :
    List Char → Except Misuse Reading
  | [] => .error (.valueIgnored rule.title "")
  | letter :: rest =>
    match g.find? ['-', letter], rest with
    | none, _ => .error (.valueIgnored rule.title (String.ofList (letter :: rest)))
    | some next, [] => .ok ((r.take rule).take next)
    | some next, rest => readLetters g next (r.take rule) rest

/-- Reads an option and its value; the arguments after the option come with it. -/
def readOption (g : Grammar) (r : Reading) (rule : OptionRule) (attached : Attached)
    (rest : List Item) : Except Misuse (Reading × List Item) :=
  match attached, rule.kind, rest with
  | .nothing, .integer, .word value :: rest => (r.takeValue rule value).map (·, rest)
  | .nothing, .integer, _ => .error (.valueMissing rule.title)
  | .nothing, _, rest => .ok (r.take rule, rest)
  | .value cs, .integer, rest => (r.takeValue rule (String.ofList cs)).map (·, rest)
  | .value cs, _, _ => .error (.valueIgnored rule.title (String.ofList cs))
  | .letters cs, _, rest => (readLetters g rule r cs).map (·, rest)

theorem readOption_rest_le {g : Grammar} {r r' : Reading} {rule : OptionRule} {attached : Attached}
    {rest rest' : List Item} (h : readOption g r rule attached rest = .ok (r', rest')) :
    rest'.length ≤ rest.length := by
  have hmap : ∀ {e : Except Misuse Reading} {items : List Item},
      e.map (·, items) = .ok (r', rest') → rest' = items := by
    intro e items he
    cases e <;> simp_all [Except.map]
  unfold readOption at h
  split at h
  · simp [hmap h]
  · simp at h
  · simp_all
  · simp [hmap h]
  · simp at h
  · simp [hmap h]

theorem Extent.take?_rest_lt {extent : Extent} {items rest : List Item} {taken : List String}
    (h : extent.take? items = some (taken, rest)) : rest.length < items.length := by
  have hle := (List.dropWhile_suffix (l := items) (· == Item.separator)).length_le
  have hdrop : ∀ (p : Item → Bool) (l : List Item), (l.dropWhile p).length ≤ l.length :=
    fun p l => (List.dropWhile_suffix p).length_le
  unfold Extent.take? at h
  grind

theorem Reading.operandHere?_rest_lt {g : Grammar} {r : Reading} {items rest : List Item}
    {o : Operand} {taken : List String}
    (h : r.operandHere? g items = some (o, taken, rest)) : rest.length < items.length := by
  unfold Reading.operandHere? at h
  split at h
  · obtain ⟨_, ht, heq⟩ := Option.map_eq_some_iff.1 h
    cases heq
    exact Extent.take?_rest_lt ht
  · simp at h

/-- Reads classified arguments from the left. Asking for the help ends the reading. -/
def readItems (g : Grammar) (r : Reading) : List Item → Except Misuse Reading
  | [] => .ok r
  | .option _ rule attached :: rest =>
    match _h : readOption g r rule attached rest with
    | .error e => .error e
    | .ok (r, rest) => if r.help then .ok r else readItems g r rest
  | .unknown text :: rest => readItems g (r.addExtra text) rest
  | item :: rest =>
    match _h : r.operandHere? g (item :: rest) with
    | some (o, taken, after) =>
      match o.check taken with
      | .error e => .error e
      | .ok () => readItems g { r with operand? := some taken } after
    | none => readItems g (r.addExtra item.text) rest
  termination_by items => items.length
  decreasing_by
    · have := readOption_rest_le _h
      simp only [List.length_cons]
      omega
    · simp
    · exact Reading.operandHere?_rest_lt _h
    · simp

/-- Reads a command line. A required operand has to be there, unless the help is asked for. -/
def Grammar.read (g : Grammar) (arguments : List String) : Except Misuse Reading := do
  let r ← readItems g {} (← g.classifyAll arguments)
  match g.operand?, r.operand? with
  | some o, none => if o.required && !r.help then .error (.operandMissing o.title) else .ok r
  | _, _ => .ok r

end CommandLine

end GridSketch
