import GridSketch.Token
import GridSketch.Value

/-!
# Diagnostics

Everything that can be wrong with a script is a `Cause`. A diagnostic is a cause and, where there is
one, the place it points at. Its wording follows from the cause:

* `Cause.kind` is the family of the failure, `Cause.detail` the sentence about it;
* `Cause.expected?` and `Cause.found?` are the two halves of "expected this, found that";
* `Diagnostic.message` puts them together.

A `Breach` is no fault of the script's meaning but a limit of the machine that runs it: it is not
worded for the user and ends the program. `Fault` is either of the two.
-/

namespace GridSketch

/-- The families of failures. -/
inductive FailureKind where
  | lexical
  | malformed
  | undefinedVariable
  | divisionByZero
  | typing
  deriving DecidableEq, Repr

/-- The heading of a family in a message. -/
def FailureKind.label : FailureKind → String
  | lexical => "Lex Error"
  | malformed => "Syntax Error"
  | undefinedVariable => "Undefined Variable"
  | divisionByZero => "Division By Zero"
  | typing => "Runtime Error"

/-- What can be wrong with a script. A `found` is the text of the offending token, `none` at the end
    of the input. -/
inductive Cause where
  /-- No token begins here; the rest of the line is shown. -/
  | noToken (snippet : String)
  | operandDue (found : String)
  | unmatchedParenthesis
  | emptyExpression
  | operandMissingAtEnd
  | operandMissingFor (symbol : String)
  | valuesLeft (count : Nat)
  | notAnOperand (found : String)
  | undefined (name : String)
  | divisionByZero
  | notForBooleans (symbol : String)
  | operandTypes (symbol : String) (left right : ValueType)
  | unknownOperator (symbol : String)
  | afterExpression (found : String)
  | argumentsMissing (word : String) (arity count : Nat)
  | argumentType (type : ValueType)
  | argumentNotFinite (shown : String)
  | colorNotText (found : Option String)
  | nameInvalid (found : Option String)
  | assignMissing (name : String) (found : Option String)
  | loopIncomplete
  | loopCount (found : String)
  | loopMessage (found : String)
  | conditionMissing
  | choiceFormat
  | conditionStray (found : String)
  deriving DecidableEq, Repr

namespace Cause

/-- What was found: the quoted text of a token, or the end of the input. -/
def foundText : Option String → String
  | some text => Text.quoted text
  | none => "end of input"

/-- The family a cause belongs to. -/
def kind : Cause → FailureKind
  | noToken _ => .lexical
  | undefined _ => .undefinedVariable
  | divisionByZero => .divisionByZero
  | notForBooleans _ | operandTypes .. | argumentType _ | argumentNotFinite _ => .typing
  | _ => .malformed

/-- The sentence about a cause. -/
def detail : Cause → String
  | noToken snippet => "invalid token at '" ++ snippet ++ "'"
  | operandDue _ => "expected an operand"
  | unmatchedParenthesis => "unmatched parenthesis"
  | emptyExpression => "empty expression"
  | operandMissingAtEnd => "expression ends with an operator"
  | operandMissingFor symbol => "operator '" ++ symbol ++ "' is missing an operand"
  | valuesLeft count =>
    "invalid expression (" ++ Number.intText count ++ " values left on the stack)"
  | notAnOperand _ => "unexpected token in expression"
  | undefined name => "'" ++ name ++ "' is not defined"
  | divisionByZero => "division by zero"
  | notForBooleans symbol => "operator '" ++ symbol ++ "' is not defined for booleans"
  | operandTypes symbol .. => "invalid operand types for '" ++ symbol ++ "'"
  | unknownOperator symbol => "unknown operator '" ++ symbol ++ "'"
  | afterExpression _ => "unexpected token after expression"
  | argumentsMissing word arity _ =>
    "'" ++ word ++ "' needs " ++ Number.intText arity ++ " arguments"
  | argumentType _ => "draw arguments must be numbers"
  | argumentNotFinite _ => "draw arguments must be finite"
  | colorNotText _ => "'color' expects a string literal"
  | nameInvalid _ => "invalid variable name"
  | assignMissing name _ => "expected '=' after variable name '" ++ name ++ "'"
  | loopIncomplete => "incomplete stik statement"
  | loopCount _ => "loop count must be a non-negative integer"
  | loopMessage _ => "loop message must be a string"
  | conditionMissing => "invalid ternary expression: missing condition"
  | choiceFormat => "invalid ternary format"
  | conditionStray _ => "unexpected token in ternary condition"

/-- What should have stood there, if the cause says so. -/
def expected? : Cause → Option String
  | operandDue _ => some "number, string, variable or '('"
  | operandMissingAtEnd => some "operand"
  | notAnOperand _ => some "number, string or variable"
  | notForBooleans _ => some "'==' or '!='"
  | operandTypes .. => some "number and number"
  | afterExpression _ => some "operator or end of input"
  | argumentsMissing _ arity _ => some (Number.intText arity ++ " arguments")
  | argumentType _ => some "number"
  | argumentNotFinite _ => some "finite number"
  | colorNotText _ => some "string literal"
  | nameInvalid _ => some "identifier"
  | assignMissing .. => some "'='"
  | loopIncomplete => some "count and message"
  | loopCount _ => some "non-negative integer literal"
  | loopMessage _ => some "string literal"
  | choiceFormat => some "'? value : value'"
  | conditionStray _ => some "'?'"
  | _ => none

/-- What stood there instead, if the cause says so. -/
def found? : Cause → Option String
  | operandDue found | notAnOperand found | afterExpression found | loopCount found
  | loopMessage found | conditionStray found => some (foundText (some found))
  | colorNotText found | nameInvalid found | assignMissing _ found => some (foundText found)
  | operandMissingAtEnd | loopIncomplete => some (foundText none)
  | notForBooleans symbol => some (Text.quoted symbol)
  | operandTypes _ left right => some (left.name ++ " and " ++ right.name)
  | argumentsMissing _ _ count => some (Number.intText count)
  | argumentType type => some type.name
  | argumentNotFinite shown => some shown
  | _ => none

end Cause

/-- A failure of a script and the place it points at. A place may lack its column. -/
structure Diagnostic where
  cause : Cause
  line : Option Int := none
  col : Option Int := none
  deriving DecidableEq, Repr

namespace Diagnostic

/-- A diagnostic that points at a position. -/
def atPosition (p : Position) (cause : Cause) : Diagnostic := ⟨cause, some p.line, some p.col⟩

/-- A diagnostic that points at a token. -/
def atToken (t : Token) (cause : Cause) : Diagnostic := atPosition t.position cause

/-- The whole message: the heading, the sentence, what was expected and found if both are known, and
    the place if there is a line. -/
def message (d : Diagnostic) : String :=
  let sentence := d.cause.kind.label ++ ": " ++ d.cause.detail
  let contrast :=
    match d.cause.expected?, d.cause.found? with
    | some expected, some found => " (expected " ++ expected ++ ", found " ++ found ++ ")"
    | _, _ => ""
  let place :=
    match d.line with
    | some line => " at L" ++ Number.intText line ++ ":" ++ (d.col.map Number.intText).getD "None"
    | none => ""
  sentence ++ contrast ++ place

end Diagnostic

/-- The limits that a script or a list of tokens can run into. -/
inductive Breach where
  /-- The text of a number token is no numeral. -/
  | unreadableNumber (text : String)
  /-- The count of a loop is made of digits, but is no whole number of permitted length. -/
  | unreadableCount (text : String)
  /-- A draw statement is led by a word that is no keyword. -/
  | unknownKeyword (word : String)
  /-- No shape is drawn by this word with this number of arguments. -/
  | unknownShape (word : String) (count : Nat)
  deriving DecidableEq, Repr

/-- What ends a run early. -/
inductive Fault where
  | script (d : Diagnostic)
  | breach (b : Breach)
  deriving DecidableEq, Repr

/-- The limit that was broken, if it was one. -/
def Fault.breach? : Fault → Option Breach
  | script _ => none
  | breach b => some b

/-- A result whose failures are those of the script. -/
def Fault.ofScript {α : Type} : Except Diagnostic α → Except Fault α
  | .ok a => .ok a
  | .error d => .error (.script d)

/-- A fault of the script at a token. -/
def Fault.atToken (t : Token) (cause : Cause) : Fault := .script (.atToken t cause)

end GridSketch
