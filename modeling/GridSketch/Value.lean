import GridSketch.Number.Layout

/-!
# Values

An expression evaluates to a number, a text or a truth value.
-/

namespace GridSketch

/-- The types of values. -/
inductive ValueType where
  | number
  | text
  | boolean
  deriving DecidableEq, Repr

/-- The name of a type, as diagnostics have it. -/
def ValueType.name : ValueType → String
  | number => "number"
  | text => "string"
  | boolean => "boolean"

/-- What an expression evaluates to. -/
inductive Value where
  | number (x : Float)
  | text (s : String)
  | boolean (b : Bool)
  deriving DecidableEq, Repr

namespace Value

/-- The type of a value. -/
def type : Value → ValueType
  | number _ => .number
  | text _ => .text
  | boolean _ => .boolean

/-- The text of a value as it is shown. A text is shown as it is. -/
def display : Value → String
  | number x => Number.display x
  | text s => s
  | boolean b => if b then "true" else "false"

/-- Only the truth value `true` makes a condition hold. -/
def holds : Value → Bool
  | boolean b => b
  | _ => false

end Value

end GridSketch
