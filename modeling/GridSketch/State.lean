import GridSketch.Diagnostic
import GridSketch.Shape

/-!
# The state of a program

A program has variables, the shapes drawn so far and a current color.

* `Variables` keep the order in which they were first set; setting a variable again keeps its place.
* `State.draw` tags a shape with the current color; `State.clear` removes the shapes only.
-/

namespace GridSketch

/-- Variables and their values, in the order in which they were first set. -/
abbrev Variables := List (String × Value)

namespace Variables

/-- The value of a variable. -/
def get? (vars : Variables) (name : String) : Option Value :=
  (vars.find? (·.1 == name)).map (·.2)

/-- The value of a variable, or a diagnostic for the given place. -/
def get (vars : Variables) (name : String) (line col : Option Int) : Except Diagnostic Value :=
  match vars.get? name with
  | some v => .ok v
  | none => .error ⟨.undefined name, line, col⟩

/-- Sets a variable: in its place if it has one, else at the end. -/
def set : Variables → String → Value → Variables
  | [], name, v => [(name, v)]
  | (other, w) :: vars, name, v =>
    if other = name then (name, v) :: vars else (other, w) :: set vars name v

@[simp] theorem get?_set_self (vars : Variables) (name : String) (v : Value) :
    (vars.set name v).get? name = some v := by
  induction vars with
  | nil => simp [set, get?]
  | cons entry vars ih =>
    by_cases h : entry.1 = name
    · simp [set, get?, h]
    · simpa [set, get?, h] using ih

theorem get?_set_of_ne (vars : Variables) {name other : String} (v : Value) (h : other ≠ name) :
    (vars.set name v).get? other = vars.get? other := by
  induction vars with
  | nil => simp [set, get?, Ne.symm h]
  | cons entry vars ih =>
    obtain ⟨key, w⟩ := entry
    by_cases he : key = name
    · simp [set, get?, he, Ne.symm h]
    · by_cases ho : key = other
      · subst ho
        simp [set, get?, he]
      · simpa [set, get?, he, ho] using ih

end Variables

/-- The color of shapes drawn before any is chosen. -/
def defaultColor : String := "black"

/-- What a program has at hand. -/
structure State where
  bindings : Variables := []
  shapes : List ColoredShape := []
  color : String := defaultColor
  deriving DecidableEq, Repr

namespace State

/-- Draws a shape in the current color. -/
def draw (s : State) (shape : Shape) : State :=
  { s with shapes := s.shapes ++ [⟨shape, s.color⟩] }

/-- Removes every shape. -/
def clear (s : State) : State := { s with shapes := [] }

/-- Sets a variable. -/
def set (s : State) (name : String) (v : Value) : State :=
  { s with bindings := s.bindings.set name v }

end State

end GridSketch
