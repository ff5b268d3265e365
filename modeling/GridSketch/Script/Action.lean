import GridSketch.State

/-!
# Actions

A session is the state of a program together with the lines said so far. An action changes a session
and may end in a fault; what it changed before the fault stays changed.

* `Action.consult` works out a result from the variables and changes nothing.
* `Action.change` changes the state, `Action.say` says a line.
-/

namespace GridSketch

/-- A state, the lines said so far, and the lines shown to the user. Starting over empties the log;
    what was shown stays shown. -/
structure Session where
  state : State := {}
  log : List String := []
  shown : List String := []
  deriving DecidableEq, Repr

/-- Logs a line and shows it. -/
def Session.say (s : Session) (line : String) : Session :=
  { s with log := s.log ++ [line], shown := s.shown ++ [line] }

/-- A change of the session that may end in a fault. -/
abbrev Action := EStateM Fault Session

namespace Action

/-- Ends in a fault. -/
def fail {α : Type} (fault : Fault) : Action α := throw fault

/-- A result that depends on the variables only. -/
def consult {α : Type} (f : Variables → Except Fault α) : Action α := do
  match f (← get).state.bindings with
  | .ok a => pure a
  | .error fault => fail fault

/-- Changes the state of the program. -/
def change (f : State → State) : Action Unit := modify fun s => { s with state := f s.state }

/-- Says a line. -/
def say (line : String) : Action Unit := modify (·.say line)

/-! ## How an action ends -/

variable {α β : Type} {s s' : Session}

@[simp] theorem run_pure_ok {a b : α} :
    (pure a : Action α).run s = .ok b s' ↔ a = b ∧ s = s' := by
  simp

theorem run_bind_ok {x : Action α} {f : α → Action β} {b : β} :
    (x >>= f).run s = .ok b s' ↔ ∃ a s₁, x.run s = .ok a s₁ ∧ (f a).run s₁ = .ok b s' := by
  rw [EStateM.run_bind]
  cases x.run s with
  | ok a s₁ => exact ⟨fun h => ⟨a, s₁, rfl, h⟩, fun ⟨_, _, heq, h⟩ => by cases heq; exact h⟩
  | error e s₁ => simp

theorem run_map_ok {x : Action α} {f : α → β} {b : β} :
    (f <$> x).run s = .ok b s' ↔ ∃ a, x.run s = .ok a s' ∧ f a = b := by
  rw [← bind_pure_comp, run_bind_ok]
  simp

theorem run_consult (f : Variables → Except Fault α) :
    (consult f).run s =
      match f s.state.bindings with
      | .ok a => .ok a s
      | .error fault => .error fault s := by
  simp only [consult, EStateM.run_bind, EStateM.run_get]
  split <;> rfl

theorem run_consult_ok {f : Variables → Except Fault α} {a : α} :
    (consult f).run s = .ok a s' ↔ f s.state.bindings = .ok a ∧ s = s' := by
  rw [run_consult]
  split <;> simp_all

end Action

end GridSketch
