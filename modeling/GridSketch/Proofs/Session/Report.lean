import GridSketch.Proofs.Script.Effect
import GridSketch.Session

/-!
# What a session reports

A run of a text reports the lines it has added to the log. A failure of the script is said as one
more line.

* `Session.runIncremental_of_tokens`, `Session.runIncremental_of_refused`: running a text is running
  its tokens; a text that has none is not run.
-/

namespace GridSketch

/-- The fault an action has ended in, if in any. -/
def faultOf {α : Type} : EStateM.Result Fault Session α → Option Fault
  | .ok .. => none
  | .error fault _ => some fault

/-- The session an action has led to. -/
def sessionOf {α : Type} : EStateM.Result Fault Session α → Session
  | .ok _ s => s
  | .error _ s => s

theorem execute_result (ts : List Token) (s : Session) :
    sessionOf ((execute ts).run s) = sessionOf ((executeFrom [] ts).run s) ∧
      faultOf ((execute ts).run s) = faultOf ((executeFrom [] ts).run s) := by
  rw [execute, EStateM.run_bind]
  cases (executeFrom [] ts).run s <;> exact ⟨rfl, rfl⟩

/-- The line that says a failure. A breach is not said. -/
def failureLines : Option Fault → List String
  | some (.script d) => [failurePrefix ++ d.message]
  | _ => []

namespace Session

variable {s s' : Session} {source : String}

theorem linesSince_adds {lines : List String} (h : s.Adds lines s') : s.linesSince s' = lines := by
  rw [linesSince, h.1, List.drop_left]

/-- The session after a fault has been said. -/
def sayFault (s : Session) : Option Fault → Session
  | some (.script d) => s.say (failurePrefix ++ d.message)
  | _ => s

@[simp] theorem sayFault_state (s : Session) (fault? : Option Fault) :
    (s.sayFault fault?).state = s.state := by
  unfold sayFault
  split <;> rfl

theorem adds_sayFault (s : Session) (fault? : Option Fault) :
    s.Adds (failureLines fault?) (s.sayFault fault?) := by
  unfold sayFault
  split
  · exact .say s _
  · next h =>
    cases fault? with
    | none => exact .refl s
    | some fault =>
      cases fault with
      | script d => exact absurd rfl (h d)
      | breach b => exact .refl s

/-- **Running a text is running its tokens** and saying the failure, if there is one. -/
theorem runIncremental_of_tokens {ts : List Token} (h : tokenize source = .ok ts) :
    s.runIncremental source =
      let r := (GridSketch.execute ts).run s
      let s' := (sessionOf r).sayFault (faultOf r)
      (s', ⟨s.linesSince s', (sessionOf r).state.shapes, faultOf r⟩) := by
  have hafter : s.after (do
      GridSketch.execute (← Action.consult fun _ => Fault.ofScript (tokenize source))) =
        s.after (GridSketch.execute ts) := by
    rw [after, EStateM.run_bind, Action.run_consult, h]
    rfl
  rw [runIncremental, hafter, after]
  cases (GridSketch.execute ts).run s with
  | ok _ s' => rfl
  | error fault s' => cases fault <;> rfl

/-- **A text that has no tokens is not run:** that it is refused is all that is said. -/
theorem runIncremental_of_refused {d : Diagnostic} (h : tokenize source = .error d) :
    s.runIncremental source =
      (s.say (failurePrefix ++ d.message),
        ⟨[failurePrefix ++ d.message], s.state.shapes, some (.script d)⟩) := by
  have hafter : s.after (do
      GridSketch.execute (← Action.consult fun _ => Fault.ofScript (tokenize source))) =
        (s, some (.script d)) := by
    rw [after, EStateM.run_bind, Action.run_consult, h]
    rfl
  rw [runIncremental, hafter]
  simp only [linesSince_adds (.say s (failurePrefix ++ d.message))]
  rfl

end Session

end GridSketch
