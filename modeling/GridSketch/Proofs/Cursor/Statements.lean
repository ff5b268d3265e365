import GridSketch.Proofs.Cursor.Evaluation
import GridSketch.Script.Statement

/-!
# Running a script with a cursor

A script can be run by the indices of its tokens. The cursor stands at a token, and the window
begins at the first token that no completed statement has taken. A statement looks tokens up ahead
of the cursor and behind it, and says where the cursor goes.

* `Cursor.step` is the move at the cursor, `Cursor.run` runs on from there.
* `Cursor.act` is an action without gaps.
-/

namespace GridSketch

/-- An action with a cursor. -/
abbrev CursorAction := EStateM Halt Session

namespace Cursor

/-- An action without gaps. -/
def act {α : Type} (a : Action α) : CursorAction α := fun s =>
  match a.run s with
  | .ok r s' => .ok r s'
  | .error fault s' => .error (.fault fault) s'

/-- A result that depends on nothing. -/
def look {α : Type} : Except Halt α → CursorAction α
  | .ok a => pure a
  | .error halt => throw halt

/-- A result that depends on the variables only. -/
def consult {α : Type} (f : Variables → Except Halt α) : CursorAction α := do
  look (f (← get).state.bindings)

/-- The token with an index, if the tokens go that far. -/
def tokenAt? (ts : List Token) (index : Nat) : Except Halt (Option Token) :=
  if index < ts.length then (tokenAt ts index).map some else .ok none

/-! ## Statements -/

/-- Draws a shape. The arguments are a slice of the tokens. -/
def draw (ts : List Token) (index : Nat) : CursorAction Nat := do
  let lead ← look (tokenAt ts index)
  match Keyword.ofWord? lead.text with
  | none => act (Action.fail (.breach (.unknownKeyword lead.text)))
  | some k => do
    let _ ← act (Statement.draw lead (ts.drop (index + 1)))
    return index + 1 + k.arity

/-- Chooses a color. -/
def color (ts : List Token) (index : Nat) : CursorAction Nat := do
  let lead ← look (tokenAt ts index)
  let next? ← look (tokenAt? ts (index + 1))
  let _ ← act (Statement.color lead next?.toList)
  return index + 2

/-- Removes every shape. -/
def clear (index : Nat) : CursorAction Nat := do
  let _ ← act (Statement.clear [])
  return index + 1

/-- Binds the name at the index to the value of the expression after the sign that follows it. -/
def assign (ts : List Token) (index : Nat) : CursorAction Nat := do
  let name ← look (tokenAt ts index)
  let (v, taken) ← consult (evaluate · ts (index + 2))
  act (Action.change (·.set name.text v))
  act (Action.say (sayPrefix ++ "Variable " ++ name.text ++ " set to " ++ v.display ++ "."))
  return index + 2 + taken

/-- A binding led by its keyword. -/
def binding (ts : List Token) (index : Nat) : CursorAction Nat := do
  let lead ← look (tokenAt ts index)
  match ← look (tokenAt? ts (index + 1)) with
  | none => act (Action.fail (.atToken lead (.nameInvalid none)))
  | some name =>
    if name.kind = .identifier then
      match ← look (tokenAt? ts (index + 2)) with
      | none => act (Action.fail (.atToken name (.assignMissing name.text none)))
      | some sign =>
        if sign.kind = .assign then assign ts (index + 1)
        else act (Action.fail (.atToken sign (.assignMissing name.text (some sign.text))))
    else act (Action.fail (.atToken name (.nameInvalid (some name.text))))

/-- Says a message a number of times. -/
def loop (ts : List Token) (index : Nat) : CursorAction Nat := do
  let lead ← look (tokenAt ts index)
  if ts.length ≤ index + 2 then act (Action.fail (.atToken lead .loopIncomplete))
  else do
    let count ← look (tokenAt ts (index + 1))
    let message ← look (tokenAt ts (index + 2))
    let _ ← act (Statement.loop lead [count, message])
    return index + 3

/-- The tokens from the beginning of the window to the cursor. -/
def slice (ts : List Token) (window index : Nat) : List Token := (ts.take index).drop window

/-- Says one of two values, as the tokens in the window decide. -/
def choice (ts : List Token) (index window : Nat) : CursorAction Nat := do
  let mark ← look (tokenAt ts index)
  if index ≤ window then act (Action.fail (.atToken mark .conditionMissing))
  else if ts.length ≤ index + 3 then act (Action.fail (.atToken mark .choiceFormat))
  else do
    let separator ← look (tokenAt ts (index + 2))
    if separator.kind = .colon then do
      let (condition, taken) ← consult (evaluate · (slice ts window index) 0)
      if taken < index - window then do
        let stray ← look (tokenAt ts (window + taken))
        act (Action.fail (.atToken stray (.conditionStray stray.text)))
      else do
        let chosen ← look (tokenAt ts (if condition.holds then index + 1 else index + 3))
        let v ← act (Action.consult (Expression.operand · chosen))
        act (Action.say v.display)
        return index + 4
    else act (Action.fail (.atToken mark .choiceFormat))

/-- Where the expression with the name at the index begins. -/
def expressionStart (ts : List Token) (index window : Nat) : Except Halt Nat :=
  let lead := slice ts window index
  if lead.isEmpty then .ok index
  else if lead.all (Statement.mayLead ·.kind) then do
    let first ← tokenAt lead 0
    let last ← tokenBefore lead lead.length
    .ok (if Statement.mayOpen first.kind && Statement.mayPrecede last.kind then window else index)
  else .ok index

/-- The value of the expression that a name stands in, and the index after it. -/
def around (ts : List Token) (index window : Nat) (vars : Variables) :
    Except Halt (Value × Nat) := do
  let start ← expressionStart ts index window
  let (v, taken) ← evaluate vars ts start
  if start + taken ≤ index then do
    let (v, taken) ← evaluate vars ts index
    .ok (v, index + taken)
  else .ok (v, start + taken)

/-- A name. -/
def name (ts : List Token) (index window : Nat) : CursorAction (Nat × Bool) := do
  if (← look (tokenAt? ts (index + 1))).any (·.kind = .assign) then
    return (← assign ts index, true)
  else do
    let (v, last) ← consult (around ts index window)
    if (← look (tokenAt? ts last)).any (·.kind = .question) then return (last, false)
    else do
      act (Action.say v.display)
      return (last, true)

/-! ## Runs -/

/-- The move at the cursor: where the cursor goes, and whether a statement is completed. -/
def step (ts : List Token) (index window : Nat) : CursorAction (Nat × Bool) := do
  let t ← look (tokenAt ts index)
  match t.kind with
  | .keyword .circle | .keyword .rectangle | .keyword .line => return (← draw ts index, true)
  | .keyword .color => return (← color ts index, true)
  | .keyword .clear => return (← clear index, true)
  | .keyword .let_ => return (← binding ts index, true)
  | .keyword .stik => return (← loop ts index, true)
  | .identifier => name ts index window
  | .question => return (← choice ts index window, true)
  | _ => return (index + 1, false)

/-- Runs on while the cursor stands at a token. -/
def run (ts : List Token) (index window : Nat) : CursorAction Unit := do
  if _hlt : index < ts.length then
    let (next, completed) ← step ts index window
    if index < next then run ts next (if completed then next else window)
    else throw (.gap .noProgress)
  termination_by ts.length - index

/-- Runs over all tokens of a script. -/
def execute (ts : List Token) : CursorAction Unit := run ts 0 0

/-! ## Actions without gaps -/

section
variable {α β : Type}

theorem act_run (a : Action α) (s : Session) :
    (act a).run s =
      match a.run s with
      | .ok r s' => .ok r s'
      | .error fault s' => .error (.fault fault) s' := rfl

theorem act_bind (a : Action α) (f : α → Action β) :
    act (a >>= f) = act a >>= fun r => act (f r) := by
  funext s
  show (act (a >>= f)).run s = (act a >>= fun r => act (f r)).run s
  rw [act_run, EStateM.run_bind, EStateM.run_bind, act_run]
  cases a.run s <;> rfl

theorem act_pure (r : α) : act (pure r : Action α) = pure r := rfl

theorem act_map (a : Action α) (f : α → β) : act (f <$> a) = f <$> act a := by
  rw [← bind_pure_comp, act_bind, ← bind_pure_comp]
  rfl

theorem act_bind_congr {a : Action α} {f g : α → CursorAction β}
    (h : ∀ {s r s'}, a.run s = .ok r s' → f r = g r) : act a >>= f = act a >>= g := by
  funext s
  show (act a >>= f).run s = (act a >>= g).run s
  rw [EStateM.run_bind, EStateM.run_bind, act_run]
  cases hrun : a.run s with
  | error fault s' => rfl
  | ok r s' =>
    dsimp only
    rw [h hrun]

theorem look_ok (a : α) : look (.ok a) = pure a := rfl

theorem consult_eq {f : Variables → Except Halt β} {g : Variables → Except Fault α} {place : α → β}
    (h : ∀ vars, f vars = (Halt.ofFault (g vars)).map place) :
    consult f = place <$> act (Action.consult g) := by
  funext s
  show (consult f).run s = (place <$> act (Action.consult g)).run s
  rw [consult, EStateM.run_bind, EStateM.run_get, ← bind_pure_comp, EStateM.run_bind, act_run,
    Action.run_consult]
  dsimp only
  rw [h]
  cases g s.state.bindings <;> rfl

theorem consult_bind (f : Variables → Except Halt α) (g : α → Variables → Except Halt β) :
    (consult fun vars => f vars >>= fun a => g a vars) = consult f >>= fun a => consult (g a) := by
  funext s
  show (consult _).run s = (consult f >>= fun a => consult (g a)).run s
  simp only [consult, bind_assoc, EStateM.run_bind, EStateM.run_get]
  cases f s.state.bindings <;> rfl

theorem consult_look (r : Except Halt α) : (consult fun _ => r) = look r := rfl

theorem consult_ite (c : Prop) [Decidable c] (f g : Variables → Except Halt α) :
    (consult fun vars => if c then f vars else g vars) = if c then consult f else consult g := by
  split <;> rfl

theorem look_fault (fault : Fault) :
    (look (.error (.fault fault)) : CursorAction α) = act (Action.fail fault) := rfl

theorem ite_bind (c : Prop) [Decidable c] (a b : CursorAction α) (f : α → CursorAction β) :
    (if c then a else b) >>= f = if c then a >>= f else b >>= f := by
  split <;> rfl

theorem act_fail_bind (fault : Fault) (f : α → CursorAction β) :
    act (Action.fail fault) >>= f = act (Action.fail fault) := rfl

end

end Cursor

end GridSketch
