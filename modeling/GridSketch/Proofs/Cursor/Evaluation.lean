import GridSketch.Expression.Evaluation
import GridSketch.Proofs.Cursor.Reading

/-!
# Working out an expression with a cursor

Values wait on a stack that is popped, and numbers are divided, whether or not that can be done. The
number of tokens that an expression takes says where the cursor goes on.

* `Cursor.evaluate_eq`, `Cursor.calculate_eq`: the value comes out as `Expression.evaluate` and
  `Expression.calculate` say, so no look-up finds nothing.
-/

namespace GridSketch

namespace Halt

variable {α β : Type}

@[simp] theorem ofFault_ok (a : α) : ofFault (.ok a) = .ok a := rfl

@[simp] theorem ofFault_error (fault : Fault) :
    ofFault (.error fault : Except Fault α) = .error (.fault fault) := rfl

theorem ofFault_bind (r : Except Fault α) (f : α → Except Fault β) :
    ofFault (r >>= f) = ofFault r >>= fun a => ofFault (f a) := by
  cases r <;> rfl

theorem bind_ok {r : Except Halt α} {f : α → Except Halt β} {b : β} :
    r >>= f = .ok b ↔ ∃ a, r = .ok a ∧ f a = .ok b := by
  cases r <;> simp [bind, Except.bind]

end Halt

namespace Cursor

/-- Takes the top off a stack. -/
def pop {α : Type} : List α → Except Halt (α × List α)
  | [] => .error (.gap .emptyStack)
  | a :: stack => .ok (a, stack)

/-- Divides two numbers. -/
def divide (a b : Float) : Except Halt Float :=
  if b == 0 then .error (.gap .zeroDivisor) else .ok (a / b)

/-- Applies the operator that a token stands for. -/
def applyToken (t : Token) (left right : Value) : Except Halt Value :=
  match t.kind, left, right with
  | .operator .slash, .number a, .number b =>
    if b == 0 then .error (.fault (.atToken t .divisionByZero))
    else do .ok (.number (← divide a b))
  | _, _, _ => Halt.ofFault (Expression.applyToken t left right)

/-- Works one token off. -/
def push (vars : Variables) (stack : List Value) (t : Token) : Except Halt (List Value) :=
  match t.kind with
  | .operator _ =>
    if stack.length < 2 then .error (.fault (.atToken t (.operandMissingFor t.text)))
    else do
      let (right, stack) ← pop stack
      let (left, stack) ← pop stack
      .ok ((← applyToken t left right) :: stack)
  | _ => do .ok ((← Halt.ofFault (Expression.operand vars t)) :: stack)

/-- The value of a list in operand-first order. -/
def ofPostfix (vars : Variables) (ts : List Token) : Except Halt Value := do
  let stack ← ts.foldlM (push vars) []
  if stack.length ≠ 1 then
    let cause := Cause.valuesLeft stack.length
    match ts with
    | first :: _ => .error (.fault (.atToken first cause))
    | [] => .error (.fault (.script ⟨cause, none, none⟩))
  else do
    let (v, _) ← pop stack
    .ok v

/-- The value of the expression at an index, and how many tokens it takes. -/
def evaluate (vars : Variables) (ts : List Token) (start : Nat) : Except Halt (Value × Nat) := do
  let (reordered, index) ← toPostfix ts start
  let v ← ofPostfix vars reordered
  .ok (v, index - start)

/-- The value of a text that is one expression. -/
def calculate (vars : Variables) (source : String) : Except Halt Value := do
  let ts ← Halt.ofFault (Fault.ofScript (tokenize source))
  let (v, taken) ← evaluate vars ts 0
  if taken < ts.length then
    let stray ← tokenAt ts taken
    if stray.kind = .rightParen then .error (.fault (.atToken stray .unmatchedParenthesis))
    else .error (.fault (.atToken stray (.afterExpression stray.text)))
  else .ok v

/-! ## No gap -/

theorem applyToken_eq (t : Token) (left right : Value) :
    applyToken t left right = Halt.ofFault (Expression.applyToken t left right) := by
  unfold applyToken
  split
  · next a b hk =>
    simp only [Expression.applyToken, hk, Operator.apply, Operator.onNumbers, divide]
    split <;> rfl
  · rfl

theorem push_eq (vars : Variables) (stack : List Value) (t : Token) :
    push vars stack t = Halt.ofFault (Expression.push vars stack t) := by
  have hoperand : (do .ok ((← Halt.ofFault (Expression.operand vars t)) :: stack)) =
      Halt.ofFault ((Expression.operand vars t).map (· :: stack)) := by
    cases Expression.operand vars t <;> rfl
  unfold push Expression.push
  cases hk : t.kind with
  | operator o =>
    match stack with
    | [] => rfl
    | [_] => rfl
    | right :: left :: stack =>
      simp [pop, applyToken_eq, bind, Except.bind]
      cases Expression.applyToken t left right <;> rfl
  | _ => exact hoperand

theorem foldlM_push_eq (vars : Variables) (ts : List Token) (stack : List Value) :
    ts.foldlM (push vars) stack = Halt.ofFault (ts.foldlM (Expression.push vars) stack) := by
  induction ts generalizing stack with
  | nil => rfl
  | cons t ts ih => simp only [List.foldlM_cons, push_eq, Halt.ofFault_bind, ih]

theorem ofPostfix_eq (vars : Variables) (ts : List Token) :
    ofPostfix vars ts = Halt.ofFault (Expression.ofPostfix vars ts) := by
  simp only [ofPostfix, Expression.ofPostfix, foldlM_push_eq]
  cases ts.foldlM (Expression.push vars) [] with
  | error fault => rfl
  | ok stack =>
    -- no value is left, or one, or several
    rcases stack with _ | ⟨v, _ | ⟨w, stack⟩⟩
    · cases ts <;> rfl
    · rfl
    · cases ts <;> simp [bind, Except.bind, Fault.atToken]

theorem evaluate_eq (vars : Variables) (ts : List Token) (start : Nat) :
    evaluate vars ts start =
      (Halt.ofFault (Expression.evaluate vars (ts.drop start))).map fun (v, rest) =>
        (v, (ts.drop start).length - rest.length) := by
  simp only [evaluate, toPostfix_eq, Expression.evaluate]
  cases Expression.toPostfix (ts.drop start) with
  | error d => rfl
  | ok result =>
    obtain ⟨p, rest⟩ := result
    simp only [placed_ok, ofPostfix_eq, Fault.ofScript, bind, Except.bind]
    cases Expression.ofPostfix vars p with
    | error fault => rfl
    | ok v =>
      simp [Except.map]
      omega

theorem calculate_eq (vars : Variables) (source : String) :
    calculate vars source = Halt.ofFault (Expression.calculate vars source) := by
  simp only [calculate, Expression.calculate]
  cases htokens : tokenize source with
  | error d => rfl
  | ok ts =>
    simp only [Fault.ofScript, Halt.ofFault_ok, bind, Except.bind, evaluate_eq, List.drop_zero]
    cases heval : Expression.evaluate vars ts with
    | error fault => rfl
    | ok result =>
      obtain ⟨v, rest⟩ := result
      have hdrop := List.suffix_iff_eq_drop.1 (Expression.evaluate_suffix heval)
      simp only [Halt.ofFault_ok, Except.map]
      cases rest with
      | nil => simp
      | cons stray rest =>
        have hget : ts[ts.length - (stray :: rest).length]? = some stray := by
          rw [← List.head?_drop, ← hdrop, List.head?_cons]
        have hlt : ts.length - (stray :: rest).length < ts.length :=
          (List.getElem?_eq_some_iff.1 hget).1
        rw [if_pos hlt, tokenAt_of_getElem? hget]
        simp only
        split <;> rfl

end Cursor

end GridSketch
