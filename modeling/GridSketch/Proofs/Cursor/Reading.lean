import GridSketch.Proofs.Expression.Grammar

/-!
# Reading an expression with a cursor

An expression can also be read by the indices of its tokens: a cursor runs over them, operators and
parentheses wait on one stack of tokens, and a counter says how many parentheses are open. Here
tokens are looked up, stacks are popped and precedences are asked for whether or not there is
anything to be found, and a look-up that finds nothing is a `Gap`.

* `Cursor.toPostfix` reads the expression at an index; its result are the reordered tokens and the
  index after the expression.
* `Stacked` is the invariant of the stack and the counter.
* `Cursor.toPostfix_eq`: the reading comes out as `Expression.toPostfix` does, so it has no gap.
-/

namespace GridSketch

/-- A look-up that finds nothing. -/
inductive Gap where
  /-- No token has this index. -/
  | noToken (index : Nat)
  /-- There is nothing on the stack. -/
  | emptyStack
  /-- Tokens of this kind have no precedence. -/
  | noPrecedence (kind : TokenKind)
  /-- A parenthesis is counted as open and is not on the stack. -/
  | noOpening
  /-- A number is divided by zero. -/
  | zeroDivisor
  /-- The cursor has not moved on. -/
  | noProgress
  deriving DecidableEq, Repr

/-- What ends a run with a cursor early. -/
inductive Halt where
  | gap (g : Gap)
  | fault (fault : Fault)
  deriving DecidableEq, Repr

/-- A result without gaps. -/
def Halt.ofFault {α : Type} (r : Except Fault α) : Except Halt α := r.mapError .fault

namespace Cursor

open Expression

/-- The token with an index. -/
def tokenAt (ts : List Token) (index : Nat) : Except Halt Token :=
  match ts[index]? with
  | some t => .ok t
  | none => .error (.gap (.noToken index))

/-- The token before an index. -/
def tokenBefore (ts : List Token) : Nat → Except Halt Token
  | 0 => .error (.gap (.noToken 0))
  | index + 1 => tokenAt ts index

/-- The precedence of a token. -/
def precedence (t : Token) : Except Halt Nat :=
  match t.kind with
  | .operator o => .ok o.precedence
  | kind => .error (.gap (.noPrecedence kind))

/-- Puts an operator on the stack, after the release of those that bind at least as tightly. The
    output is in reverse. -/
def pushOperator (t : Token) : List Token → List Token → Except Halt (List Token × List Token)
  | [], out => .ok ([t], out)
  | top :: stack, out =>
    if top.kind = .leftParen then .ok (t :: top :: stack, out)
    else do
      if (← precedence t) ≤ (← precedence top) then pushOperator t stack (top :: out)
      else .ok (t :: top :: stack, out)

/-- Releases everything down to an open parenthesis and takes that off the stack. -/
def popGroup : List Token → List Token → Except Halt (List Token × List Token)
  | [], _ => .error (.gap .emptyStack)
  | top :: stack, out =>
    if top.kind = .leftParen then .ok (stack, out) else popGroup stack (top :: out)

/-- Ends a reading that began at `start`. An operand is due only where the tokens end. -/
def stop (ts : List Token) (start index : Nat) (stack out : List Token) (depth : Nat) (due : Bool) :
    Except Halt (List Token × Nat) :=
  if 0 < depth then
    match stack.find? (·.kind = .leftParen) with
    | some opening => .error (.fault (.atToken opening .unmatchedParenthesis))
    | none => .error (.gap .noOpening)
  else if due then
    if index = start then .error (.fault (.script ⟨.emptyExpression, none, none⟩))
    else do .error (.fault (.atToken (← tokenBefore ts index) .operandMissingAtEnd))
  else .ok (out.reverse ++ stack, index)

/-- Reads on with the cursor at `index`. -/
def scan (ts : List Token) (start index : Nat) (stack out : List Token) (depth : Nat) (due : Bool) :
    Except Halt (List Token × Nat) :=
  if index < ts.length then do
    let t ← tokenAt ts index
    if due then
      if t.kind.isOperand then scan ts start (index + 1) stack (t :: out) depth false
      else if t.kind = .leftParen then scan ts start (index + 1) (t :: stack) out (depth + 1) true
      else .error (.fault (.atToken t (.operandDue t.text)))
    else
      match t.kind, t.signSplit? with
      | .operator _, _ =>
        let (stack, out) ← pushOperator t stack out
        scan ts start (index + 1) stack out depth true
      | .number, some (minus, number) =>
        let (stack, out) ← pushOperator minus stack out
        scan ts start (index + 1) stack (number :: out) depth false
      | .rightParen, _ =>
        if 0 < depth then
          let (stack, out) ← popGroup stack out
          scan ts start (index + 1) stack out (depth - 1) false
        else stop ts start index stack out depth false
      | _, _ => stop ts start index stack out depth false
  else stop ts start index stack out depth due
  termination_by ts.length - index

/-- Reads the expression at an index. -/
def toPostfix (ts : List Token) (start : Nat) : Except Halt (List Token × Nat) :=
  scan ts start start [] [] 0 true

/-! ## The stack and the counter -/

/-- A stack whose tokens have the kinds they wait as, with so many open parentheses. -/
inductive Stacked : Nat → List Pending → Prop
  | nil : Stacked 0 []
  | opening {depth stack t} : t.kind = .leftParen → Stacked depth stack →
      Stacked (depth + 1) (.opening t :: stack)
  | operator {depth stack o t} : t.kind = .operator o → Stacked depth stack →
      Stacked depth (.operator o t :: stack)

section
variable {depth : Nat} {stack : List Pending} {o : Operator} {t : Token}

theorem Stacked.find?_eq_none (h : Stacked depth stack) :
    stack.find? (·.isOpening) = none ↔ depth = 0 := by
  induction h with
  | nil => simp
  | opening _ _ => simp [Pending.isOpening]
  | operator _ _ ih => rw [List.find?_cons_of_neg Bool.false_ne_true, ih]

theorem Stacked.find?_opening (h : Stacked depth stack) :
    (stack.map (·.token)).find? (·.kind = .leftParen) =
      (stack.find? (·.isOpening)).map (·.token) := by
  induction h with
  | nil => rfl
  | opening ht _ _ =>
    rw [List.map_cons, List.find?_cons_of_pos (by simp [Pending.token, ht]),
      List.find?_cons_of_pos rfl, Option.map_some]
  | operator ht _ ih =>
    rw [List.map_cons, List.find?_cons_of_neg (by simp [Pending.token, ht]),
      List.find?_cons_of_neg Bool.false_ne_true, ih]

theorem Stacked.pushOperator (h : Stacked depth stack) (ht : t.kind = .operator o)
    (out : List Token) :
    Cursor.pushOperator t (stack.map (·.token)) out =
        .ok (t :: (release o stack out).1.map (·.token), (release o stack out).2) ∧
      Stacked depth (release o stack out).1 := by
  induction h generalizing out with
  | nil => exact ⟨rfl, .nil⟩
  | opening htop hstack _ =>
    exact ⟨by simp [Cursor.pushOperator, release, Pending.token, htop], .opening htop hstack⟩
  | @operator depth stack q top htop hstack ih =>
    have hpush : Cursor.pushOperator t ((Pending.operator q top :: stack).map (·.token)) out =
        if o.precedence ≤ q.precedence then
          Cursor.pushOperator t (stack.map (·.token)) (top :: out)
        else .ok (t :: top :: stack.map (·.token), out) := by
      simp [Cursor.pushOperator, Pending.token, htop, precedence, ht, bind, Except.bind]
    rw [hpush, release]
    split
    · exact ih (top :: out)
    · exact ⟨rfl, .operator htop hstack⟩

theorem Stacked.popGroup (h : Stacked (depth + 1) stack) (out : List Token) :
    ∃ rest put, closeGroup? stack out = some (rest, put) ∧ Stacked depth rest ∧
      Cursor.popGroup (stack.map (·.token)) out = .ok (rest.map (·.token), put) := by
  generalize hd : depth + 1 = d at h
  induction h generalizing out with
  | nil => cases hd
  | @opening _ stack top htop hstack _ =>
    cases hd
    exact ⟨stack, out, rfl, hstack, by simp [Cursor.popGroup, Pending.token, htop]⟩
  | @operator _ stack q top htop _ ih =>
    obtain ⟨rest, put, hclose, hrest, hpop⟩ := ih (top :: out) hd
    refine ⟨rest, put, hclose, hrest, ?_⟩
    rw [List.map_cons, Pending.token, Cursor.popGroup, if_neg (by simp [htop]), hpop]

theorem Stacked.closeGroup?_eq_none (h : Stacked 0 stack) (out : List Token) :
    closeGroup? stack out = none := by
  generalize hd : 0 = d at h
  induction h generalizing out with
  | nil => rfl
  | opening _ _ _ => cases hd
  | @operator _ _ _ top _ _ ih => exact ih (top :: out) hd

end

/-! ## The reading -/

/-- What a reading of the end of a list comes to, with the index after it. -/
def placed (ts : List Token) (r : Except Diagnostic (List Token × List Token)) :
    Except Halt (List Token × Nat) :=
  (Halt.ofFault (Fault.ofScript r)).map fun (p, rest) => (p, ts.length - rest.length)

section
variable (ts : List Token)

@[simp] theorem placed_ok (p rest : List Token) :
    placed ts (.ok (p, rest)) = .ok (p, ts.length - rest.length) := rfl

@[simp] theorem placed_error (d : Diagnostic) :
    placed ts (.error d) = .error (.fault (.script d)) := rfl

end

theorem tokenAt_of_getElem? {ts : List Token} {t : Token} {index : Nat} (h : ts[index]? = some t) :
    tokenAt ts index = .ok t := by
  rw [tokenAt, h]

variable {ts : List Token} {start index depth : Nat} {stack : List Pending} {out : List Token}

theorem stop_eq (h : Stacked depth stack) (hindex : index ≤ ts.length) :
    stop ts start index (stack.map (·.token)) out depth false =
      placed ts (finish stack out (ts.drop index)) := by
  cases hfind : stack.find? (·.isOpening) with
  | none =>
    have hzero := h.find?_eq_none.1 hfind
    simp only [stop, hzero, Nat.lt_irrefl, Bool.false_eq_true, if_false, finish, hfind, placed_ok,
      List.length_drop, Nat.sub_sub_self hindex]
  | some opening =>
    have hpos : 0 < depth := Nat.pos_of_ne_zero fun hzero => by
      simp [h.find?_eq_none.2 hzero] at hfind
    simp [stop, hpos, h.find?_opening, finish, hfind, Fault.atToken]

theorem stop_due (h : Stacked depth stack) {last? : Option Token} (hstart : start ≤ index)
    (hindex : index ≤ ts.length) (hlast : last? = if index = start then none else ts[index - 1]?) :
    stop ts start index (stack.map (·.token)) out depth true =
      placed ts (.error (operandDueAtEnd stack last?)) := by
  cases hfind : stack.find? (·.isOpening) with
  | none =>
    have hzero := h.find?_eq_none.1 hfind
    by_cases heq : index = start
    · simp [stop, hzero, operandDueAtEnd, hfind, hlast, heq]
    · -- a token has been read, so there is one before the cursor
      obtain ⟨before, rfl⟩ := Nat.exists_eq_succ_of_ne_zero (show index ≠ 0 by omega)
      have hget : ts[before]? = some ts[before] := List.getElem?_eq_getElem hindex
      simp [stop, hzero, operandDueAtEnd, hfind, hlast, heq, hget, tokenBefore,
        tokenAt_of_getElem? hget, bind, Except.bind, Fault.atToken]
  | some opening =>
    have hpos : 0 < depth := Nat.pos_of_ne_zero fun hzero => by
      simp [h.find?_eq_none.2 hzero] at hfind
    simp [stop, hpos, h.find?_opening, operandDueAtEnd, hfind, Fault.atToken]

theorem scan_eq {rest : List Token} {due : Bool} {last? : Option Token} (h : Stacked depth stack)
    (hrest : ts.drop index = rest) (hstart : start ≤ index) (hindex : index ≤ ts.length)
    (hlast : last? = if index = start then none else ts[index - 1]?) :
    scan ts start index (stack.map (·.token)) out depth due =
      placed ts (shunt stack out last? due rest) := by
  induction rest generalizing index stack out depth due last? with
  | nil =>
    have hend : ts.length ≤ index := List.drop_eq_nil_iff.1 hrest
    rw [scan, if_neg (Nat.not_lt.2 hend)]
    cases due with
    | true => exact stop_due h hstart hindex hlast
    | false => rw [stop_eq h hindex, hrest, shunt, if_neg Bool.false_ne_true]
  | cons t rest ih =>
    have hlt : index < ts.length := by
      rw [← Nat.not_le, ← List.drop_eq_nil_iff, hrest]
      simp
    have hnext : ts.drop (index + 1) = rest := by
      rw [← List.tail_drop, hrest, List.tail_cons]
    have hget : ts[index]? = some t := by
      rw [← List.head?_drop, hrest, List.head?_cons]
    have hmore : ∀ {stack out depth due}, Stacked depth stack →
        scan ts start (index + 1) (stack.map (·.token)) out depth due =
          placed ts (shunt stack out (some t) due rest) := fun h =>
      ih h hnext (by omega) hlt (by rw [if_neg (by omega), Nat.add_sub_cancel, hget])
    rw [scan, if_pos hlt, tokenAt_of_getElem? hget]
    simp only [bind, Except.bind]
    cases due with
    | true =>
      simp only [shunt, if_true]
      split
      · exact hmore h
      · split
        · next hk => exact hmore (.opening hk h)
        · rfl
    | false =>
      rw [if_neg Bool.false_ne_true]
      split
      · next o hk =>
        obtain ⟨hpush, hstacked⟩ := h.pushOperator hk out
        simp only [hpush, shunt, Bool.false_eq_true, if_false, hk]
        exact hmore (.operator hk hstacked)
      · next minus number hk hs =>
        have hminus := (Token.signSplit?_kinds hs).2.1
        obtain ⟨hpush, hstacked⟩ := h.pushOperator hminus out
        simp only [hpush, shunt, Bool.false_eq_true, if_false, hk, hs]
        exact hmore (.operator hminus hstacked)
      · next hk =>
        cases depth with
        | zero =>
          rw [if_neg (Nat.lt_irrefl 0), stop_eq h hindex, hrest]
          simp only [shunt, Bool.false_eq_true, if_false, hk, h.closeGroup?_eq_none]
        | succ depth =>
          obtain ⟨stack', put, hclose, hstacked, hpop⟩ := h.popGroup out
          rw [if_pos (Nat.succ_pos depth), hpop]
          simp only [shunt, Bool.false_eq_true, if_false, hk, hclose]
          exact hmore hstacked
      · next hoperator hparen hsign =>
        rw [stop_eq h hindex, hrest]
        -- none of the three kinds that go on with an expression
        simp only [shunt, Bool.false_eq_true, if_false]

/-- **The reading with a cursor has no gap:** it comes out as `Expression.toPostfix` does on the
    tokens from its start. -/
theorem toPostfix_eq (ts : List Token) (start : Nat) :
    toPostfix ts start = placed ts (Expression.toPostfix (ts.drop start)) := by
  by_cases hstart : start ≤ ts.length
  · exact scan_eq .nil rfl (Nat.le_refl start) hstart (by rw [if_pos rfl])
  · have hnot : ¬ start < ts.length := by omega
    rw [toPostfix, scan, if_neg hnot, List.drop_eq_nil_of_le (by omega)]
    simp [stop, Expression.toPostfix, shunt, operandDueAtEnd]

end Cursor

end GridSketch
