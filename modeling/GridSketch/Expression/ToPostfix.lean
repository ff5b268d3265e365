import GridSketch.Diagnostic

/-!
# Expressions in operand-first order

An expression is a run of operands, binary operators and parentheses. It is read from the left into
a list in which every operator follows its two operands; an operator waits on a stack until the
next one binds no tighter. The expression ends before the first token that cannot go on with it.

* `Token.signSplit?` reads a negative number that follows an operand as a subtraction.
* `shunt` is the reading, `toPostfix` starts it; both return the reordered tokens and the rest.
* `toPostfix_suffix`, `toPostfix_length_lt`: what an expression leaves is the end of the list, and
  it takes at least one token.
-/

namespace GridSketch

/-- A negative number literal as a minus sign and the number without it. The minus stands where the
    literal does, the number one column later. -/
def Token.signSplit? (t : Token) : Option (Token × Token) :=
  match t.kind, t.text.toList with
  | .number, '-' :: cs =>
    some (⟨.operator .minus, "-", t.position⟩,
      ⟨.number, String.ofList cs, ⟨t.position.line, t.position.col + 1⟩⟩)
  | _, _ => none

namespace Expression

/-- What waits on the stack: an open parenthesis, or an operator whose right operand is not
    complete. -/
inductive Pending where
  | opening (t : Token)
  | operator (o : Operator) (t : Token)
  deriving DecidableEq, Repr

/-- The token that waits. -/
def Pending.token : Pending → Token
  | opening t => t
  | operator _ t => t

/-- Whether it is an open parenthesis. -/
def Pending.isOpening : Pending → Bool
  | opening _ => true
  | operator .. => false

/-- Releases the operators that bind at least as tightly as `o`, down to the nearest open
    parenthesis. The output is in reverse. -/
def release (o : Operator) : List Pending → List Token → List Pending × List Token
  | .operator p t :: stack, out =>
    if o.precedence ≤ p.precedence then release o stack (t :: out)
    else (.operator p t :: stack, out)
  | stack, out => (stack, out)

/-- Releases every operator down to the nearest open parenthesis and takes that off the stack;
    `none` if there is none. -/
def closeGroup? : List Pending → List Token → Option (List Pending × List Token)
  | [], _ => none
  | .opening _ :: stack, out => some (stack, out)
  | .operator _ t :: stack, out => closeGroup? stack (t :: out)

/-- Ends an expression: no parenthesis may be open, and all operators are released. -/
def finish (stack : List Pending) (out rest : List Token) :
    Except Diagnostic (List Token × List Token) :=
  match stack.find? (·.isOpening) with
  | some opening => .error (.atToken opening.token .unmatchedParenthesis)
  | none => .ok (out.reverse ++ stack.map (·.token), rest)

/-- The failure at the end of the input where an operand is due. `last?` is the token before it. -/
def operandDueAtEnd (stack : List Pending) (last? : Option Token) : Diagnostic :=
  match stack.find? (·.isOpening), last? with
  | some opening, _ => .atToken opening.token .unmatchedParenthesis
  | none, some last => .atToken last .operandMissingAtEnd
  | none, none => ⟨.emptyExpression, none, none⟩

/-- Reads on with the given stack and reversed output. `due` says that an operand has to come next,
    `last?` is the token read before. -/
def shunt (stack : List Pending) (out : List Token) (last? : Option Token) (due : Bool) :
    List Token → Except Diagnostic (List Token × List Token)
  | [] => if due then .error (operandDueAtEnd stack last?) else finish stack out []
  | t :: ts =>
    if due then
      if t.kind.isOperand then shunt stack (t :: out) (some t) false ts
      else if t.kind = .leftParen then shunt (.opening t :: stack) out (some t) true ts
      else .error (.atToken t (.operandDue t.text))
    else
      match t.kind, t.signSplit? with
      | .operator o, _ =>
        let (stack, out) := release o stack out
        shunt (.operator o t :: stack) out (some t) true ts
      | .number, some (minus, number) =>
        let (stack, out) := release .minus stack out
        shunt (.operator .minus minus :: stack) (number :: out) (some t) false ts
      | .rightParen, _ =>
        match closeGroup? stack out with
        | some (stack, out) => shunt stack out (some t) false ts
        | none => finish stack out (t :: ts)
      | _, _ => finish stack out (t :: ts)

/-- Reads the expression at the beginning of a list of tokens. -/
def toPostfix (ts : List Token) : Except Diagnostic (List Token × List Token) :=
  shunt [] [] none true ts

/-! ## An expression is the beginning of what it is read from -/

theorem finish_ok {stack : List Pending} {out rest p r : List Token}
    (h : finish stack out rest = .ok (p, r)) :
    p = out.reverse ++ stack.map (·.token) ∧ r = rest := by
  unfold finish at h
  split at h
  · cases h
  · cases h
    exact ⟨rfl, rfl⟩

theorem shunt_suffix {stack : List Pending} {out ts p r : List Token} {last? : Option Token}
    {due : Bool} (h : shunt stack out last? due ts = .ok (p, r)) :
    r <:+ ts ∧ (due = true → r ≠ ts) := by
  induction ts generalizing stack out last? due with
  | nil =>
    cases due with
    | true => simp [shunt] at h
    | false => simp [(finish_ok (by simpa [shunt] using h)).2]
  | cons t ts ih =>
    -- where a token is taken, the rest is one of what follows it
    have htaken : ∀ {stack out last? due}, shunt stack out last? due ts = .ok (p, r) →
        r <:+ t :: ts ∧ r ≠ t :: ts := by
      intro stack out last? due h
      have hsuffix := (ih h).1
      refine ⟨hsuffix.trans (List.suffix_cons t ts), fun heq => ?_⟩
      have hle := hsuffix.length_le
      rw [heq, List.length_cons] at hle
      omega
    cases due with
    | true =>
      simp only [shunt, if_true] at h
      split at h
      · exact (htaken h).imp_right fun hne _ => hne
      · split at h
        · exact (htaken h).imp_right fun hne _ => hne
        · simp at h
    | false =>
      simp only [shunt, Bool.false_eq_true, if_false] at h
      refine ⟨?_, by simp⟩
      split at h
      · exact (htaken h).1
      · exact (htaken h).1
      · split at h
        · exact (htaken h).1
        · simp [(finish_ok h).2]
      · simp [(finish_ok h).2]

theorem toPostfix_suffix {ts p r : List Token} (h : toPostfix ts = .ok (p, r)) : r <:+ ts :=
  (shunt_suffix h).1

theorem toPostfix_length_lt {ts p r : List Token} (h : toPostfix ts = .ok (p, r)) :
    r.length < ts.length :=
  Nat.lt_of_le_of_ne (toPostfix_suffix h).length_le fun heq =>
    (shunt_suffix h).2 rfl ((toPostfix_suffix h).eq_of_length heq)

end Expression

end GridSketch
