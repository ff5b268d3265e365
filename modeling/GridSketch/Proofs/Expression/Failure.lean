import GridSketch.Proofs.Expression.TreeValue
import GridSketch.Proofs.Token.Readable

/-!
# How the working out of a tree fails

A tree whose numbers can be read has a value, unless a variable is not defined, something is divided
by zero or an operator does not take the values it is given.

* `Tree.value_error`: these are the only failures.
-/

namespace GridSketch.Expression

/-- The families of failures that only show when an expression is worked out. -/
def Evaluates (kind : FailureKind) : Prop :=
  kind = .undefinedVariable ∨ kind = .divisionByZero ∨ kind = .typing

/-- All numbers of a tree can be read. -/
def Tree.Readable : Tree → Prop
  | leaf t => t.Readable
  | node _ left right => left.Readable ∧ right.Readable

theorem Forms.readable {n : Nat} {ts : List Token} {e : Tree} (h : Forms n ts e)
    (hts : ∀ t ∈ ts, t.Readable) : e.Readable := by
  induction h with
  | operand _ => exact hts _ (by simp)
  | group _ _ _ ih => exact ih fun t ht => hts t (by simp [ht])
  | binary _ _ _ _ ihl ihr =>
    exact ⟨ihl fun t ht => hts t (by simp [ht]), ihr fun t ht => hts t (by simp [ht])⟩
  | signed hs _ _ _ ihl ihr =>
    refine ⟨ihl fun t ht => hts t (by simp [ht]), ihr fun t ht => ?_⟩
    rcases List.mem_cons.1 ht with rfl | ht
    · exact (hts _ (by simp)).unsigned hs
    · exact hts t (by simp [ht])

theorem onNumbers_error {o : Operator} {a b : Float} {cause : Cause}
    (h : o.onNumbers a b = .error cause) : cause = .divisionByZero := by
  unfold Operator.onNumbers at h
  split at h
  case h_4 =>
    split at h
    · cases h
      rfl
    · cases h
  all_goals cases h

theorem operator_error {o : Operator} {symbol : String} {a b : Value} {cause : Cause}
    (h : o.apply symbol a b = .error cause) : Evaluates cause.kind := by
  unfold Operator.apply at h
  split at h
  · rw [onNumbers_error h]
    exact Or.inr (Or.inl rfl)
  · split at h
    · cases h
    · cases h
    · cases h
      exact Or.inr (Or.inr rfl)
  · cases h
    exact Or.inr (Or.inr rfl)

theorem operand_error {vars : Variables} {t : Token} {fault : Fault} (ht : t.kind.isOperand = true)
    (hr : t.Readable) (h : operand vars t = .error fault) :
    ∃ d, fault = .script d ∧ Evaluates d.cause.kind := by
  unfold operand at h
  split at h
  · next hk =>
    obtain ⟨x, hx⟩ := hr.value hk
    simp [hx] at h
  · cases h
  · simp only [Variables.get] at h
    split at h
    · cases h
    · cases h
      exact ⟨_, rfl, Or.inl rfl⟩
  · simp_all [TokenKind.isOperand]

/-- **A tree whose numbers can be read** fails in no other way. -/
theorem Tree.value_error {vars : Variables} {e : Tree} {fault : Fault} (hp : e.Proper)
    (hr : e.Readable) (h : e.value vars = .error fault) :
    ∃ d, fault = .script d ∧ Evaluates d.cause.kind := by
  induction e with
  | leaf t => exact operand_error hp hr h
  | node t left right ihl ihr =>
    obtain ⟨⟨o, ho⟩, hpl, hpr⟩ := hp
    cases hleft : left.value vars with
    | error fault =>
      simp only [Tree.value, hleft] at h
      cases h
      exact ihl hpl hr.1 hleft
    | ok a =>
      cases hright : right.value vars with
      | error fault =>
        simp only [Tree.value, hleft, hright] at h
        cases h
        exact ihr hpr hr.2 hright
      | ok b =>
        simp only [Tree.value, hleft, hright, bind, Except.bind, applyToken, ho] at h
        cases hop : o.apply t.text a b with
        | ok v =>
          rw [hop] at h
          cases h
        | error cause =>
          rw [hop] at h
          cases h
          exact ⟨_, rfl, operator_error hop⟩

end GridSketch.Expression
