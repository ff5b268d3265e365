import GridSketch.Proofs.Expression.TreeValue

/-!
# Only expressions are read

While an expression is read, every operator on the stack has its left operand in the output, and
every open parenthesis has what stands before it. So what has been read is, at any time, the front
of an expression, and `toPostfix` takes nothing but expressions.

* `Awaits` says what an operand that is due is going to be part of, `Completes` what an operand that
  has just been completed is part of. `Reading` is the invariant made of the two.
* `toPostfix_ok_iff`: what is read, and what is made of it; `toPostfix_refused`: why the rest is not.
-/

namespace GridSketch

/-- Every operator binds less tightly than an operand on its own. -/
def Operator.tightest : Nat := 3

theorem Operator.precedence_lt (o : Operator) : o.precedence < tightest := by
  cases o <;> decide

namespace Expression

theorem Forms.mono {m n : Nat} {ts : List Token} {e : Tree} (h : Forms n ts e) (hmn : m ≤ n) :
    Forms m ts e := by
  cases h with
  | operand ht => exact .operand ht
  | group ho hc h => exact .group ho hc h
  | binary ht hn hl hr => exact .binary ht (Nat.le_trans hmn hn) hl hr
  | signed ht hn hl hr => exact .signed ht (Nat.le_trans hmn hn) hl hr

/-- What a token after an operand stands for: an operator, the token that it is written as in the
    tree, and the tokens that begin its right operand. -/
inductive Joint (t : Token) : Operator → Token → List Token → Prop
  | operator {o} : t.kind = .operator o → Joint t o t []
  | signed {minus number} : t.signSplit? = some (minus, number) → Joint t .minus minus [number]

theorem Joint.forms {t sign : Token} {o : Operator} {lead ls rs : List Token} {n : Nat} {l r : Tree}
    (h : Joint t o sign lead) (hn : n ≤ o.precedence) (hl : Forms o.precedence ls l)
    (hr : Forms (o.precedence + 1) (lead ++ rs) r) : Forms n (ls ++ t :: rs) (.node sign l r) := by
  cases h with
  | operator ht => exact .binary ht hn hl hr
  | signed ht => exact .signed ht hn hl hr

/-! ## The front of an expression -/

/-- After the tokens `read` an operand is due that binds at least as tightly as `n` and begins with
    the tokens `lead`. What it is due for is on the stack and in the output. -/
inductive Awaits : Nat → List Token → List Token → List Pending → List Token → Prop
  | start : Awaits 0 [] [] [] []
  | opening {n read stack out t} : t.kind = .leftParen → Awaits n read [] stack out →
      Awaits 0 (read ++ [t]) [] (.opening t :: stack) out
  | operator {n read lead stack out t o sign first ls l} : Joint t o sign first →
      n ≤ o.precedence → Awaits n read lead stack out → Forms o.precedence (lead ++ ls) l →
      Awaits (o.precedence + 1) (read ++ (ls ++ [t])) first (.operator o sign :: stack)
        (l.postorder.reverse ++ out)

/-- After the tokens `read` an operand is complete that binds at least as tightly as `m`. -/
inductive Completes (m : Nat) : List Token → List Pending → List Token → Prop
  | operand {n read lead stack out rs r} : Awaits n read lead stack out → n ≤ m →
      Forms m (lead ++ rs) r → Completes m (read ++ rs) stack (r.postorder.reverse ++ out)

section
variable {m n : Nat} {read lead : List Token} {stack rest : List Pending} {out put : List Token}
  {o : Operator}

theorem Awaits.le_tightest (h : Awaits n read lead stack out) : n ≤ Operator.tightest := by
  cases h with
  | start => exact Nat.zero_le _
  | opening => exact Nat.zero_le _
  | operator _ _ _ _ => exact Operator.precedence_lt _

/-- Under an operator that releases nothing, an operand is due that may hold this operator. -/
theorem Awaits.le_of_held (h : Awaits n read lead stack out) (hs : Held m stack) : n ≤ m := by
  cases h with
  | start => exact Nat.zero_le _
  | opening => exact Nat.zero_le _
  | operator _ _ _ _ => exact hs _ _ rfl

theorem Awaits.complete (h : Awaits n read lead stack out) (rs : List Token) {r : Tree}
    (hr : Forms Operator.tightest (lead ++ rs) r) :
    Completes Operator.tightest (read ++ rs) stack (r.postorder.reverse ++ out) :=
  .operand h h.le_tightest hr

theorem Completes.lower {k : Nat} (h : Completes m read stack out) (hk : k ≤ m)
    (hs : Held k stack) : Completes k read stack out := by
  cases h with
  | operand ha _ hr => exact .operand ha (ha.le_of_held hs) (hr.mono hk)

theorem Completes.fold {sign : Token} (h : Completes m read (.operator o sign :: stack) out) :
    Completes o.precedence read stack (sign :: out) := by
  cases h with
  | operand ha hn hr =>
    cases ha with
    | @operator n read lead stack out t _ _ first ls l hj hle ha hl =>
      have hnode := hj.forms (Nat.le_refl _) hl (hr.mono hn)
      rw [List.append_assoc] at hnode
      simpa [Tree.postorder] using Completes.operand ha hle hnode

theorem Completes.release (h : Completes m read stack out) (ho : o.precedence ≤ m) :
    Completes o.precedence read (release o stack out).1 (release o stack out).2 := by
  induction stack generalizing m out with
  | nil => exact h.lower ho (held_nil _)
  | cons p stack ih =>
    cases p with
    | opening t => exact h.lower ho (held_opening _ t stack)
    | operator q sign =>
      by_cases hq : o.precedence ≤ q.precedence
      · rw [Expression.release, if_pos hq]
        exact ih h.fold hq
      · have hheld : Held o.precedence (.operator q sign :: stack) := by
          rintro _ _ ⟨⟩
          exact Nat.lt_of_not_le hq
        rw [release_held hheld]
        exact h.lower ho hheld

theorem Completes.operator {t sign : Token} {first : List Token} (hj : Joint t o sign first)
    (h : Completes Operator.tightest read stack out) :
    Awaits (o.precedence + 1) (read ++ [t]) first
      (.operator o sign :: (Expression.release o stack out).1)
      (Expression.release o stack out).2 := by
  have hreleased := h.release (Nat.le_of_lt o.precedence_lt)
  generalize Expression.release o stack out = released at *
  obtain ⟨stack, out⟩ := released
  cases hreleased with
  | operand ha hn hl => simpa using Awaits.operator hj hn ha hl

theorem Completes.close {closing : Token} (hc : closing.kind = .rightParen)
    (h : Completes m read stack out) (hclose : closeGroup? stack out = some (rest, put)) :
    Completes Operator.tightest (read ++ [closing]) rest put := by
  induction stack generalizing m out with
  | nil => cases hclose
  | cons p stack ih =>
    cases p with
    | operator q sign => exact ih h.fold hclose
    | opening t =>
      cases hclose
      cases h with
      | operand ha _ hr =>
        cases ha with
        | opening ht ha =>
          have hgroup := ha.complete _ (.group ht hc (hr.mono (Nat.zero_le m)))
          simpa using hgroup

theorem Completes.finish (h : Completes m read stack out)
    (hopen : stack.find? (·.isOpening) = none) :
    ∃ e, Forms 0 read e ∧ e.postorder = out.reverse ++ stack.map (·.token) := by
  induction stack generalizing m out with
  | nil =>
    cases h with
    | operand ha _ hr =>
      cases ha with
      | start => exact ⟨_, hr.mono (Nat.zero_le m), by simp⟩
  | cons p stack ih =>
    cases p with
    | opening t => simp [Pending.isOpening] at hopen
    | operator q sign =>
      obtain ⟨e, hforms, hout⟩ := ih h.fold (by simpa [Pending.isOpening] using hopen)
      exact ⟨e, hforms, by simp [hout, Pending.token]⟩

end

/-! ## The reading -/

/-- What has been read, where an operand is due and where one has been completed. -/
inductive Reading : Bool → List Token → List Pending → List Token → Prop
  | due {n read stack out} : Awaits n read [] stack out → Reading true read stack out
  | complete {read stack out} : Completes Operator.tightest read stack out →
      Reading false read stack out

theorem finish_forms {read out ts p rest : List Token} {stack : List Pending}
    (hread : Completes Operator.tightest read stack out) (hstop : Stops ts)
    (h : finish stack out ts = .ok (p, rest)) :
    ∃ taken e, ts = taken ++ rest ∧ Forms 0 (read ++ taken) e ∧ p = e.postorder ∧ Stops rest := by
  obtain ⟨rfl, rfl⟩ := finish_ok h
  have hopen : stack.find? (·.isOpening) = none := by
    unfold finish at h
    split at h
    · cases h
    · assumption
  obtain ⟨e, hforms, hout⟩ := hread.finish hopen
  exact ⟨[], e, rfl, by simpa using hforms, hout.symm, hstop⟩

/-- **A run of the reading.** What is taken completes an expression, the output is the postorder of
    its tree, and what is left does not go on with it. -/
theorem shunt_forms {read out ts p rest : List Token} {stack : List Pending} {last? : Option Token}
    {due : Bool} (hread : Reading due read stack out)
    (h : shunt stack out last? due ts = .ok (p, rest)) :
    ∃ taken e, ts = taken ++ rest ∧ Forms 0 (read ++ taken) e ∧ p = e.postorder ∧ Stops rest := by
  induction ts generalizing read stack out last? due with
  | nil =>
    cases hread with
    | due _ => simp [shunt] at h
    | complete hread =>
      refine finish_forms hread ?_ (by simpa [shunt] using h)
      intro t ht
      cases ht
  | cons t ts ih =>
    -- where a token is taken, the rest is read after it
    have htaken : ∀ {stack out last? due}, Reading due (read ++ [t]) stack out →
        shunt stack out last? due ts = .ok (p, rest) →
        ∃ taken e, t :: ts = taken ++ rest ∧ Forms 0 (read ++ taken) e ∧ p = e.postorder ∧
          Stops rest := by
      intro stack out last? due hread h
      obtain ⟨taken, e, rfl, hforms, hp, hstop⟩ := ih hread h
      exact ⟨t :: taken, e, rfl, by simpa using hforms, hp, hstop⟩
    have hends : ∀ {stack out}, Completes Operator.tightest read stack out → t.extends = false →
        finish stack out (t :: ts) = .ok (p, rest) →
        ∃ taken e, t :: ts = taken ++ rest ∧ Forms 0 (read ++ taken) e ∧ p = e.postorder ∧
          Stops rest := by
      intro stack out hread ht h
      refine finish_forms hread ?_ h
      rintro u ⟨⟩
      exact ht
    cases hread with
    | due hread =>
      simp only [shunt, if_true] at h
      split at h
      · next ht => exact htaken (.complete (hread.complete [t] (.operand ht))) h
      · split at h
        · next ht => exact htaken (.due (.opening ht hread)) h
        · cases h
    | complete hread =>
      simp only [shunt, Bool.false_eq_true, if_false] at h
      split at h
      · next o ht => exact htaken (.due (hread.operator (.operator ht))) h
      · next minus number _ hs =>
        -- the number without its sign is the right operand, and complete
        have hnumber : number.kind.isOperand = true := by
          rw [(Token.signSplit?_kinds hs).2.2]
          rfl
        have hoperand := (hread.operator (.signed hs)).complete [] (.operand hnumber)
        rw [List.append_nil] at hoperand
        exact htaken (.complete hoperand) h
      · next hk =>
        split at h
        · next hclose => exact htaken (.complete (hread.close hk hclose)) h
        · exact hends hread (by simp [Token.extends, Token.signSplit?, hk]) h
      · next hoperator _ hsigned =>
        refine hends hread ?_ h
        rw [Token.extends, Bool.or_eq_false_iff, Option.isSome_eq_false_iff]
        constructor
        · cases hk : t.kind with
          | operator o => exact absurd hk (hoperator o)
          | _ => rfl
        · cases hs : t.signSplit? with
          | none => rfl
          | some parts => exact absurd hs (hsigned _ _ (Token.signSplit?_kinds hs).1)

/-- **What is taken is an expression and what is put out is its tree.** Conversely every expression
    that is not gone on with is taken whole. -/
theorem toPostfix_ok_iff {ts p rest : List Token} :
    toPostfix ts = .ok (p, rest) ↔
      ∃ taken e, ts = taken ++ rest ∧ Forms 0 taken e ∧ p = e.postorder ∧ Stops rest := by
  constructor
  · exact fun h => shunt_forms (.due .start) h
  · rintro ⟨taken, e, rfl, hforms, rfl, hstop⟩
    exact toPostfix_of_forms hforms hstop

/-! ## One tree -/

theorem postorder_append_inj {e e' : Tree} (he : e.Proper) (he' : e'.Proper) (ts ts' : List Token)
    (h : ts ++ e.postorder = ts' ++ e'.postorder) : ts = ts' ∧ e = e' := by
  induction e generalizing e' ts ts' with
  | leaf t =>
    cases e' with
    | leaf t' =>
      obtain ⟨hts, ht⟩ := List.append_inj' h rfl
      exact ⟨hts, by rw [(List.cons.inj ht).1]⟩
    | node t' left' right' =>
      -- the last token is an operand in one tree and an operator in the other
      simp only [Tree.postorder, ← List.append_assoc] at h
      obtain rfl := (List.cons.inj (List.append_inj' h rfl).2).1
      obtain ⟨⟨o, ho⟩, -⟩ := he'
      simp [Tree.Proper, ho, TokenKind.isOperand] at he
  | node t left right ihl ihr =>
    obtain ⟨⟨o, ho⟩, hl, hr⟩ := he
    cases e' with
    | leaf t' =>
      simp only [Tree.postorder, ← List.append_assoc] at h
      obtain rfl := (List.cons.inj (List.append_inj' h rfl).2).1
      simp [Tree.Proper, ho, TokenKind.isOperand] at he'
    | node t' left' right' =>
      obtain ⟨-, hl', hr'⟩ := he'
      simp only [Tree.postorder, ← List.append_assoc] at h
      obtain ⟨hfront, ht⟩ := List.append_inj' h rfl
      obtain ⟨hleft, rfl⟩ := ihr hr hr' _ _ hfront
      obtain ⟨rfl, rfl⟩ := ihl hl hl' _ _ hleft
      rw [(List.cons.inj ht).1]
      exact ⟨rfl, rfl⟩

theorem postorder_inj {e e' : Tree} (he : e.Proper) (he' : e'.Proper)
    (h : e.postorder = e'.postorder) : e = e' :=
  (postorder_append_inj he he' [] [] h).2

theorem Forms.unique_append {ts ts' rest rest' : List Token} {e e' : Tree} (h : Forms 0 ts e)
    (hstop : Stops rest) (h' : Forms 0 ts' e') (hstop' : Stops rest')
    (hts : ts ++ rest = ts' ++ rest') : ts = ts' ∧ e = e' := by
  have hread := toPostfix_of_forms h hstop
  rw [hts, toPostfix_of_forms h' hstop'] at hread
  obtain ⟨hpost, rfl⟩ := Prod.mk.inj (Except.ok.inj hread)
  exact ⟨List.append_cancel_right hts, (postorder_inj h'.proper h.proper hpost).symm⟩

/-- **The tokens of an expression have one tree.** -/
theorem Forms.unique {m n : Nat} {ts : List Token} {e e' : Tree} (h : Forms m ts e)
    (h' : Forms n ts e') : e = e' :=
  ((h.mono (Nat.zero_le m)).unique_append stops_nil (h'.mono (Nat.zero_le n)) stops_nil rfl).2

/-! ## What is refused -/

/-- The causes for which tokens are refused as an expression. -/
inductive Unreadable : Cause → Prop
  | operandDue {found} : Unreadable (.operandDue found)
  | unmatchedParenthesis : Unreadable .unmatchedParenthesis
  | emptyExpression : Unreadable .emptyExpression
  | operandMissingAtEnd : Unreadable .operandMissingAtEnd

theorem Unreadable.kind {cause : Cause} (h : Unreadable cause) : cause.kind = .malformed := by
  cases h <;> rfl

theorem finish_refused {stack : List Pending} {out ts : List Token} {d : Diagnostic}
    (h : finish stack out ts = .error d) : Unreadable d.cause := by
  unfold finish at h
  split at h
  · cases h
    exact .unmatchedParenthesis
  · cases h

theorem operandDueAtEnd_refused (stack : List Pending) (last? : Option Token) :
    Unreadable (operandDueAtEnd stack last?).cause := by
  unfold operandDueAtEnd
  split
  · exact .unmatchedParenthesis
  · exact .operandMissingAtEnd
  · exact .emptyExpression

theorem shunt_refused {stack : List Pending} {out ts : List Token} {last? : Option Token}
    {due : Bool} {d : Diagnostic} (h : shunt stack out last? due ts = .error d) :
    Unreadable d.cause := by
  induction ts generalizing stack out last? due with
  | nil =>
    cases due with
    | true =>
      cases h
      exact operandDueAtEnd_refused stack last?
    | false => exact finish_refused (by simpa [shunt] using h)
  | cons t ts ih =>
    cases due with
    | true =>
      simp only [shunt, if_true] at h
      split at h
      · exact ih h
      · split at h
        · exact ih h
        · cases h
          exact .operandDue
    | false =>
      simp only [shunt, Bool.false_eq_true, if_false] at h
      split at h
      · exact ih h
      · exact ih h
      · split at h
        · exact ih h
        · exact finish_refused h
      · exact finish_refused h

theorem toPostfix_refused {ts : List Token} {d : Diagnostic} (h : toPostfix ts = .error d) :
    Unreadable d.cause :=
  shunt_refused h

end Expression

end GridSketch
