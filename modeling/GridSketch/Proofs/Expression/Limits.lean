import GridSketch.Expression.Evaluation
import GridSketch.Proofs.Expression.Failure

/-!
# Expressions and the limits of the machine

A number that cannot be read breaks a limit of the machine. The numbers of a script can be read, and
so can those that the reading of an expression makes of them.

* `ErrorsOnly`: what is known of the fault if a result fails. `WithinLimits`: a result that breaks no
  limit.
* `evaluate_within`, `calculate_within`: an expression of a script breaks no limit.
-/

namespace GridSketch

/-- If a result fails, its fault has a property. -/
def ErrorsOnly {α : Type} (P : Fault → Prop) (r : Except Fault α) : Prop :=
  ∀ fault, r = .error fault → P fault

/-- A result that breaks no limit: if it fails, the script is at fault. -/
def WithinLimits {α : Type} (r : Except Fault α) : Prop := ∀ b, r ≠ .error (.breach b)

section
variable {α β : Type} {P : Fault → Prop} {r : Except Fault α}

theorem errorsOnly_ok (a : α) : ErrorsOnly P (.ok a) := by
  intro fault h
  cases h

theorem errorsOnly_error {fault : Fault} (h : P fault) :
    ErrorsOnly P (.error fault : Except Fault α) := by
  intro other heq
  cases heq
  exact h

theorem ErrorsOnly.bind {f : α → Except Fault β} (h : ErrorsOnly P r)
    (hf : ∀ a, r = .ok a → ErrorsOnly P (f a)) : ErrorsOnly P (r >>= f) := by
  cases r with
  | ok a => exact hf a rfl
  | error fault => exact errorsOnly_error (h fault rfl)

theorem ErrorsOnly.map (h : ErrorsOnly P r) (f : α → β) : ErrorsOnly P (r.map f) := by
  cases r with
  | ok a => exact errorsOnly_ok (f a)
  | error fault => exact errorsOnly_error (h fault rfl)

theorem ErrorsOnly.mono {Q : Fault → Prop} (h : ErrorsOnly P r) (hPQ : ∀ fault, P fault → Q fault) :
    ErrorsOnly Q r := fun fault hr => hPQ fault (h fault hr)

theorem withinLimits_iff : WithinLimits r ↔ ErrorsOnly (∀ b, · ≠ .breach b) r :=
  ⟨fun h _ hr b hb => h b (hb ▸ hr), fun h b hr => h _ hr b rfl⟩

theorem within_ok (a : α) : WithinLimits (.ok a) := withinLimits_iff.2 (errorsOnly_ok a)

theorem within_script (d : Diagnostic) : WithinLimits (.error (.script d) : Except Fault α) := by
  intro b h
  cases h

@[simp] theorem ofScript_eq_ok {r : Except Diagnostic α} {a : α} :
    Fault.ofScript r = .ok a ↔ r = .ok a := by
  cases r <;> simp [Fault.ofScript]

theorem within_ofScript (r : Except Diagnostic α) : WithinLimits (Fault.ofScript r) := by
  cases r with
  | ok a => exact within_ok a
  | error d => exact within_script d

theorem WithinLimits.bind {f : α → Except Fault β} (h : WithinLimits r)
    (hf : ∀ a, r = .ok a → WithinLimits (f a)) : WithinLimits (r >>= f) :=
  withinLimits_iff.2 ((withinLimits_iff.1 h).bind fun a ha => withinLimits_iff.1 (hf a ha))

theorem WithinLimits.map (h : WithinLimits r) (f : α → β) : WithinLimits (r.map f) :=
  withinLimits_iff.2 ((withinLimits_iff.1 h).map f)

end

namespace Expression

/-! ## The reordered tokens -/

section
variable {P Q : Token → Prop}

/-- All tokens on the stack and in the output have a property. -/
structure Throughout (P : Token → Prop) (stack : List Pending) (out : List Token) : Prop where
  stack : ∀ p ∈ stack, P p.token
  out : ∀ t ∈ out, P t

theorem Throughout.push {stack : List Pending} {out : List Token} (h : Throughout P stack out)
    {p : Pending} (hp : P p.token) : Throughout P (p :: stack) out :=
  ⟨List.forall_mem_cons.2 ⟨hp, h.stack⟩, h.out⟩

theorem Throughout.put {stack : List Pending} {out : List Token} (h : Throughout P stack out)
    {t : Token} (ht : P t) : Throughout P stack (t :: out) :=
  ⟨h.stack, List.forall_mem_cons.2 ⟨ht, h.out⟩⟩

theorem Throughout.pop {stack : List Pending} {out : List Token} {p : Pending}
    (h : Throughout P (p :: stack) out) : Throughout P stack (p.token :: out) :=
  ⟨fun q hq => h.stack q (by simp [hq]), List.forall_mem_cons.2 ⟨h.stack p (by simp), h.out⟩⟩

theorem Throughout.release {stack : List Pending} {out : List Token} (h : Throughout P stack out)
    (o : Operator) : Throughout P (release o stack out).1 (release o stack out).2 := by
  induction stack generalizing out with
  | nil => exact h
  | cons p stack ih =>
    cases p with
    | opening t => exact h
    | operator q t =>
      rw [Expression.release]
      split
      · exact ih h.pop
      · exact h

theorem Throughout.closeGroup? {stack rest : List Pending} {out put : List Token}
    (h : Throughout P stack out) (hclose : closeGroup? stack out = some (rest, put)) :
    Throughout P rest put := by
  induction stack generalizing out with
  | nil => cases hclose
  | cons p stack ih =>
    cases p with
    | opening t =>
      cases hclose
      exact ⟨fun q hq => h.stack q (by simp [hq]), h.out⟩
    | operator q t => exact ih h.pop hclose

theorem Throughout.finish {stack : List Pending} {out rest p r : List Token}
    (h : Throughout P stack out) (hfinish : finish stack out rest = .ok (p, r)) :
    ∀ t ∈ p, P t := by
  obtain ⟨rfl, -⟩ := finish_ok hfinish
  intro t ht
  rcases List.mem_append.1 ht with ht | ht
  · exact h.out t (List.mem_reverse.1 ht)
  · obtain ⟨q, hq, rfl⟩ := List.mem_map.1 ht
    exact h.stack q hq

variable (hkeep : ∀ {t}, Q t → P t)
  (hparts : ∀ {t minus number}, t.signSplit? = some (minus, number) → Q t → P minus ∧ P number)
include hkeep hparts

theorem shunt_forall {stack : List Pending} {out ts p rest : List Token} {last? : Option Token}
    {due : Bool} (h : shunt stack out last? due ts = .ok (p, rest))
    (hread : Throughout P stack out) (hts : ∀ t ∈ ts, Q t) : ∀ t ∈ p, P t := by
  induction ts generalizing stack out last? due with
  | nil =>
    cases due with
    | true => simp [shunt] at h
    | false => exact hread.finish (by simpa [shunt] using h)
  | cons t ts ih =>
    obtain ⟨ht, hts⟩ := List.forall_mem_cons.1 hts
    cases due with
    | true =>
      simp only [shunt, if_true] at h
      split at h
      · exact ih h (hread.put (hkeep ht)) hts
      · split at h
        · exact ih h (hread.push (hkeep ht)) hts
        · cases h
    | false =>
      simp only [shunt, Bool.false_eq_true, if_false] at h
      split at h
      · exact ih h ((hread.release _).push (hkeep ht)) hts
      · next minus number _ hs =>
        obtain ⟨hminus, hnumber⟩ := hparts hs ht
        exact ih h (((hread.release .minus).put hnumber).push hminus) hts
      · split at h
        · next hclose => exact ih h (hread.closeGroup? hclose) hts
        · exact hread.finish h
      · exact hread.finish h

/-- **What holds of all tokens of an expression,** and of the parts of a number with a sign, holds
    of all reordered ones. -/
theorem toPostfix_forall {ts p rest : List Token} (h : toPostfix ts = .ok (p, rest))
    (hts : ∀ t ∈ ts, Q t) : ∀ t ∈ p, P t :=
  shunt_forall hkeep hparts h ⟨by simp, by simp⟩ hts

end

/-! ## Values -/

variable {vars : Variables}

theorem operand_within {t : Token} (h : t.Readable) : WithinLimits (operand vars t) := by
  unfold operand
  split
  · next hk =>
    obtain ⟨x, hx⟩ := h.value hk
    rw [hx]
    exact within_ok _
  · exact within_ok _
  · exact within_ofScript _
  · exact within_script _

theorem applyToken_within (t : Token) (left right : Value) :
    WithinLimits (applyToken t left right) := by
  unfold applyToken
  split
  · unfold atToken
    split
    · exact within_ok _
    · exact within_script _
  · split <;> exact within_script _

theorem push_within {stack : List Value} {t : Token} (h : t.Readable) :
    WithinLimits (push vars stack t) := by
  unfold push
  split
  · exact (applyToken_within _ _ _).map _
  · exact within_script _
  · exact (operand_within h).map _

theorem ofPostfix_within {ts : List Token} (h : ∀ t ∈ ts, t.Readable) :
    WithinLimits (ofPostfix vars ts) := by
  have hfold : ∀ (us : List Token) (stack : List Value), (∀ t ∈ us, t.Readable) →
      WithinLimits (us.foldlM (push vars) stack) := by
    intro us
    induction us with
    | nil => exact fun stack _ => within_ok stack
    | cons u us ih =>
      intro stack hus
      rw [List.foldlM_cons]
      exact (push_within (hus u (by simp))).bind fun stack _ =>
        ih stack fun t ht => hus t (by simp [ht])
  refine (hfold ts [] h).bind fun stack _ => ?_
  split
  · exact within_ok _
  · dsimp only
    split <;> exact within_script _

theorem evaluate_within {ts : List Token} (h : ∀ t ∈ ts, t.Readable) :
    WithinLimits (evaluate vars ts) := by
  refine (within_ofScript _).bind fun result hresult => ?_
  obtain ⟨p, rest⟩ := result
  refine (ofPostfix_within ?_).bind fun v _ => within_ok _
  refine toPostfix_forall id (fun hs ht => ⟨?_, ht.unsigned hs⟩) (ofScript_eq_ok.1 hresult) h
  intro hk
  rw [(Token.signSplit?_kinds hs).2.1] at hk
  cases hk

theorem calculate_within (source : String) : WithinLimits (calculate vars source) := by
  refine (within_ofScript _).bind fun ts hts => ?_
  refine (evaluate_within (Lexer.tokens_readable (ofScript_eq_ok.1 hts))).bind fun result _ => ?_
  obtain ⟨v, rest⟩ := result
  cases rest with
  | nil => exact within_ok v
  | cons stray rest =>
    dsimp only
    split <;> exact within_script _

end Expression

end GridSketch
