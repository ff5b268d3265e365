import GridSketch.Proofs.Expression.Limits
import GridSketch.Proofs.Script.Effect

/-!
# Statements and the limits of the machine

A script is made of tokens that are spelled as their kinds are. Then the word of a draw statement is
a keyword, its numbers are as many as its shape needs, and every number can be read as one. Only the
count of a loop can break a limit, by having too many digits.

* `Action.FailsOnly`: what is known of the fault if an action fails. `Action.Within`: an action that
  breaks no limit.
* `LongLoop`: tokens that begin with a loop whose count is too long.
* `dispatch_breach`: a move breaks a limit at such a loop, and nowhere else.
-/

namespace GridSketch

namespace Action

variable {α β : Type} {a : Action α}

/-- If an action fails, its fault has a property. -/
def FailsOnly (P : Fault → Prop) (a : Action α) : Prop :=
  ∀ s fault s', a.run s = .error fault s' → P fault

section
variable {P : Fault → Prop}

theorem failsOnly_pure (r : α) : FailsOnly P (pure r : Action α) := by
  intro s fault s' h
  cases h

theorem failsOnly_fail {fault : Fault} (h : P fault) : FailsOnly P (fail fault : Action α) := by
  intro s other s' heq
  cases heq
  exact h

theorem Sure.failsOnly (h : Sure a) : FailsOnly P a := fun _ _ _ heq => absurd heq h.error

theorem failsOnly_consult {f : Variables → Except Fault α}
    (h : ∀ vars, ErrorsOnly P (f vars)) : FailsOnly P (consult f) := by
  intro s fault s' heq
  rw [run_consult] at heq
  split at heq
  · cases heq
  · next hf =>
    cases heq
    exact h _ _ hf

theorem FailsOnly.bind {f : α → Action β} (ha : FailsOnly P a)
    (hf : ∀ {s r s'}, a.run s = .ok r s' → FailsOnly P (f r)) : FailsOnly P (a >>= f) := by
  intro s fault s' heq
  rcases run_bind_error.1 heq with h | ⟨r, s₁, hr, h⟩
  · exact ha s fault s' h
  · exact hf hr s₁ fault s' h

theorem FailsOnly.map (ha : FailsOnly P a) (f : α → β) : FailsOnly P (f <$> a) := by
  rw [← bind_pure_comp]
  exact ha.bind fun _ => failsOnly_pure _

theorem failsOnly_mapM {g : α → Action β} {xs : List α} (h : ∀ x ∈ xs, FailsOnly P (g x)) :
    FailsOnly P (xs.mapM g) := by
  induction xs with
  | nil => exact failsOnly_pure []
  | cons x xs ih =>
    rw [List.mapM_cons]
    exact (h x (by simp)).bind fun _ => (ih fun y hy => h y (by simp [hy])).bind fun _ =>
      failsOnly_pure _

end

/-- An action that breaks no limit. -/
def Within (a : Action α) : Prop := ∀ s b s', a.run s ≠ .error (.breach b) s'

theorem within_iff : Within a ↔ FailsOnly (∀ b, · ≠ .breach b) a :=
  ⟨fun h s _ s' hr b hb => h s b s' (hb ▸ hr), fun h s b s' hr => h s _ s' hr b rfl⟩

theorem within_pure (r : α) : Within (pure r : Action α) := within_iff.2 (failsOnly_pure r)

theorem within_fail (t : Token) (cause : Cause) : Within (fail (.atToken t cause) : Action α) := by
  intro s b s' h
  cases h

theorem Sure.within (h : Sure a) : Within a := within_iff.2 h.failsOnly

theorem within_consult {f : Variables → Except Fault α} (h : ∀ vars, WithinLimits (f vars)) :
    Within (consult f) :=
  within_iff.2 (failsOnly_consult fun vars => withinLimits_iff.1 (h vars))

theorem Within.bind {f : α → Action β} (ha : Within a)
    (hf : ∀ {s r s'}, a.run s = .ok r s' → Within (f r)) : Within (a >>= f) :=
  within_iff.2 ((within_iff.1 ha).bind fun hr => within_iff.1 (hf hr))

theorem Within.map (ha : Within a) (f : α → β) : Within (f <$> a) :=
  within_iff.2 ((within_iff.1 ha).map f)

theorem within_mapM {g : α → Action β} {xs : List α} (h : ∀ x ∈ xs, Within (g x)) :
    Within (xs.mapM g) :=
  within_iff.2 (failsOnly_mapM fun x hx => within_iff.1 (h x hx))

theorem mapM_length {g : α → Action β} {xs : List α} {ys : List β} {s s' : Session}
    (h : (xs.mapM g).run s = .ok ys s') : ys.length = xs.length := by
  induction xs generalizing ys s s' with
  | nil =>
    obtain ⟨rfl, -⟩ := run_pure_ok.1 h
    rfl
  | cons x xs ih =>
    rw [List.mapM_cons] at h
    obtain ⟨y, s₁, -, h⟩ := run_bind_ok.1 h
    obtain ⟨rest, s₂, hrest, h⟩ := run_bind_ok.1 h
    obtain ⟨rfl, -⟩ := run_pure_ok.1 h
    rw [List.length_cons, List.length_cons, ih hrest]

end Action

theorem Token.Spelled.readable {t : Token} (h : t.Spelled) : t.Readable := by
  intro hk
  rwa [Spelled, hk] at h

theorem Token.Spelled.ofWord? {t : Token} {k : Keyword} (h : t.Spelled) (hk : t.kind = .keyword k) :
    Keyword.ofWord? t.text = some k := by
  rw [Spelled, hk] at h
  rw [String.toList_inj.1 h, Keyword.ofWord?_word]

/-- The keywords that draw a shape. -/
def Keyword.Draws (k : Keyword) : Prop := k = .circle ∨ k = .rectangle ∨ k = .line

theorem Keyword.Draws.shape {k : Keyword} (hk : k.Draws) {numbers : List Float}
    (hcount : numbers.length = k.arity) : ∃ shape, Shape.ofArguments? k numbers = some shape := by
  rcases hk with rfl | rfl | rfl
  · match numbers, hcount with
    | [x, y, radius], _ => exact ⟨_, rfl⟩
  · match numbers, hcount with
    | [x, y, width, height], _ => exact ⟨_, rfl⟩
  · match numbers, hcount with
    | [x₁, y₁, x₂, y₂], _ => exact ⟨_, rfl⟩

/-- The tokens begin with a loop whose count is a whole number of more than 4300 digits and whose
    message is a string. The count breaks the limit. -/
inductive LongLoop : List Token → Breach → Prop
  | intro {lead count message : Token} {rest : List Token} : lead.kind = .keyword .stik →
      count.kind = .number → (∀ c ∈ count.text.toList, Text.isDecimalDigit c = true) →
      4300 < count.text.length → message.kind = .string →
      LongLoop (lead :: count :: message :: rest) (.unreadableCount count.text)

namespace Statement

open GridSketch.Action

variable {skipped after : List Token} {t : Token}

theorem scalar_within (vars : Variables) (ht : t.Readable) :
    WithinLimits (scalar vars t) := by
  refine (Expression.operand_within ht).bind fun v _ => ?_
  split
  · split
    · exact within_ok _
    · exact within_script _
  · exact within_script _

theorem draw_within {k : Keyword} (hk : t.kind = .keyword k) (hdraws : k.Draws) (ht : t.Spelled)
    (hafter : ∀ u ∈ after, u.Spelled) : Within (draw t after) := by
  rw [draw, ht.ofWord? hk]
  dsimp only
  split
  · exact within_fail _ _
  · next hcount =>
    have hscalars : ∀ u ∈ after.take k.arity, Within (consult (scalar · u)) := fun u hu =>
      within_consult fun vars => scalar_within vars (hafter u (List.mem_of_mem_take hu)).readable
    refine (within_mapM hscalars).bind fun {s numbers s'} hrun => ?_
    have harity : numbers.length = k.arity := by
      have hle := List.length_take_le k.arity after
      rw [mapM_length hrun]
      omega
    obtain ⟨shape, hshape⟩ := hdraws.shape harity
    rw [hshape]
    exact ((sure_change _).bind fun _ => (sure_say _).bind fun _ => sure_pure _).within

theorem color_within : Within (color t after) := by
  unfold color
  split
  · exact within_fail _ _
  · split
    · exact ((sure_change _).bind fun _ => (sure_say _).bind fun _ => sure_pure _).within
    · exact within_fail _ _

theorem clear_within : Within (clear after) :=
  ((sure_change _).bind fun _ => (sure_say _).bind fun _ => sure_pure _).within

theorem assign_within (hafter : ∀ u ∈ after, u.Readable) : Within (assign t after) :=
  (within_consult fun _ => Expression.evaluate_within hafter).bind fun _ =>
    ((sure_change _).bind fun _ => (sure_say _).bind fun _ => sure_pure _).within

theorem binding_within (hafter : ∀ u ∈ after, u.Readable) : Within (binding t after) := by
  unfold binding
  split
  · exact within_fail _ _
  · split
    · split
      · exact within_fail _ _
      · split
        · exact assign_within fun u hu => hafter u (by simp [hu])
        · exact within_fail _ _
    · exact within_fail _ _

theorem choice_within (hskipped : ∀ u ∈ skipped, u.Readable) (hafter : ∀ u ∈ after, u.Readable) :
    Within (choice skipped t after) := by
  unfold choice
  split
  · exact within_fail _ _
  · split
    · next yes separator no rest =>
      split
      · refine (within_consult fun _ => Expression.evaluate_within fun u hu =>
          hskipped u (List.mem_reverse.1 hu)).bind fun {s r s'} _ => ?_
        obtain ⟨v, stray⟩ := r
        cases stray with
        | cons u stray => exact within_fail _ _
        | nil =>
          refine (within_consult fun _ => Expression.operand_within ?_).bind fun _ =>
            ((sure_say _).bind fun _ => sure_pure _).within
          split
          · exact hafter yes (by simp)
          · exact hafter no (by simp)
      · exact within_fail _ _
    · exact within_fail _ _

theorem count_eq_none {text : String} (h : Number.Literal text.toList) :
    (text.toList.all Text.isDigit = true ∧ Number.integer? text = none) ↔
      (∀ c ∈ text.toList, Text.isDecimalDigit c = true) ∧ 4300 < text.length := by
  rw [h.all_isDigit]
  refine and_congr_right fun hdecimal => ?_
  have hinteger := Number.integer?_of_digits h.ne_nil hdecimal
  rw [String.ofList_toList, String.length_toList] at hinteger
  rw [hinteger, ← Nat.not_le, Number.maxIntegerDigits]
  split <;> simp [*]

theorem loop_breach {s s' : Session} {b : Breach} (ht : t.kind = .keyword .stik)
    (hafter : ∀ u ∈ after, u.Readable) :
    (loop t after).run s = .error (.breach b) s' ↔ s' = s ∧ LongLoop (t :: after) b := by
  constructor
  · intro h
    unfold loop at h
    split at h
    · next count message rest =>
      split at h
      · next hcount =>
        split at h
        · next hmessage =>
          split at h
          · exact absurd h ((sure_forM sure_say _).bind fun _ => sure_pure _).error
          · next hnone =>
            cases h
            have hliteral := hafter count (by simp) hcount.1
            obtain ⟨hdecimal, hlong⟩ := (count_eq_none hliteral).1 ⟨hcount.2.2, hnone⟩
            exact ⟨rfl, .intro ht hcount.1 hdecimal hlong hmessage⟩
        · cases h
      · cases h
    · cases h
  · rintro ⟨rfl, h⟩
    cases h with
    | @intro _ count message rest _ hkind hdecimal hlong hmessage =>
      have hliteral := hafter count (by simp) hkind
      obtain ⟨hdigits, hnone⟩ := (count_eq_none hliteral).2 ⟨hdecimal, hlong⟩
      have hne : count.text ≠ "" := fun heq => hliteral.ne_nil (by rw [heq, String.toList_empty])
      simp only [loop]
      rw [if_pos ⟨hkind, hne, hdigits⟩, if_pos hmessage, hnone]
      rfl

theorem mem_of_mem_leadIn {u : Token} (hu : u ∈ leadIn skipped) : u ∈ skipped := by
  unfold leadIn at hu
  split at hu
  · exact List.mem_reverse.1 hu
  · cases hu

theorem around_within {name : Token} (vars : Variables) (hskipped : ∀ u ∈ skipped, u.Readable)
    (hafter : ∀ u ∈ name :: after, u.Readable) :
    WithinLimits (around skipped name after vars) := by
  have hlead : ∀ u ∈ leadIn skipped, u.Readable := fun u hu => hskipped u (mem_of_mem_leadIn hu)
  refine (Expression.evaluate_within ?_).bind fun r _ => ?_
  · exact List.forall_mem_append.2 ⟨hlead, hafter⟩
  · obtain ⟨v, rest⟩ := r
    dsimp only
    split
    · exact Expression.evaluate_within hafter
    · exact within_ok _

end Statement

open GridSketch.Action

/-! ## Moves -/

variable {skipped after : List Token} {t : Token}

theorem dispatchName_within (hskipped : ∀ u ∈ skipped, u.Readable)
    (hafter : ∀ u ∈ t :: after, u.Readable) : Within (dispatchName skipped t after) := by
  unfold dispatchName
  split
  · exact (Statement.assign_within fun u hu =>
      hafter u (List.mem_cons_of_mem t (List.mem_of_mem_tail hu))).map _
  · refine (within_consult fun vars => Statement.around_within vars hskipped hafter).bind
      fun {s r s'} _ => ?_
    dsimp only
    split
    · exact within_pure _
    · exact ((sure_say _).bind fun _ => sure_pure _).within

theorem dispatch_within (hskipped : ∀ u ∈ skipped, u.Spelled) (hafter : ∀ u ∈ t :: after, u.Spelled)
    (hkind : t.kind ≠ .keyword .stik) : Within (dispatch skipped t after) := by
  have hread : ∀ u ∈ skipped, u.Readable := fun u hu => (hskipped u hu).readable
  have hreads : ∀ u ∈ t :: after, u.Readable := fun u hu => (hafter u hu).readable
  obtain ⟨ht, hspelled⟩ := List.forall_mem_cons.1 hafter
  have hreadAfter := (List.forall_mem_cons.1 hreads).2
  unfold dispatch
  split
  · next hk => exact (Statement.draw_within hk (Or.inl rfl) ht hspelled).map _
  · next hk => exact (Statement.draw_within hk (Or.inr (Or.inl rfl)) ht hspelled).map _
  · next hk => exact (Statement.draw_within hk (Or.inr (Or.inr rfl)) ht hspelled).map _
  · exact Statement.color_within.map _
  · exact Statement.clear_within.map _
  · exact (Statement.binding_within hreadAfter).map _
  · next hk => exact absurd hk hkind
  · exact dispatchName_within hread hreads
  · exact (Statement.choice_within hread hreadAfter).map _
  · exact within_pure _

/-- **A move breaks a limit** at a loop whose count is too long, and nowhere else. -/
theorem dispatch_breach {s s' : Session} {b : Breach} (hskipped : ∀ u ∈ skipped, u.Spelled)
    (hafter : ∀ u ∈ t :: after, u.Spelled) :
    (dispatch skipped t after).run s = .error (.breach b) s' ↔
      s' = s ∧ LongLoop (t :: after) b := by
  by_cases hkind : t.kind = .keyword .stik
  · have hdispatch : dispatch skipped t after = .complete <$> Statement.loop t after := by
      unfold dispatch
      rw [hkind]
    rw [hdispatch, ← Statement.loop_breach hkind fun u hu =>
      (hafter u (List.mem_cons_of_mem t hu)).readable, ← bind_pure_comp, run_bind_error]
    exact or_iff_left fun ⟨_, _, _, h⟩ => by cases h
  · refine ⟨fun h => absurd h (dispatch_within hskipped hafter hkind s b s'), fun ⟨_, h⟩ => ?_⟩
    cases h with
    | intro hlead => exact absurd hlead hkind

end GridSketch
