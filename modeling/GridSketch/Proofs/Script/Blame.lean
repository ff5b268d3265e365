import GridSketch.Proofs.Expression.Blame
import GridSketch.Proofs.Script.Limits

/-!
# The tokens that a statement is refused for

A statement is refused for a token that it has looked at: the one that leads it, one after it or one
that was skipped before it. Only an assignment at the very end, with nothing after its sign, has no
token to blame.

* `Dangling`: the tokens are such an assignment; `dispatch_dangling` is its refusal.
-/

namespace GridSketch

open GridSketch.Action

/-- An assignment with nothing after its sign: a name and the sign, with the keyword of a binding
    before them or without. -/
inductive Dangling : List Token → Prop
  | bare {name sign : Token} : name.kind = .identifier → sign.kind = .assign →
      Dangling [name, sign]
  | binding {lead name sign : Token} : lead.kind = .keyword .let_ → name.kind = .identifier →
      sign.kind = .assign → Dangling [lead, name, sign]

section
variable {ts skipped after : List Token} {t : Token}

theorem failsOnly_atToken {α : Type} (ht : t ∈ ts) (cause : Cause) :
    FailsOnly (Fault.Blames ts) (fail (.atToken t cause) : Action α) :=
  failsOnly_fail (Diagnostic.blames_atToken ht cause)

theorem evaluate_blames_of_mem {vars : Variables} {us : List Token} (hne : us ≠ [])
    (hus : ∀ u ∈ us, u ∈ ts) :
    ErrorsOnly (Fault.Blames ts) (Expression.evaluate vars us) :=
  (Expression.evaluate_blames hne).mono fun _ h => h.mono hus

theorem operand_blames_of_mem {vars : Variables} (ht : t ∈ ts) :
    ErrorsOnly (Fault.Blames ts) (Expression.operand vars t) :=
  Expression.operand_blames fun _ => Or.inl ht

namespace Statement

variable (ht : t ∈ ts) (hafter : ∀ u ∈ after, u ∈ ts)

include ht in
theorem scalar_blames (vars : Variables) :
    ErrorsOnly (Fault.Blames ts) (scalar vars t) := by
  refine (operand_blames_of_mem ht).bind fun v _ => ?_
  split
  · split
    · exact errorsOnly_ok _
    · exact errorsOnly_error (Diagnostic.blames_atToken ht _)
  · exact errorsOnly_error (Diagnostic.blames_atToken ht _)

include ht hafter

theorem draw_blames : FailsOnly (Fault.Blames ts) (draw t after) := by
  unfold draw
  split
  · exact failsOnly_fail trivial
  · dsimp only
    split
    · exact failsOnly_atToken ht _
    · refine (failsOnly_mapM fun u hu => ?_).bind fun _ => ?_
      · exact failsOnly_consult (scalar_blames (hafter u (List.mem_of_mem_take hu)))
      · split
        · exact failsOnly_fail trivial
        · exact ((sure_change _).bind fun _ => (sure_say _).bind fun _ => sure_pure _).failsOnly

theorem color_blames : FailsOnly (Fault.Blames ts) (color t after) := by
  unfold color
  split
  · exact failsOnly_atToken ht _
  · split
    · exact ((sure_change _).bind fun _ => (sure_say _).bind fun _ => sure_pure _).failsOnly
    · exact failsOnly_atToken (hafter _ (by simp)) _

theorem loop_blames : FailsOnly (Fault.Blames ts) (loop t after) := by
  unfold loop
  split
  · split
    · split
      · split
        · exact ((sure_forM sure_say _).bind fun _ => sure_pure _).failsOnly
        · exact failsOnly_fail trivial
      · exact failsOnly_atToken (hafter _ (by simp)) _
    · exact failsOnly_atToken (hafter _ (by simp)) _
  · exact failsOnly_atToken ht _

omit ht in
theorem assign_blames (hne : after ≠ []) (name : Token) :
    FailsOnly (Fault.Blames ts) (assign name after) :=
  (failsOnly_consult fun _ => evaluate_blames_of_mem hne hafter).bind fun _ =>
    ((sure_change _).bind fun _ => (sure_say _).bind fun _ => sure_pure _).failsOnly

theorem binding_blames (hk : t.kind = .keyword .let_) (hd : ¬ Dangling (t :: after)) :
    FailsOnly (Fault.Blames ts) (binding t after) := by
  unfold binding
  split
  · exact failsOnly_atToken ht _
  · next name after =>
    split
    · next hname =>
      split
      · exact failsOnly_atToken (hafter _ (by simp)) _
      · next sign after =>
        split
        · next hsign =>
          refine assign_blames (fun u hu => hafter u (by simp [hu])) ?_ name
          rintro rfl
          exact hd (.binding hk hname hsign)
        · exact failsOnly_atToken (hafter _ (by simp)) _
    · exact failsOnly_atToken (hafter _ (by simp)) _

variable (hskipped : ∀ u ∈ skipped, u ∈ ts)
include hskipped

theorem choice_blames : FailsOnly (Fault.Blames ts) (choice skipped t after) := by
  unfold choice
  split
  · exact failsOnly_atToken ht _
  · next hcondition =>
    have hne : skipped.reverse ≠ [] := by simpa using hcondition
    have hreverse : ∀ u ∈ skipped.reverse, u ∈ ts := fun u hu => hskipped u (List.mem_reverse.1 hu)
    split
    · split
      · refine (failsOnly_consult fun _ => evaluate_blames_of_mem hne hreverse).bind
          fun {s r s'} hrun => ?_
        obtain ⟨v, stray⟩ := r
        cases stray with
        | cons u stray =>
          have hsuffix := Expression.evaluate_suffix (run_consult_ok.1 hrun).1
          exact failsOnly_atToken (hreverse u (hsuffix.subset (by simp))) _
        | nil =>
          refine (failsOnly_consult fun _ => operand_blames_of_mem ?_).bind fun _ =>
            ((sure_say _).bind fun _ => sure_pure _).failsOnly
          split <;> exact hafter _ (by simp)
      · exact failsOnly_atToken ht _
    · exact failsOnly_atToken ht _

theorem around_blames (vars : Variables) :
    ErrorsOnly (Fault.Blames ts) (around skipped t after vars) := by
  have hname : ∀ u ∈ t :: after, u ∈ ts := List.forall_mem_cons.2 ⟨ht, hafter⟩
  have hlead : ∀ u ∈ leadIn skipped, u ∈ ts := by
    intro u hu
    unfold leadIn at hu
    split at hu
    · exact hskipped u (List.mem_reverse.1 hu)
    · cases hu
  refine (evaluate_blames_of_mem (by simp) ?_).bind fun r _ => ?_
  · exact List.forall_mem_append.2 ⟨hlead, hname⟩
  · obtain ⟨v, rest⟩ := r
    dsimp only
    split
    · exact evaluate_blames_of_mem (by simp) hname
    · exact errorsOnly_ok _

end Statement

/-! ## Moves -/

theorem dispatchName_blames (hskipped : ∀ u ∈ skipped, u ∈ ts) (hafter : ∀ u ∈ t :: after, u ∈ ts)
    (hk : t.kind = .identifier) (hd : ¬ Dangling (t :: after)) :
    FailsOnly (Fault.Blames ts) (dispatchName skipped t after) := by
  obtain ⟨ht, hafter⟩ := List.forall_mem_cons.1 hafter
  unfold dispatchName
  split
  · next hsign =>
    refine (Statement.assign_blames (fun u hu => hafter u (List.mem_of_mem_tail hu)) ?_ t).map _
    intro hnil
    match after, hsign, hnil with
    | [sign], hsign, _ => exact hd (.bare hk (by simpa using hsign))
  · refine (failsOnly_consult fun vars => Statement.around_blames ht hafter hskipped vars).bind
      fun {s r s'} _ => ?_
    dsimp only
    split
    · exact failsOnly_pure _
    · exact ((sure_say _).bind fun _ => sure_pure _).failsOnly

/-- **A move is refused for a token of the script,** unless it is made at an assignment with nothing
    after its sign. -/
theorem dispatch_blames (hskipped : ∀ u ∈ skipped, u ∈ ts) (hafter : ∀ u ∈ t :: after, u ∈ ts)
    (hd : ¬ Dangling (t :: after)) : FailsOnly (Fault.Blames ts) (dispatch skipped t after) := by
  obtain ⟨ht, hrest⟩ := List.forall_mem_cons.1 hafter
  unfold dispatch
  split
  iterate 3 exact (Statement.draw_blames ht hrest).map _
  · exact (Statement.color_blames ht hrest).map _
  · exact ((sure_change _).bind fun _ => (sure_say _).bind fun _ => sure_pure _).failsOnly.map _
  · next hk => exact (Statement.binding_blames ht hrest hk hd).map _
  · exact (Statement.loop_blames ht hrest).map _
  · next hk => exact dispatchName_blames hskipped hafter hk hd
  · exact (Statement.choice_blames ht hrest hskipped).map _
  · exact failsOnly_pure _

theorem dispatch_dangling (hd : Dangling (t :: after)) (s : Session) :
    (dispatch skipped t after).run s = .error (.script .ofNothing) s := by
  cases hd with
  | bare hname hsign =>
    unfold dispatch
    rw [hname]
    simp only [dispatchName, List.head?_cons, Option.any_some, hsign, decide_true, if_true]
    rfl
  | binding hlead hname hsign =>
    unfold dispatch
    rw [hlead]
    simp only [Statement.binding, hname, hsign, if_true]
    rfl

end

end GridSketch
