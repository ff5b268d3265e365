import GridSketch.Proofs.Script.Scan

/-!
# What an action leaves behind

A statement first works out everything that can fail and only then changes the session. So a
statement that fails has changed nothing, and one that does not has added lines to what was said.

* `Action.Quiet`, `Action.Sure`: an action that changes nothing; one that does not fail.
* `Action.Tidy`: an action that changes nothing if it fails. A quiet action before a sure one is
  tidy.
* `dispatch_tidy`: every move is tidy; `dispatch_onward`, `dispatch_quiet`: one that completes no
  statement is quiet.
-/

namespace GridSketch

/-- From `s` to `s'` lines were said, and each was both logged and shown. -/
def Session.Adds (s : Session) (lines : List String) (s' : Session) : Prop :=
  s'.log = s.log ++ lines ∧ s'.shown = s.shown ++ lines

namespace Session.Adds

variable {s s₁ s₂ : Session} {lines more : List String}

theorem refl (s : Session) : s.Adds [] s := by
  simp [Adds]

theorem trans (h₁ : s.Adds lines s₁) (h₂ : s₁.Adds more s₂) : s.Adds (lines ++ more) s₂ := by
  rw [Adds, h₂.1, h₂.2, h₁.1, h₁.2]
  simp

theorem say (s : Session) (line : String) : s.Adds [line] (s.say line) := ⟨rfl, rfl⟩

end Session.Adds

namespace Action

variable {α β : Type} {a : Action α} {f : α → Action β}

/-- An action that changes nothing. -/
structure Quiet (a : Action α) : Prop where
  ok : ∀ {s r s'}, a.run s = .ok r s' → s' = s
  error : ∀ {s fault s'}, a.run s = .error fault s' → s' = s

/-- An action that does not fail. -/
structure Sure (a : Action α) : Prop where
  ok : ∀ {s r s'}, a.run s = .ok r s' → ∃ lines, s.Adds lines s'
  error : ∀ {s fault s'}, a.run s ≠ .error fault s'

/-- An action that changes nothing if it fails. -/
structure Tidy (a : Action α) : Prop where
  ok : ∀ {s r s'}, a.run s = .ok r s' → ∃ lines, s.Adds lines s'
  error : ∀ {s fault s'}, a.run s = .error fault s' → s' = s

/-! ## Putting actions together -/

theorem run_bind_error {s s' : Session} {fault : Fault} :
    (a >>= f).run s = .error fault s' ↔
      a.run s = .error fault s' ∨ ∃ r s₁, a.run s = .ok r s₁ ∧ (f r).run s₁ = .error fault s' := by
  rw [EStateM.run_bind]
  cases a.run s with
  | ok r s₁ =>
    constructor
    · exact fun h => Or.inr ⟨r, s₁, rfl, h⟩
    · rintro (h | ⟨_, _, heq, h⟩)
      · cases h
      · cases heq
        exact h
  | error e s₁ => simp

theorem quiet_pure (r : α) : Quiet (pure r : Action α) where
  ok h := (run_pure_ok.1 h).2.symm
  error h := by cases h

theorem quiet_fail (fault : Fault) : Quiet (fail fault : Action α) where
  ok h := by cases h
  error h := by
    cases h
    rfl

theorem quiet_consult (g : Variables → Except Fault α) : Quiet (consult g) where
  ok h := (run_consult_ok.1 h).2.symm
  error {s fault s'} h := by
    rw [run_consult] at h
    split at h <;> cases h
    rfl

theorem Quiet.bind (ha : Quiet a) (hf : ∀ r, Quiet (f r)) : Quiet (a >>= f) where
  ok h := by
    obtain ⟨r, s₁, hr, h⟩ := run_bind_ok.1 h
    rw [(hf r).ok h, ha.ok hr]
  error h := by
    rcases run_bind_error.1 h with h | ⟨r, s₁, hr, h⟩
    · exact ha.error h
    · rw [(hf r).error h, ha.ok hr]

theorem quiet_mapM {g : α → Action β} (hg : ∀ x, Quiet (g x)) (xs : List α) :
    Quiet (xs.mapM g) := by
  induction xs with
  | nil => exact quiet_pure []
  | cons x xs ih =>
    rw [List.mapM_cons]
    exact (hg x).bind fun y => ih.bind fun ys => quiet_pure (y :: ys)

theorem sure_pure (r : α) : Sure (pure r : Action α) where
  ok {s r' s'} h := by
    obtain ⟨-, rfl⟩ := run_pure_ok.1 h
    exact ⟨[], .refl s⟩
  error h := by cases h

theorem sure_change (g : State → State) : Sure (change g) where
  ok h := by
    cases h
    exact ⟨[], by simp [Session.Adds]⟩
  error h := by cases h

theorem sure_say (line : String) : Sure (say line) where
  ok {s r s'} h := by
    cases h
    exact ⟨[line], .say s line⟩
  error h := by cases h

theorem Sure.bind (ha : Sure a) (hf : ∀ r, Sure (f r)) : Sure (a >>= f) where
  ok h := by
    obtain ⟨r, s₁, hr, h⟩ := run_bind_ok.1 h
    obtain ⟨lines, hlines⟩ := ha.ok hr
    obtain ⟨more, hmore⟩ := (hf r).ok h
    exact ⟨lines ++ more, hlines.trans hmore⟩
  error h := by
    rcases run_bind_error.1 h with h | ⟨r, s₁, -, h⟩
    · exact ha.error h
    · exact (hf r).error h

theorem sure_forM {g : α → Action Unit} (hg : ∀ x, Sure (g x)) (xs : List α) :
    Sure (xs.forM g) := by
  induction xs with
  | nil => exact sure_pure ()
  | cons x xs ih =>
    exact (hg x).bind fun _ => ih

theorem Quiet.tidy (ha : Quiet a) : Tidy a where
  ok {s _ _} h := ⟨[], ha.ok h ▸ .refl s⟩
  error := ha.error

theorem Sure.tidy (ha : Sure a) : Tidy a where
  ok := ha.ok
  error h := absurd h ha.error

/-- **A quiet action before a tidy one** is tidy: only the second one leaves something behind. -/
theorem Quiet.bind_tidy (ha : Quiet a) (hf : ∀ r, Tidy (f r)) : Tidy (a >>= f) where
  ok h := by
    obtain ⟨r, s₁, hr, h⟩ := run_bind_ok.1 h
    rw [← ha.ok hr]
    exact (hf r).ok h
  error h := by
    rcases run_bind_error.1 h with h | ⟨r, s₁, hr, h⟩
    · exact ha.error h
    · rw [(hf r).error h, ha.ok hr]

theorem Tidy.map (ha : Tidy a) (g : α → β) : Tidy (g <$> a) where
  ok h := by
    obtain ⟨r, hr, -⟩ := run_map_ok.1 h
    exact ha.ok hr
  error h := by
    rw [← bind_pure_comp] at h
    rcases run_bind_error.1 h with h | ⟨r, s₁, -, h⟩
    · exact ha.error h
    · cases h

end Action

/-! ## Statements -/

open GridSketch.Action

namespace Statement

variable (skipped : List Token) (t : Token) (after : List Token)

theorem draw_tidy : Tidy (draw t after) := by
  unfold draw
  split
  · exact (quiet_fail _).tidy
  · dsimp only
    split
    · exact (quiet_fail _).tidy
    · refine (quiet_mapM (fun _ => quiet_consult _) _).bind_tidy fun numbers => ?_
      split
      · exact (quiet_fail _).tidy
      · exact ((sure_change _).bind fun _ => (sure_say _).bind fun _ => sure_pure _).tidy

theorem color_tidy : Tidy (color t after) := by
  unfold color
  split
  · exact (quiet_fail _).tidy
  · split
    · exact ((sure_change _).bind fun _ => (sure_say _).bind fun _ => sure_pure _).tidy
    · exact (quiet_fail _).tidy

theorem clear_tidy : Tidy (clear after) :=
  ((sure_change _).bind fun _ => (sure_say _).bind fun _ => sure_pure _).tidy

theorem assign_tidy : Tidy (assign t after) :=
  (quiet_consult _).bind_tidy fun _ =>
    ((sure_change _).bind fun _ => (sure_say _).bind fun _ => sure_pure _).tidy

theorem binding_tidy : Tidy (binding t after) := by
  unfold binding
  split
  · exact (quiet_fail _).tidy
  · split
    · split
      · exact (quiet_fail _).tidy
      · split
        · exact assign_tidy _ _
        · exact (quiet_fail _).tidy
    · exact (quiet_fail _).tidy

theorem loop_tidy : Tidy (loop t after) := by
  unfold loop
  split
  · split
    · split
      · split
        · exact ((sure_forM sure_say _).bind fun _ => sure_pure _).tidy
        · exact (quiet_fail _).tidy
      · exact (quiet_fail _).tidy
    · exact (quiet_fail _).tidy
  · exact (quiet_fail _).tidy

theorem choice_tidy : Tidy (choice skipped t after) := by
  unfold choice
  split
  · exact (quiet_fail _).tidy
  · split
    · split
      · refine (quiet_consult _).bind_tidy fun value => ?_
        obtain ⟨v, stray⟩ := value
        cases stray with
        | cons t stray => exact (quiet_fail _).tidy
        | nil =>
          exact (quiet_consult _).bind_tidy fun _ =>
            ((sure_say _).bind fun _ => sure_pure _).tidy
      · exact (quiet_fail _).tidy
    · exact (quiet_fail _).tidy

end Statement

/-! ## Moves -/

theorem dispatchName_tidy (skipped : List Token) (name : Token) (after : List Token) :
    Tidy (dispatchName skipped name after) := by
  unfold dispatchName
  split
  · exact (Statement.assign_tidy _ _).map _
  · refine (quiet_consult _).bind_tidy fun value => ?_
    dsimp only
    split
    · exact (quiet_pure _).tidy
    · exact ((sure_say _).bind fun _ => sure_pure _).tidy

/-- **Every move is tidy:** a statement that fails has changed nothing, and one that does not fail
    has added the lines it said to the log and to what was shown. -/
theorem dispatch_tidy (skipped : List Token) (t : Token) (after : List Token) :
    Tidy (dispatch skipped t after) := by
  unfold dispatch
  split
  iterate 3 exact (Statement.draw_tidy _ _).map _
  · exact (Statement.color_tidy _ _).map _
  · exact (Statement.clear_tidy _).map _
  · exact (Statement.binding_tidy _ _).map _
  · exact (Statement.loop_tidy _ _).map _
  · exact dispatchName_tidy _ _ _
  · exact (Statement.choice_tidy _ _ _).map _
  · exact (quiet_pure _).tidy

/-- A move completes a statement. -/
def Move.completes : Move → Bool
  | complete _ => true
  | _ => false

theorem completes_of_map {a : Action (List Token)} {s s' : Session} {m : Move}
    (h : (Move.complete <$> a).run s = .ok m s') : m.completes = true := by
  obtain ⟨rest, -, rfl⟩ := run_map_ok.1 h
  rfl

/-- **A move that completes no statement** changes nothing. It passes over a token that leads none,
    or hands the expression around a name over to the choice that follows it. -/
theorem dispatch_onward {skipped after : List Token} {t : Token} {s s' : Session} {m : Move}
    (h : (dispatch skipped t after).run s = .ok m s') (hm : m.completes = false) :
    s' = s ∧
      ((m = .pass ∧ t.kind.leads = false) ∨
        ∃ v rest, m = .handOver rest ∧ t.kind = .identifier ∧
          after.head?.any (·.kind = .assign) = false ∧
          Statement.around skipped t after s.state.bindings = .ok (v, rest) ∧
          rest.head?.any (·.kind = .question) = true) := by
  have hstatement : ∀ {a : Action (List Token)}, ¬ (Move.complete <$> a).run s = .ok m s' := by
    intro a ha
    rw [completes_of_map ha] at hm
    cases hm
  unfold dispatch at h
  split at h
  iterate 7 exact absurd h hstatement
  · next hkind =>
    unfold dispatchName at h
    split at h
    · exact absurd h hstatement
    · next hsign =>
      obtain ⟨⟨v, rest⟩, s₁, hvalue, h⟩ := run_bind_ok.1 h
      obtain ⟨haround, rfl⟩ := run_consult_ok.1 hvalue
      dsimp only at h
      split at h
      · next hmark =>
        obtain ⟨rfl, rfl⟩ := run_pure_ok.1 h
        exact ⟨rfl, .inr ⟨v, rest, rfl, hkind, Bool.eq_false_iff.2 hsign, haround, hmark⟩⟩
      · cases h
        cases hm
  · exact absurd h hstatement
  · next hcircle hrectangle hline hcolor hclear hlet hstik hname hmark =>
    obtain ⟨rfl, rfl⟩ := run_pure_ok.1 h
    refine ⟨rfl, .inl ⟨rfl, ?_⟩⟩
    cases hkind : t.kind with
    | keyword k => cases k <;> contradiction
    | identifier => contradiction
    | question => contradiction
    | _ => rfl

theorem dispatch_quiet {skipped after : List Token} {t : Token} {s s' : Session} {m : Move}
    (h : (dispatch skipped t after).run s = .ok m s') (hm : m.completes = false) : s' = s :=
  (dispatch_onward h hm).1

end GridSketch
