import GridSketch.Proofs.Cursor.Run

/-!
# Where a run comes to

A run with a cursor goes from point to point. At each of them it can be told which tokens lie in the
window: tokens that lead nothing, unless a name has just left its expression to the choice at the
cursor.

* `Waits` is the invariant of the tokens in the window, `Waits.move` its step.
* `Reaches`: the points of a run. `Reaches.stands` is the invariant there, `Reaches.run` says that
  the run goes on from there.
-/

namespace GridSketch

/-- What a run has skipped since the last completed statement: tokens that lead none, unless the
    next one is the mark of a choice that an expression was left to. -/
def Waits (skipped rest : List Token) : Prop :=
  (∀ t ∈ skipped, t.kind.leads = false) ∨ rest.head?.any (·.kind = .question) = true

theorem Waits.move {skipped after : List Token} {t : Token} {s s' : Session} {m : Move}
    (h : Waits skipped (t :: after)) (hmove : (dispatch skipped t after).run s = .ok m s') :
    Waits (m.skipped skipped t after) (m.rest after) := by
  cases m with
  | complete rest => exact .inl fun u hu => by cases hu
  | pass =>
    rcases (dispatch_onward hmove rfl).2 with ⟨-, hleads⟩ | ⟨_, _, hm, -⟩
    · rcases h with h | h
      · exact .inl (List.forall_mem_cons.2 ⟨hleads, h⟩)
      · have hkind : t.kind = .question := by simpa using h
        rw [hkind] at hleads
        cases hleads
    · cases hm
  | handOver rest =>
    rcases (dispatch_onward hmove rfl).2 with ⟨hm, -⟩ | ⟨_, _, hm, -, -, -, hmark⟩
    · cases hm
    · cases hm
      exact .inr hmark

namespace Cursor

/-- A point of a run: the cursor, the beginning of the window and the session. -/
structure Point where
  index : Nat
  window : Nat
  session : Session

/-- The points that a run over all tokens comes to. -/
inductive Reaches (ts : List Token) (s : Session) : Point → Prop
  | first : Reaches ts s ⟨0, 0, s⟩
  | next {p : Point} {next : Nat} {completed : Bool} {s' : Session} : Reaches ts s p →
      (step ts p.index p.window).run p.session = .ok (next, completed) s' →
      Reaches ts s ⟨next, if completed then next else p.window, s'⟩

section
variable {ts skipped rest : List Token} {index window next : Nat} {completed : Bool}
  {s s' : Session}

theorem step_ok (h : Stands ts index window skipped rest)
    (hstep : (step ts index window).run s = .ok (next, completed) s') :
    ∃ t after m, rest = t :: after ∧ (dispatch skipped t after).run s = .ok m s' ∧
      place ts after m = (next, completed) := by
  cases rest with
  | nil =>
    have hnone : tokenAt ts index = .error (.gap (.noToken index)) := by
      rw [tokenAt, List.getElem?_eq_none (by simp [h.length])]
    rw [step, hnone] at hstep
    cases hstep
  | cons t after =>
    rw [step_eq h, ← bind_pure_comp, EStateM.run_bind, act_run] at hstep
    cases hmove : (dispatch skipped t after).run s with
    | error fault s₁ =>
      rw [hmove] at hstep
      cases hstep
    | ok m s₁ =>
      rw [hmove] at hstep
      cases hstep
      exact ⟨t, after, m, rfl, hmove, rfl⟩

end

namespace Reaches

variable {ts : List Token} {s : Session} {p : Point}

/-- **The invariant of a run with a cursor:** the window begins where the last completed statement
    ended, and what lies between it and the cursor waits. -/
theorem stands (h : Reaches ts s p) :
    ∃ skipped rest, Stands ts p.index p.window skipped rest ∧ Waits skipped rest := by
  induction h with
  | first => exact ⟨[], ts, stands_first ts, .inl fun t ht => by cases ht⟩
  | @next p next completed s' _ hstep ih =>
    obtain ⟨skipped, rest, hstands, hwaits⟩ := ih
    obtain ⟨t, after, m, rfl, hmove, hplace⟩ := step_ok hstands hstep
    have hnext := (hstands.move (dispatch_rest hmove)).2
    rw [hplace] at hnext
    exact ⟨_, _, hnext, hwaits.move hmove⟩

theorem run (h : Reaches ts s p) :
    (Cursor.execute ts).run s = (Cursor.run ts p.index p.window).run p.session := by
  induction h with
  | first => rfl
  | @next p next completed s' hreach hstep ih =>
    obtain ⟨skipped, rest, hstands, -⟩ := hreach.stands
    obtain ⟨t, after, m, rfl, hmove, hplace⟩ := step_ok hstands hstep
    have hless := (hstands.move (dispatch_rest hmove)).1
    rw [hplace] at hless
    rw [ih, Cursor.run, dif_pos (by simp [hstands.length]), EStateM.run_bind, hstep]
    simp only [if_pos hless]

end Reaches

end Cursor

end GridSketch
