import GridSketch.Proofs.Cursor.Reach

/-!
# The progress of a run

A run with a cursor, move by move. Every move takes the cursor on, though the expression that a name
stands in may begin before the name and may have been over there; a move that completes a statement
takes the window along, and the one that leaves an expression to a choice does not.

* `pointAfter?` is the point after so many moves; `reaches_iff` says that these are the points that
  the run comes to.
* `HandsOver` is a move from a name to the choice that is left its expression. Only such a move puts
  tokens that lead a statement into the window (`pointAfter?_passed`).
* `execute_progress` is all that together.
-/

namespace GridSketch.Cursor

/-! ## Moves -/

namespace Point

/-- The point after the move at a point, unless the move fails. -/
def next? (ts : List Token) (p : Point) : Option Point :=
  match (step ts p.index p.window).run p.session with
  | .ok (next, completed) s' => some ⟨next, if completed then next else p.window, s'⟩
  | .error _ _ => none

/-- The move at a point completes a statement, which has taken the tokens from the window up to
    `next`. -/
def Completes (ts : List Token) (p : Point) (next : Nat) : Prop :=
  ∃ s', (step ts p.index p.window).run p.session = .ok (next, true) s'

/-- No token in the window leads a statement. -/
def Passed (ts : List Token) (p : Point) : Prop :=
  ∀ t ∈ slice ts p.window p.index, t.kind.leads = false

end Point

/-- The move from `p` to `q` works an expression out at a name, with nothing that leads a statement
    before the name in the window, and leaves it to the choice at `q`. -/
structure HandsOver (ts : List Token) (p q : Point) : Prop where
  passed : p.Passed ts
  name : ∃ t, ts[p.index]? = some t ∧ t.kind = .identifier
  mark : ∃ t, ts[q.index]? = some t ∧ t.kind = .question
  move : (step ts p.index p.window).run p.session = .ok (q.index, false) q.session
  window : q.window = p.window
  session : q.session = p.session

/-- The point after so many moves of a run over all tokens, if the run makes so many. -/
def pointAfter? (ts : List Token) (s : Session) : Nat → Option Point
  | 0 => some ⟨0, 0, s⟩
  | n + 1 => (pointAfter? ts s n).bind (·.next? ts)

variable {ts us skipped rest : List Token} {s : Session} {p q : Point} {index window m n : Nat}

theorem Point.next?_eq_some : p.next? ts = some q ↔
    ∃ next completed s', (step ts p.index p.window).run p.session = .ok (next, completed) s' ∧
      q = ⟨next, if completed then next else p.window, s'⟩ := by
  rw [Point.next?]
  cases (step ts p.index p.window).run p.session with
  | error halt s' => simp
  | ok result s' =>
    obtain ⟨next, completed⟩ := result
    constructor
    · rintro ⟨⟩
      exact ⟨next, completed, s', rfl, rfl⟩
    · rintro ⟨_, _, _, ⟨⟩, rfl⟩
      rfl

theorem Point.next?_eq_none : p.next? ts = none ↔
    ∃ halt s', (step ts p.index p.window).run p.session = .error halt s' := by
  rw [Point.next?]
  cases (step ts p.index p.window).run p.session <;> simp

/-- **One point after another:** the points of a run are those after so many moves. -/
theorem reaches_iff : Reaches ts s p ↔ ∃ n, pointAfter? ts s n = some p := by
  constructor
  · intro h
    induction h with
    | first => exact ⟨0, rfl⟩
    | next _ hstep ih =>
      obtain ⟨n, hn⟩ := ih
      refine ⟨n + 1, ?_⟩
      rw [pointAfter?, hn]
      exact Point.next?_eq_some.2 ⟨_, _, _, hstep, rfl⟩
  · rintro ⟨n, hn⟩
    induction n generalizing p with
    | zero =>
      cases hn
      exact .first
    | succ n ih =>
      obtain ⟨q, hq, hnext⟩ := Option.bind_eq_some_iff.1 hn
      obtain ⟨_, _, _, hstep, rfl⟩ := Point.next?_eq_some.1 hnext
      exact (ih hq).next hstep

/-! ## What a move preserves -/

/-- A move that can be made takes the cursor on, and no further than the tokens go. The window ends
    up between where it began and the cursor; a completed statement is left behind it. -/
theorem Point.next?_onward (h : Stands ts p.index p.window skipped rest)
    (hnext : p.next? ts = some q) :
    p.index < q.index ∧ q.index ≤ ts.length ∧ p.window ≤ q.window ∧ q.window ≤ q.index ∧
      ∀ next, p.Completes ts next → next = q.window := by
  obtain ⟨next, completed, s', hstep, rfl⟩ := Point.next?_eq_some.1 hnext
  obtain ⟨t, after, m, rfl, hmove, hplace⟩ := step_ok h hstep
  obtain ⟨hless, hstands⟩ := h.move (dispatch_rest hmove)
  rw [hplace] at hless hstands
  dsimp only at hless hstands ⊢
  have hlength := hstands.length
  have hbegun := h.window_add
  have hended := hstands.window_add
  refine ⟨hless, by omega, ?_, by omega, fun stop hcompletes => ?_⟩
  · split <;> omega
  · obtain ⟨s₁, hcompletes⟩ := hcompletes
    rw [hstep] at hcompletes
    cases hcompletes
    rfl

/-- **What a move leaves in the window** leads no statement, unless the move was made at a name and
    leaves its expression to a choice. -/
theorem Point.next?_passed (h : Stands ts p.index p.window skipped rest)
    (hnext : p.next? ts = some q)
    (hwindow : p.Passed ts ∨ ∃ t, ts[p.index]? = some t ∧ t.kind = .question) :
    q.Passed ts ∨ HandsOver ts p q := by
  obtain ⟨next, completed, s', hstep, rfl⟩ := Point.next?_eq_some.1 hnext
  obtain ⟨t, after, m, rfl, hmove, hplace⟩ := step_ok h hstep
  have hstands := (h.move (dispatch_rest hmove)).2
  rw [hplace] at hstands
  have hhere : ts[p.index]? = some t := h.getElem? 0
  have hpassed : t.kind ≠ .question → p.Passed ts := fun hkind => by
    rcases hwindow with hpassed | ⟨_, hmark, hquestion⟩
    · exact hpassed
    · rw [hhere] at hmark
      cases hmark
      exact absurd hquestion hkind
  obtain rfl : m.completes = completed := congrArg Prod.snd hplace
  cases hm : m.completes with
  | true =>
    refine .inl fun u hu => ?_
    rw [if_pos rfl, slice, List.drop_eq_nil_of_le (List.length_take_le _ _)] at hu
    cases hu
  | false =>
    rw [hm] at hstep
    obtain ⟨rfl, honward⟩ := dispatch_onward hmove hm
    rcases honward with ⟨rfl, hleads⟩ | ⟨v, rest, rfl, hkind, -, -, hmark⟩
    · have hold : p.Passed ts := hpassed fun hkind => by
        rw [hkind] at hleads
        cases hleads
      refine .inl fun u hu => ?_
      rw [hm] at hstands
      rw [hstands.slice, Move.skipped, List.reverse_cons, List.mem_append, List.mem_singleton,
        ← h.slice] at hu
      rcases hu with hu | rfl
      · exact hold u hu
      · exact hleads
    · cases rest with
      | nil => cases hmark
      | cons mark tail =>
        exact .inr {
          passed := hpassed (by simp [hkind])
          name := ⟨t, hhere, hkind⟩
          mark := ⟨mark, hstands.getElem? 0, by simpa using hmark⟩
          move := hstep
          window := rfl
          session := rfl }

/-- **A move does not look at tokens before the window:** they may be any others, as long as there
    are as many. -/
theorem step_behind (h : Stands ts index window skipped rest) (hlength : us.length = ts.length)
    (hdrop : us.drop window = ts.drop window) : step us index window = step ts index window := by
  have hwindow := h.window_add
  have hindex := h.length
  have hus : Stands us index window skipped rest := by
    refine ⟨us.take window, ?_, ?_, ?_⟩
    · rw [← h.drop_window, ← hdrop, List.take_append_drop]
    all_goals
      rw [List.length_take]
      omega
  cases rest with
  | nil =>
    have hnone : ∀ vs : List Token, vs.length ≤ index →
        tokenAt vs index = .error (.gap (.noToken index)) := fun vs hle => by
      rw [tokenAt, List.getElem?_eq_none hle]
    rw [List.length_nil] at hindex
    rw [step, step, hnone us (by omega), hnone ts (by omega)]
    rfl
  | cons t after =>
    have hplace : place us after = place ts after := by
      funext m
      rw [place, place, restIndex, restIndex, hlength]
    rw [step_eq hus, step_eq h, hplace]

/-! ## What a run preserves -/

theorem pointAfter?_stands (h : pointAfter? ts s n = some p) :
    ∃ skipped rest, Stands ts p.index p.window skipped rest := by
  obtain ⟨skipped, rest, hstands, -⟩ := (reaches_iff.2 ⟨n, h⟩).stands
  exact ⟨skipped, rest, hstands⟩

theorem pointAfter?_le (h : pointAfter? ts s n = some p) : n ≤ p.index := by
  induction n generalizing p with
  | zero => exact Nat.zero_le _
  | succ n ih =>
    obtain ⟨q, hq, hnext⟩ := Option.bind_eq_some_iff.1 h
    obtain ⟨_, _, hstands⟩ := pointAfter?_stands hq
    exact Nat.lt_of_le_of_lt (ih hq) (Point.next?_onward hstands hnext).1

/-- **The invariant of the window:** no token in it leads a statement, unless the last move has just
    left the expression around a name to the choice at the cursor. -/
theorem pointAfter?_passed (h : pointAfter? ts s n = some p) :
    p.Passed ts ∨ ∃ m q, n = m + 1 ∧ pointAfter? ts s m = some q ∧ HandsOver ts q p := by
  induction n generalizing p with
  | zero =>
    cases h
    exact .inl fun t ht => by cases ht
  | succ n ih =>
    obtain ⟨q, hq, hnext⟩ := Option.bind_eq_some_iff.1 h
    obtain ⟨_, _, hstands⟩ := pointAfter?_stands hq
    have hwindow : q.Passed ts ∨ ∃ t, ts[q.index]? = some t ∧ t.kind = .question := by
      rcases ih hq with hpassed | ⟨_, _, -, -, hhanded⟩
      · exact .inl hpassed
      · exact .inr hhanded.mark
    rcases Point.next?_passed hstands hnext hwindow with hpassed | hhanded
    · exact .inl hpassed
    · exact .inr ⟨n, q, rfl, hq, hhanded⟩

theorem pointAfter?_window_le (hmn : m ≤ n) (hp : pointAfter? ts s m = some p)
    (hq : pointAfter? ts s n = some q) : p.window ≤ q.window := by
  induction hmn generalizing q with
  | refl =>
    rw [hp] at hq
    cases hq
    exact Nat.le_refl _
  | step _ ih =>
    obtain ⟨r, hr, hnext⟩ := Option.bind_eq_some_iff.1 hq
    obtain ⟨_, _, hstands⟩ := pointAfter?_stands hr
    exact Nat.le_trans (ih hr) (Point.next?_onward hstands hnext).2.2.1

theorem completes_behind {next : Nat} (hmn : m < n) (hp : pointAfter? ts s m = some p)
    (hcompletes : p.Completes ts next) (hq : pointAfter? ts s n = some q) : next ≤ q.window := by
  obtain ⟨s', hstep⟩ := hcompletes
  obtain ⟨_, _, hstands⟩ := pointAfter?_stands hp
  have hnext : p.next? ts = some ⟨next, next, s'⟩ :=
    Point.next?_eq_some.2 ⟨next, true, s', hstep, rfl⟩
  have hafter : pointAfter? ts s (m + 1) = some ⟨next, next, s'⟩ := by
    rw [pointAfter?, hp]
    exact hnext
  exact pointAfter?_window_le hmn hafter hq

theorem exists_last (ts : List Token) (s : Session) :
    ∃ n p, pointAfter? ts s n = some p ∧ p.next? ts = none := by
  refine Classical.byContradiction fun hall => ?_
  have hmore : ∀ n, ∃ p, pointAfter? ts s n = some p := fun n => by
    induction n with
    | zero => exact ⟨_, rfl⟩
    | succ n ih =>
      obtain ⟨p, hp⟩ := ih
      obtain ⟨q, hq⟩ := Option.ne_none_iff_exists'.1 fun hnone => hall ⟨n, p, hp, hnone⟩
      exact ⟨q, by rw [pointAfter?, hp]; exact hq⟩
  obtain ⟨p, hp⟩ := hmore (ts.length + 1)
  obtain ⟨_, _, hstands⟩ := pointAfter?_stands hp
  have hlength := hstands.length
  have hle := pointAfter?_le hp
  omega

theorem execute_last (hp : pointAfter? ts s n = some p) (hlast : p.next? ts = none) :
    (p.index = ts.length ∧ (GridSketch.execute ts).run s = .ok () p.session) ∨
      p.index < ts.length ∧ ∃ fault s', (GridSketch.execute ts).run s = .error fault s' ∧
        (step ts p.index p.window).run p.session = .error (.fault fault) s' := by
  obtain ⟨_, _, hstands⟩ := pointAfter?_stands hp
  have hlength := hstands.length
  have hrun := (reaches_iff.2 ⟨n, hp⟩).run
  rw [execute_eq, act_run, Cursor.run] at hrun
  by_cases hlt : p.index < ts.length
  · obtain ⟨halt, s', hstep⟩ := Point.next?_eq_none.1 hlast
    rw [dif_pos hlt, EStateM.run_bind, hstep] at hrun
    refine .inr ⟨hlt, ?_⟩
    cases hexec : (GridSketch.execute ts).run s with
    | ok _ _ =>
      rw [hexec] at hrun
      cases hrun
    | error fault _ =>
      rw [hexec] at hrun
      cases hrun
      exact ⟨fault, _, rfl, hstep⟩
  · rw [dif_neg hlt] at hrun
    refine .inl ⟨by omega, ?_⟩
    cases hexec : (GridSketch.execute ts).run s with
    | ok _ _ =>
      rw [hexec] at hrun
      cases hrun
      rfl
    | error _ _ =>
      rw [hexec] at hrun
      cases hrun

/-- **A run makes progress, and never looks back past a completed statement.** After every number of
    moves the cursor stands at or after the beginning of the window, within the tokens, and has gone
    on by at least one token a move. What lies in the window leads no statement, unless the last
    move has just left the expression around a name to the choice at the cursor. A move from there
    goes on, within the tokens, and does not depend on what stands before the window, which is
    where everything lies that a completed statement has taken. The run ends after the last token,
    or at the first move that fails, with at most as many moves as there are tokens. -/
theorem execute_progress (ts : List Token) (s : Session) :
    (∀ n p, pointAfter? ts s n = some p →
      (n ≤ p.index ∧ p.window ≤ p.index ∧ p.index ≤ ts.length) ∧
      (p.Passed ts ∨ ∃ m q, n = m + 1 ∧ pointAfter? ts s m = some q ∧ HandsOver ts q p) ∧
      (∀ q, p.next? ts = some q → p.index < q.index ∧ q.index ≤ ts.length) ∧
      ∀ us, us.length = ts.length → us.drop p.window = ts.drop p.window →
        step us p.index p.window = step ts p.index p.window) ∧
    (∀ m n p q next, m < n → pointAfter? ts s m = some p → p.Completes ts next →
      pointAfter? ts s n = some q → next ≤ q.window) ∧
    match (GridSketch.execute ts).run s with
    | .ok _ s' => ∃ n w, n ≤ ts.length ∧ pointAfter? ts s n = some ⟨ts.length, w, s'⟩
    | .error fault s' => ∃ n p, n < ts.length ∧ pointAfter? ts s n = some p ∧
        p.index < ts.length ∧
        (step ts p.index p.window).run p.session = .error (.fault fault) s' := by
  refine ⟨fun n p hp => ?_, fun _ _ _ _ _ hmn hp hc hq => completes_behind hmn hp hc hq, ?_⟩
  · obtain ⟨_, _, hstands⟩ := pointAfter?_stands hp
    have hlength := hstands.length
    have hwindow := hstands.window_add
    refine ⟨⟨pointAfter?_le hp, by omega, by omega⟩, pointAfter?_passed hp, fun q hq => ?_,
      fun us hus hdrop => step_behind hstands hus hdrop⟩
    obtain ⟨hless, hle, -⟩ := Point.next?_onward hstands hq
    exact ⟨hless, hle⟩
  · obtain ⟨n, p, hp, hlast⟩ := exists_last ts s
    have hle := pointAfter?_le hp
    rcases execute_last hp hlast with ⟨hend, hexec⟩ | ⟨hlt, fault, s', hexec, hstep⟩
    · rw [hexec]
      exact ⟨n, p.window, by omega, by rw [hp, ← hend]⟩
    · rw [hexec]
      exact ⟨n, p, by omega, hp, hlt, hstep⟩

end GridSketch.Cursor
