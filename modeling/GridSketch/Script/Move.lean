import GridSketch.Script.Statement

/-!
# Moves

A script is read from the left, and a move is made at each token that is reached: a token that leads
a statement runs it, every other token is passed over. The tokens passed over since the last
completed statement are remembered, because an expression or a choice may reach back to them.

* `dispatch` is the move at a token.
* `dispatch_rest` says that every move takes a token and leaves the end of what followed it, which
  is why a run ends.
-/

namespace GridSketch

/-- A move of the run at one token. -/
inductive Move where
  /-- The token leads no statement. -/
  | pass
  /-- A statement is completed; `rest` are the tokens after it. -/
  | complete (rest : List Token)
  /-- An expression ends before `?` and is its condition. -/
  | handOver (rest : List Token)
  deriving DecidableEq, Repr

/-- A name: an assignment if the sign follows, else an expression, which is said unless a choice
    takes it over. -/
def dispatchName (skipped : List Token) (name : Token) (after : List Token) : Action Move :=
  if after.head?.any (·.kind = .assign) then .complete <$> Statement.assign name after.tail
  else do
    let (v, rest) ← Action.consult (Statement.around skipped name after)
    if rest.head?.any (·.kind = .question) then return .handOver rest
    else
      Action.say v.display
      return .complete rest

/-- The move at a token. The tokens skipped last come first. -/
def dispatch (skipped : List Token) (t : Token) (after : List Token) : Action Move :=
  match t.kind with
  | .keyword .circle | .keyword .rectangle | .keyword .line =>
    .complete <$> Statement.draw t after
  | .keyword .color => .complete <$> Statement.color t after
  | .keyword .clear => .complete <$> Statement.clear after
  | .keyword .let_ => .complete <$> Statement.binding t after
  | .keyword .stik => .complete <$> Statement.loop t after
  | .identifier => dispatchName skipped t after
  | .question => .complete <$> Statement.choice skipped t after
  | _ => return .pass

/-! ## Every move takes a token -/

/-- The tokens after a move, given those after the token it was made at. -/
def Move.rest (after : List Token) : Move → List Token
  | pass => after
  | complete rest => rest
  | handOver rest => rest

section
variable {s s' : Session} {t : Token} {skipped after rest : List Token}

theorem Statement.draw_ok (h : (Statement.draw t after).run s = .ok rest s') :
    ∃ k, Keyword.ofWord? t.text = some k ∧ k.arity ≤ after.length ∧ rest = after.drop k.arity := by
  unfold Statement.draw at h
  split at h
  · cases h
  · next k hk =>
    simp only at h
    split at h
    · cases h
    · next hcount =>
      obtain ⟨numbers, s₁, -, h⟩ := Action.run_bind_ok.1 h
      split at h
      · cases h
      · obtain ⟨-, s₂, -, h⟩ := Action.run_bind_ok.1 h
        obtain ⟨-, s₃, -, h⟩ := Action.run_bind_ok.1 h
        obtain ⟨rfl, -⟩ := Action.run_pure_ok.1 h
        rw [List.length_take] at hcount
        exact ⟨k, hk, by omega, rfl⟩

theorem Statement.draw_rest (h : (Statement.draw t after).run s = .ok rest s') :
    rest <:+ after := by
  obtain ⟨k, -, -, rfl⟩ := Statement.draw_ok h
  exact List.drop_suffix _ _

theorem Statement.color_rest (h : (Statement.color t after).run s = .ok rest s') :
    rest <:+ after := by
  unfold Statement.color at h
  split at h
  · cases h
  · split at h
    · cases h
      exact List.suffix_cons _ _
    · cases h

theorem Statement.clear_rest (h : (Statement.clear after).run s = .ok rest s') :
    rest <:+ after := by
  cases h
  exact List.suffix_rfl

theorem Statement.assign_rest (h : (Statement.assign t after).run s = .ok rest s') :
    rest <:+ after := by
  obtain ⟨⟨v, r⟩, s₁, hev, h⟩ := Action.run_bind_ok.1 h
  cases h
  exact Expression.evaluate_suffix (Action.run_consult_ok.1 hev).1

theorem Statement.binding_rest (h : (Statement.binding t after).run s = .ok rest s') :
    rest <:+ after := by
  unfold Statement.binding at h
  split at h
  · cases h
  · next name after =>
    split at h
    · split at h
      · cases h
      · next sign after =>
        split at h
        · exact (Statement.assign_rest h).trans (List.suffix_append [name, sign] after)
        · cases h
    · cases h

theorem Statement.loop_rest (h : (Statement.loop t after).run s = .ok rest s') :
    rest <:+ after := by
  unfold Statement.loop at h
  split at h
  · next count message _ =>
    split at h
    · split at h
      · split at h
        · obtain ⟨-, s₁, -, h⟩ := Action.run_bind_ok.1 h
          obtain ⟨rfl, -⟩ := Action.run_pure_ok.1 h
          exact List.suffix_append [count, message] _
        · cases h
      · cases h
    · cases h
  · cases h

theorem Statement.choice_rest (h : (Statement.choice skipped t after).run s = .ok rest s') :
    rest <:+ after := by
  unfold Statement.choice at h
  split at h
  · cases h
  · split at h
    · next yes separator no _ =>
      split at h
      · obtain ⟨⟨v, stray⟩, s₁, -, h⟩ := Action.run_bind_ok.1 h
        cases stray with
        | cons _ _ => cases h
        | nil =>
          obtain ⟨w, s₂, -, h⟩ := Action.run_bind_ok.1 h
          cases h
          exact List.suffix_append [yes, separator, no] _
      · cases h
    · cases h

theorem Statement.around_rest {name : Token} {vars : Variables} {v : Value}
    (h : Statement.around skipped name after vars = .ok (v, rest)) : rest <:+ after := by
  have htail : ∀ ts, rest <:+ ts ++ name :: after → rest.length < (name :: after).length →
      rest <:+ after := fun _ hsuffix hlt =>
    List.suffix_of_suffix_length_le hsuffix
      ((List.suffix_cons name after).trans (List.suffix_append _ _)) (Nat.le_of_lt_succ hlt)
  simp only [Statement.around, bind, Except.bind] at h
  split at h
  · cases h
  · next first hfirst =>
    obtain ⟨w, tail⟩ := first
    split at h
    · exact htail [] (Expression.evaluate_suffix h) (Expression.evaluate_length_lt h)
    · next hlt =>
      cases h
      exact htail _ (Expression.evaluate_suffix hfirst) (Nat.lt_of_not_le hlt)

theorem rest_of_map_complete {a : Action (List Token)} {m : Move}
    (h : (Move.complete <$> a).run s = .ok m s')
    (hr : ∀ rest, a.run s = .ok rest s' → rest <:+ after) : m.rest after <:+ after := by
  obtain ⟨rest, hrest, rfl⟩ := Action.run_map_ok.1 h
  exact hr rest hrest

theorem dispatchName_rest {m : Move} (h : (dispatchName skipped t after).run s = .ok m s') :
    m.rest after <:+ after := by
  unfold dispatchName at h
  split at h
  · exact rest_of_map_complete h fun _ hr =>
      (Statement.assign_rest hr).trans (List.tail_suffix after)
  · obtain ⟨⟨v, rest⟩, s₁, hev, h⟩ := Action.run_bind_ok.1 h
    have hrest := Statement.around_rest (Action.run_consult_ok.1 hev).1
    simp only at h
    split at h
    all_goals
      cases h
      exact hrest

/-- **Every move takes a token:** what it leaves is the end of what followed its token. -/
theorem dispatch_rest {m : Move} (h : (dispatch skipped t after).run s = .ok m s') :
    m.rest after <:+ after := by
  unfold dispatch at h
  split at h
  iterate 3 exact rest_of_map_complete h fun _ => Statement.draw_rest
  · exact rest_of_map_complete h fun _ => Statement.color_rest
  · exact rest_of_map_complete h fun _ => Statement.clear_rest
  · exact rest_of_map_complete h fun _ => Statement.binding_rest
  · exact rest_of_map_complete h fun _ => Statement.loop_rest
  · exact dispatchName_rest h
  · exact rest_of_map_complete h fun _ => Statement.choice_rest
  · obtain ⟨rfl, -⟩ := Action.run_pure_ok.1 h
    exact List.suffix_rfl

theorem dispatch_rest_le {m : Move} (h : (dispatch skipped t after).run s = .ok m s') :
    (m.rest after).length ≤ after.length :=
  (dispatch_rest h).length_le

end

end GridSketch
