import GridSketch.Proofs.Expression.Extent
import GridSketch.Proofs.Script.Scan

/-!
# Cutting a script in two

A script may be fed in pieces. What a piece does is not changed by the pieces after it, as long as
the next one does not begin with a token that joins the last statement.

* `Cut`: where a script may be cut; `execute_append`: a script that is cut there runs piece by
  piece.
-/

namespace GridSketch

open GridSketch.Action

variable {s s' : Session} {t : Token} {skipped after rest more : List Token}

/-! ## Statements with more tokens after them -/

namespace Statement

theorem draw_append (h : (draw t after).run s = .ok rest s') (more : List Token) :
    (draw t (after ++ more)).run s = .ok (rest ++ more) s' := by
  unfold draw at h ⊢
  split at h
  · cases h
  · next k _ =>
    simp only at h
    split at h
    · cases h
    · next hlen =>
      have hk : k.arity ≤ after.length := by
        rw [List.length_take] at hlen
        omega
      have htake : (after ++ more).take k.arity = after.take k.arity :=
        List.take_append_of_le_length hk
      have hdrop : (after ++ more).drop k.arity = after.drop k.arity ++ more :=
        List.drop_append_of_le_length hk
      simp only [htake, hdrop, if_neg hlen]
      obtain ⟨numbers, s₁, hnumbers, h⟩ := run_bind_ok.1 h
      refine run_bind_ok.2 ⟨numbers, s₁, hnumbers, ?_⟩
      split at h
      · cases h
      · cases h
        rfl

theorem color_append (h : (color t after).run s = .ok rest s') (more : List Token) :
    (color t (after ++ more)).run s = .ok (rest ++ more) s' := by
  unfold color at h ⊢
  split at h
  · cases h
  · next name _ =>
    split at h
    · next hname =>
      cases h
      simp only [List.cons_append, if_pos hname]
      rfl
    · cases h

theorem clear_append (h : (clear after).run s = .ok rest s') (more : List Token) :
    (clear (after ++ more)).run s = .ok (rest ++ more) s' := by
  cases h
  rfl

theorem loop_append (h : (loop t after).run s = .ok rest s') (more : List Token) :
    (loop t (after ++ more)).run s = .ok (rest ++ more) s' := by
  unfold loop at h ⊢
  split at h
  · next count message tail =>
    simp only [List.cons_append]
    split at h
    · next hcount =>
      rw [if_pos hcount]
      split at h
      · next hmessage =>
        rw [if_pos hmessage]
        split at h
        · obtain ⟨_, s₁, hsaid, h⟩ := run_bind_ok.1 h
          cases h
          exact run_bind_ok.2 ⟨_, _, hsaid, rfl⟩
        · cases h
      · cases h
    · cases h
  · cases h

theorem choice_append (h : (choice skipped t after).run s = .ok rest s') (more : List Token) :
    (choice skipped t (after ++ more)).run s = .ok (rest ++ more) s' := by
  unfold choice at h ⊢
  split at h
  · cases h
  · next hskipped =>
    rw [if_neg hskipped]
    split at h
    · next yes separator no tail =>
      simp only [List.cons_append]
      split at h
      · next hcolon =>
        rw [if_pos hcolon]
        obtain ⟨⟨v, stray⟩, s₁, hcondition, h⟩ := run_bind_ok.1 h
        refine run_bind_ok.2 ⟨_, _, hcondition, ?_⟩
        cases stray with
        | cons _ _ => cases h
        | nil =>
          obtain ⟨w, s₂, hvalue, h⟩ := run_bind_ok.1 h
          cases h
          exact run_bind_ok.2 ⟨_, _, hvalue, rfl⟩
      · cases h
    · cases h

theorem assign_append (h : (assign t after).run s = .ok rest s') (hstop : Expression.Stops more) :
    (assign t (after ++ more)).run s = .ok (rest ++ more) s' := by
  obtain ⟨⟨v, tail⟩, s₁, hvalue, h⟩ := run_bind_ok.1 h
  cases h
  obtain ⟨heval, hsame⟩ := run_consult_ok.1 hvalue
  exact run_bind_ok.2 ⟨(v, rest ++ more), s₁,
    run_consult_ok.2 ⟨Expression.evaluate_append heval hstop, hsame⟩, rfl⟩

theorem binding_append (h : (binding t after).run s = .ok rest s')
    (hstop : Expression.Stops more) :
    (binding t (after ++ more)).run s = .ok (rest ++ more) s' := by
  unfold binding at h ⊢
  split at h
  · cases h
  · next name tail =>
    simp only [List.cons_append]
    split at h
    · next hname =>
      rw [if_pos hname]
      split at h
      · cases h
      · next sign tail =>
        simp only [List.cons_append]
        split at h
        · next hsign =>
          rw [if_pos hsign]
          exact assign_append h hstop
        · cases h
    · cases h

theorem around_append {name : Token} {vars : Variables} {v : Value}
    (h : around skipped name after vars = .ok (v, rest)) (hstop : Expression.Stops more) :
    around skipped name (after ++ more) vars = .ok (v, rest ++ more) := by
  simp only [around, bind, Except.bind] at h ⊢
  split at h
  · cases h
  · next first heval =>
    obtain ⟨w, tail⟩ := first
    have hmore := Expression.evaluate_append heval hstop
    rw [List.append_assoc, List.cons_append] at hmore
    simp only [hmore, List.length_append, List.length_cons] at h ⊢
    split at h
    · rw [if_pos (by omega)]
      exact Expression.evaluate_append h hstop
    · rw [if_neg (by omega)]
      cases h
      rfl

end Statement

/-! ## Moves with more tokens after them -/

/-- A move that leaves more tokens. -/
def Move.append (more : List Token) : Move → Move
  | pass => .pass
  | complete rest => .complete (rest ++ more)
  | handOver rest => .handOver (rest ++ more)

@[simp] theorem Move.rest_append (m : Move) (after more : List Token) :
    (m.append more).rest (after ++ more) = m.rest after ++ more := by
  cases m <;> rfl

theorem Move.skipped_append (m : Move) (skipped : List Token) (t : Token) (after more : List Token)
    (h : (m.rest after).length ≤ after.length) :
    (m.append more).skipped skipped t (after ++ more) = m.skipped skipped t after := by
  cases m with
  | pass => rfl
  | complete rest => rfl
  | handOver rest =>
    have hle : (t :: after).length - rest.length ≤ (t :: after).length := Nat.sub_le ..
    have hlen : (t :: (after ++ more)).length - (rest ++ more).length =
        (t :: after).length - rest.length := by
      simp only [List.length_cons, List.length_append]
      omega
    simp only [Move.append, Move.skipped, hlen]
    rw [← List.cons_append, List.take_append_of_le_length hle]

theorem complete_append {a b : Action (List Token)} {m : Move}
    (h : (Move.complete <$> a).run s = .ok m s')
    (hmore : ∀ rest, a.run s = .ok rest s' → b.run s = .ok (rest ++ more) s') :
    (Move.complete <$> b).run s = .ok (m.append more) s' := by
  obtain ⟨rest, hrest, rfl⟩ := run_map_ok.1 h
  exact run_map_ok.2 ⟨_, hmore rest hrest, rfl⟩

theorem dispatchName_append {m : Move} (h : (dispatchName skipped t after).run s = .ok m s')
    (hmore : Apart more) :
    (dispatchName skipped t (after ++ more)).run s = .ok (m.append more) s' := by
  have hhead : ∀ ts : List Token, ∀ kind, more.head?.any (·.kind = kind) = false →
      (ts ++ more).head?.any (·.kind = kind) = ts.head?.any (·.kind = kind) := by
    intro ts kind hkind
    cases ts with
    | nil => exact hkind
    | cons u ts => rfl
  unfold dispatchName at h ⊢
  rw [hhead after .assign (hmore.not_kind (.inl rfl))]
  split at h
  · next hsign =>
    rw [if_pos hsign]
    cases after with
    | nil => cases hsign
    | cons sign after =>
      exact complete_append h fun _ hrest => Statement.assign_append hrest hmore.stops
  · next hsign =>
    rw [if_neg hsign]
    obtain ⟨⟨v, tail⟩, s₁, hvalue, h⟩ := run_bind_ok.1 h
    obtain ⟨heval, hsame⟩ := run_consult_ok.1 hvalue
    refine run_bind_ok.2 ⟨(v, tail ++ more), s₁,
      run_consult_ok.2 ⟨Statement.around_append heval hmore.stops, hsame⟩, ?_⟩
    simp only [hhead tail .question (hmore.not_kind (.inr rfl))] at h ⊢
    split at h
    · next hmark =>
      cases h
      simp only [if_pos hmark]
      rfl
    · next hmark =>
      cases h
      simp only [if_neg hmark]
      rfl

/-- **A move that ends well** is the same with more tokens after it, and leaves those too. -/
theorem dispatch_append {m : Move} (h : (dispatch skipped t after).run s = .ok m s')
    (hmore : Apart more) :
    (dispatch skipped t (after ++ more)).run s = .ok (m.append more) s' := by
  unfold dispatch at h ⊢
  split at h
  iterate 3 exact complete_append h fun _ hrest => Statement.draw_append hrest more
  · exact complete_append h fun _ hrest => Statement.color_append hrest more
  · exact complete_append h fun _ hrest => Statement.clear_append hrest more
  · exact complete_append h fun _ hrest => Statement.binding_append hrest hmore.stops
  · exact complete_append h fun _ hrest => Statement.loop_append hrest more
  · exact dispatchName_append h hmore
  · exact complete_append h fun _ hrest => Statement.choice_append hrest more
  · obtain ⟨rfl, rfl⟩ := run_pure_ok.1 h
    rfl

/-! ## Runs with more tokens after them -/

/-- **A run that ends well goes on** with the tokens after it and with what it has skipped. -/
theorem executeFrom_append {ts last : List Token}
    (h : (executeFrom skipped ts).run s = .ok last s') (hmore : Apart more) :
    (executeFrom skipped (ts ++ more)).run s = (executeFrom last more).run s' := by
  induction skipped, ts, s using run_induction with
  | nil skipped s =>
    rw [executeFrom_nil] at h
    obtain ⟨rfl, rfl⟩ := run_pure_ok.1 h
    rfl
  | cons skipped t after s ih =>
    rw [executeFrom_cons] at h
    obtain ⟨m, s₁, hmove, h⟩ := run_bind_ok.1 h
    rw [List.cons_append, executeFrom_cons, EStateM.run_bind, dispatch_append hmove hmore]
    simp only [Move.rest_append,
      Move.skipped_append m skipped t after more (dispatch_rest_le hmove)]
    exact ih m s₁ hmove h

theorem executeFrom_keyword {k : Keyword} (hk : t.kind = .keyword k) (skipped after : List Token) :
    executeFrom skipped (t :: after) = executeFrom [] (t :: after) := by
  rw [executeFrom_cons, executeFrom_cons]
  cases k <;> simp [dispatch, hk, Move.skipped, Move.rest]

/-- Where a script may be cut, given what has been skipped before the cut and the tokens after it:
    before a keyword, or right after a statement if the next token does not join it. -/
def Cut (skipped more : List Token) : Prop :=
  (∀ t ∈ more.head?, ∃ k, t.kind = .keyword k) ∨ skipped = [] ∧ Apart more

theorem Cut.apart (h : Cut skipped more) : Apart more := by
  rcases h with hkeyword | ⟨-, hmore⟩
  · intro t ht
    obtain ⟨k, hk⟩ := hkeyword t ht
    simp [Token.joins, Token.extends, Token.signSplit?, hk]
  · exact hmore

/-- **A script that is cut runs piece by piece.** If the first piece ends well, running both in one
    go does what running one after the other does, fault of the second piece included. -/
theorem execute_append {ts last : List Token} (h : (executeFrom [] ts).run s = .ok last s')
    (hcut : Cut last more) :
    (execute (ts ++ more)).run s = (do execute ts; execute more : Action Unit).run s := by
  have hmore : (do let _ ← executeFrom last more : Action Unit) = execute more := by
    rcases hcut with hkeyword | ⟨rfl, -⟩
    · cases more with
      | nil => simp [execute]
      | cons t more =>
        obtain ⟨k, hk⟩ := hkeyword t rfl
        rw [executeFrom_keyword hk, execute]
    · rfl
  have hfirst : (execute ts).run s = .ok () s' := run_bind_ok.2 ⟨last, s', h, rfl⟩
  calc (execute (ts ++ more)).run s
      = (do let _ ← executeFrom last more : Action Unit).run s' := by
        rw [execute, EStateM.run_bind, executeFrom_append h hcut.apart, ← EStateM.run_bind]
    _ = (execute more).run s' := by rw [hmore]
    _ = (do execute ts; execute more : Action Unit).run s := by
        rw [EStateM.run_bind, hfirst]

/-- After `clear "note"`, which leaves the text over, a script may be cut before `color "red"`. -/
theorem execute_append_clear_color :
    let note : Token := ⟨.string, "note", {}⟩
    let first : List Token := [⟨.keyword .clear, "clear", {}⟩, note]
    let second : List Token := [⟨.keyword .color, "color", {}⟩, ⟨.string, "red", {}⟩]
    (executeFrom [] first).run {} = .ok [note] (Session.say {} (sayPrefix ++ "Canvas cleared.")) ∧
      Cut [note] second ∧
      (execute (first ++ second)).run {} =
        (do execute first; execute second : Action Unit).run {} := by
  intro note first second
  have h : (executeFrom [] first).run {} =
      .ok [note] (Session.say {} (sayPrefix ++ "Canvas cleared.")) := by
    rw [executeFrom_cons]
    refine run_bind_ok.2 ⟨.complete [note], _, rfl, ?_⟩
    show (executeFrom [] [note]).run _ = _
    rw [executeFrom_cons]
    exact run_bind_ok.2 ⟨.pass, _, rfl, by rw [Move.rest, executeFrom_nil]; rfl⟩
  have hcut : Cut [note] second := by
    refine Or.inl fun t ht => ⟨.color, ?_⟩
    cases ht
    rfl
  exact ⟨h, hcut, execute_append h hcut⟩

end GridSketch
