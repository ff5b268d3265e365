import GridSketch.Proofs.Cursor.Statements
import GridSketch.Proofs.Script.Effect
import GridSketch.Proofs.Script.Scan

/-!
# A run with a cursor

Wherever the cursor stands, the statement there finds every token it looks up and leaves the cursor
behind the tokens it has taken.

* `Stands` is the invariant: where the cursor and the window stand among the tokens.
* `Cursor.execute_eq`: so a run with the cursor comes out as `execute` does, and has no gap.
-/

namespace GridSketch.Cursor

/-- The cursor stands before `rest`, and the window begins before the tokens skipped last, which
    come first in `skipped`. -/
def Stands (ts : List Token) (index window : Nat) (skipped rest : List Token) : Prop :=
  ∃ done, ts = done ++ (skipped.reverse ++ rest) ∧ window = done.length ∧
    index = done.length + skipped.length

/-- The index at which the rest of some tokens begins. -/
def restIndex (ts rest : List Token) : Nat := ts.length - rest.length

theorem stands_first (ts : List Token) : Stands ts 0 0 [] ts := ⟨[], rfl, rfl, rfl⟩

namespace Stands

variable {ts skipped rest : List Token} {index window : Nat}
  (h : Stands ts index window skipped rest)
include h

theorem length : ts.length = index + rest.length := by
  obtain ⟨done, rfl, rfl, rfl⟩ := h
  simp
  omega

theorem drop : ts.drop index = rest := by
  obtain ⟨done, rfl, rfl, rfl⟩ := h
  rw [← List.append_assoc, List.drop_left' (by simp)]

theorem drop_window : ts.drop window = skipped.reverse ++ rest := by
  obtain ⟨done, rfl, rfl, rfl⟩ := h
  exact List.drop_left

theorem window_add : window + skipped.length = index := by
  obtain ⟨done, rfl, rfl, rfl⟩ := h
  rfl

theorem slice : Cursor.slice ts window index = skipped.reverse := by
  obtain ⟨done, rfl, rfl, rfl⟩ := h
  rw [Cursor.slice, ← List.append_assoc, List.take_left' (by simp), List.drop_left]

theorem forall_mem {P : Token → Prop} (hts : ∀ t ∈ ts, P t) :
    (∀ t ∈ skipped, P t) ∧ ∀ t ∈ rest, P t := by
  obtain ⟨done, rfl, -⟩ := h
  exact ⟨fun t ht => hts t (by simp [ht]), fun t ht => hts t (by simp [ht])⟩

theorem getElem? (ahead : Nat) : ts[index + ahead]? = rest[ahead]? := by
  rw [← h.drop, List.getElem?_drop]

theorem tokenAt?_ahead (ahead : Nat) : tokenAt? ts (index + ahead) = .ok rest[ahead]? := by
  unfold tokenAt? tokenAt
  rw [h.getElem?, h.length]
  split
  · next hlt =>
    rw [List.getElem?_eq_getElem (by omega)]
    rfl
  · next hle => rw [List.getElem?_eq_none (by omega)]

theorem tokenAt_ahead (ahead : Nat) {t : Token} (ht : rest[ahead]? = some t) :
    tokenAt ts (index + ahead) = .ok t :=
  tokenAt_of_getElem? (by rw [h.getElem?, ht])

end Stands

/-! ## Statements -/

theorem act_const {ts : List Token} {a : Action (List Token)} {next : Nat}
    (h : ∀ {s rest s'}, a.run s = .ok rest s' → restIndex ts rest = next) :
    (act a >>= fun _ => pure next) = restIndex ts <$> act a := by
  rw [← bind_pure_comp]
  exact act_bind_congr fun hrun => by rw [h hrun]

section
variable {ts skipped after : List Token} {t : Token} {index window : Nat}
  (h : Stands ts index window skipped (t :: after))
include h

theorem look_here : look (tokenAt ts index) = pure t := by
  have := h.tokenAt_ahead 0 rfl
  rw [Nat.add_zero] at this
  rw [this, look_ok]

theorem look_ahead? (ahead : Nat) :
    look (tokenAt? ts (index + 1 + ahead)) = pure after[ahead]? := by
  rw [Nat.add_assoc, Nat.add_comm 1, h.tokenAt?_ahead, look_ok, List.getElem?_cons_succ]

omit h in
theorem act_keep {α : Type} (a : Action α) {rest : List Token} {next : Nat}
    (hnext : restIndex ts rest = next) :
    (act a >>= fun _ => pure next) = restIndex ts <$> act ((fun _ => rest) <$> a) := by
  rw [act_map, Functor.map_map, ← bind_pure_comp, hnext]

theorem restIndex_taken (taken : List Token) {rest : List Token} (htaken : after = taken ++ rest) :
    restIndex ts rest = index + 1 + taken.length := by
  have hlength := h.length
  rw [htaken, List.length_cons, List.length_append] at hlength
  rw [restIndex]
  omega

theorem draw_eq : draw ts index = restIndex ts <$> act (Statement.draw t after) := by
  rw [draw, look_here h, pure_bind]
  split
  · next hword =>
    rw [Statement.draw, hword]
    rfl
  · next k hword =>
    have hdrop : ts.drop (index + 1) = after := by
      rw [← List.tail_drop, h.drop, List.tail_cons]
    rw [hdrop]
    refine act_const fun {s rest s'} hrun => ?_
    obtain ⟨k', hk', harity, rfl⟩ := Statement.draw_ok hrun
    obtain rfl : k = k' := Option.some.inj (hword.symm.trans hk')
    rw [restIndex_taken h _ (List.take_append_drop k.arity after).symm, List.length_take,
      Nat.min_eq_left harity]

theorem color_eq : color ts index = restIndex ts <$> act (Statement.color t after) := by
  rw [color, look_here h, pure_bind, look_ahead? h 0, pure_bind]
  cases after with
  | nil => rfl
  | cons u rest =>
    have htakes : Statement.color t (u :: rest) = (fun _ => rest) <$> Statement.color t [u] := by
      by_cases hu : u.kind = .string
      · simp [Statement.color, hu]
      · simp only [Statement.color, hu, if_false]
        rfl
    rw [htakes]
    exact act_keep _ (restIndex_taken h [u] rfl)

theorem clear_eq : clear index = restIndex ts <$> act (Statement.clear after) := by
  exact act_keep _ (restIndex_taken h [] rfl)

theorem loop_eq : loop ts index = restIndex ts <$> act (Statement.loop t after) := by
  rw [loop, look_here h, pure_bind, h.length]
  match after with
  | [] =>
    rw [if_pos (by simp)]
    rfl
  | [_] =>
    rw [if_pos (by simp)]
    rfl
  | count :: message :: rest =>
    have hlong : ¬ index + (t :: count :: message :: rest).length ≤ index + 2 := by simp
    have htakes : Statement.loop t (count :: message :: rest) =
        (fun _ => rest) <$> Statement.loop t [count, message] := by
      simp only [Statement.loop]
      split
      · split
        · split
          · simp
          · rfl
        · rfl
      · rfl
    rw [if_neg hlong, h.tokenAt_ahead 1 rfl, h.tokenAt_ahead 2 rfl, htakes]
    exact act_keep _ (restIndex_taken h [count, message] rfl)

end

/-! ## Statements with an expression -/

theorem consult_evaluate {ts us : List Token} {start : Nat} (hdrop : ts.drop start = us)
    (hstart : start ≤ ts.length) {α : Type} (f : Value → Nat → CursorAction α) :
    (consult (evaluate · ts start) >>= fun r => f r.1 (start + r.2)) =
      act (Action.consult (Expression.evaluate · us)) >>= fun r => f r.1 (restIndex ts r.2) := by
  rw [consult_eq fun vars => evaluate_eq vars ts start, hdrop, bind_map_left]
  refine act_bind_congr fun hrun => ?_
  have hle := (Expression.evaluate_suffix (Action.run_consult_ok.1 hrun).1).length_le
  rw [← hdrop, List.length_drop] at hle ⊢
  dsimp only
  rw [restIndex, ← Nat.add_sub_assoc hle, Nat.add_sub_cancel' hstart]

theorem assign_eq {ts skipped after : List Token} {name sign : Token} {index window : Nat}
    (h : Stands ts index window skipped (name :: sign :: after)) :
    assign ts index = restIndex ts <$> act (Statement.assign name after) := by
  have hdrop : ts.drop (index + 2) = after := by
    rw [← List.drop_drop, h.drop]
    rfl
  have hstart : index + 2 ≤ ts.length := by simp [h.length]
  rw [assign, look_here h, pure_bind]
  refine (consult_evaluate hdrop hstart fun v next => do
    act (Action.change (·.set name.text v))
    act (Action.say (sayPrefix ++ "Variable " ++ name.text ++ " set to " ++ v.display ++ "."))
    return next).trans ?_
  simp only [Statement.assign, act_bind, act_pure, map_bind, map_pure]

theorem Stands.skip {ts skipped rest : List Token} {t : Token} {index window : Nat}
    (h : Stands ts index window skipped (t :: rest)) :
    Stands ts (index + 1) window (t :: skipped) rest := by
  obtain ⟨done, rfl, rfl, rfl⟩ := h
  exact ⟨done, by simp, rfl, by simp; omega⟩

section
variable {ts skipped after : List Token} {t : Token} {index window : Nat}
  (h : Stands ts index window skipped (t :: after))
include h

theorem binding_eq : binding ts index = restIndex ts <$> act (Statement.binding t after) := by
  rw [binding, look_here h, pure_bind, look_ahead? h 0, pure_bind]
  match after with
  | [] => rfl
  | [name] =>
    have hnone := look_ahead? h 1
    simp only [List.getElem?_cons_zero, Statement.binding]
    split
    · rw [hnone]
      rfl
    · rfl
  | name :: sign :: after =>
    have hsign := look_ahead? h 1
    simp only [List.getElem?_cons_zero, Statement.binding]
    split
    · rw [hsign]
      simp only [pure_bind, List.getElem?_cons_zero, List.getElem?_cons_succ]
      split
      · exact assign_eq h.skip
      · rfl
    · rfl

theorem expressionStart_eq :
    ∃ start, expressionStart ts index window = .ok start ∧ start ≤ ts.length ∧
      ts.drop start = Statement.leadIn skipped ++ t :: after := by
  have hhere : index ≤ ts.length ∧ ts.drop index = [] ++ t :: after :=
    ⟨by simp [h.length], h.drop⟩
  have hback : window ≤ ts.length ∧ ts.drop window = skipped.reverse ++ t :: after :=
    ⟨by have := h.window_add; have := h.length; omega, h.drop_window⟩
  cases skipped with
  | nil =>
    refine ⟨index, ?_, hhere⟩
    rw [expressionStart, h.slice]
    rfl
  | cons last skipped =>
    obtain ⟨first, hlast⟩ : ∃ first, (last :: skipped).getLast? = some first :=
      ⟨_, List.getLast?_eq_some_getLast (List.cons_ne_nil last skipped)⟩
    have hfirst : tokenAt (last :: skipped).reverse 0 = .ok first :=
      tokenAt_of_getElem? (by rw [← List.head?_eq_getElem?, List.head?_reverse, hlast])
    have hbefore :
        tokenBefore (last :: skipped).reverse (last :: skipped).reverse.length = .ok last := by
      rw [List.length_reverse, List.length_cons, tokenBefore]
      exact tokenAt_of_getElem? (by simp)
    have hstart : expressionStart ts index window =
        .ok (if (last :: skipped).all (Statement.mayLead ·.kind) && Statement.mayOpen first.kind &&
          Statement.mayPrecede last.kind then window else index) := by
      simp only [expressionStart, h.slice, hfirst, hbefore, List.all_reverse, bind, Except.bind]
      split
      · next hnil => simp at hnil
      · split
        · next hall => rw [hall, Bool.true_and]
        · next hall =>
          rw [Bool.not_eq_true] at hall
          rw [hall]
          rfl
    refine ⟨_, hstart, ?_⟩
    rw [Statement.leadIn, hlast, List.head?_cons, Option.any_some, Option.any_some]
    split
    · exact hback
    · exact hhere

theorem around_eq (vars : Variables) :
    around ts index window vars =
      (Halt.ofFault (Statement.around skipped t after vars)).map fun (v, rest) =>
        (v, restIndex ts rest) := by
  obtain ⟨start, hstart, hle, hdrop⟩ := expressionStart_eq h
  have hlength := h.length
  have hstarts := congrArg List.length hdrop
  rw [List.length_drop] at hstarts
  simp only [around, Statement.around, hstart, evaluate_eq, hdrop, h.drop, bind, Except.bind]
  cases hev : Expression.evaluate vars (Statement.leadIn skipped ++ t :: after) with
  | error fault => rfl
  | ok result =>
    obtain ⟨v, rest⟩ := result
    have hrest := (Expression.evaluate_suffix hev).length_le
    have hnext : start + ((Statement.leadIn skipped ++ t :: after).length - rest.length) =
        restIndex ts rest := by
      rw [restIndex]
      omega
    have hback : restIndex ts rest ≤ index ↔ (t :: after).length ≤ rest.length := by
      rw [restIndex]
      omega
    simp only [Halt.ofFault_ok, Except.map, hnext]
    split
    · next hle =>
      rw [if_pos (hback.1 hle)]
      cases hev' : Expression.evaluate vars (t :: after) with
      | error fault => rfl
      | ok result =>
        obtain ⟨w, rest⟩ := result
        have hrest := (Expression.evaluate_suffix hev').length_le
        simp only [Halt.ofFault_ok, restIndex, Except.ok.injEq, Prod.mk.injEq, true_and]
        omega
    · next hnot => rw [if_neg fun hle => hnot (hback.2 hle)]; rfl

omit h in
theorem tokenAt?_rest {rest : List Token} (hrest : rest <:+ ts) :
    tokenAt? ts (restIndex ts rest) = .ok rest.head? := by
  obtain ⟨taken, rfl⟩ := hrest
  have hstands : Stands (taken ++ rest) taken.length taken.length [] rest := ⟨taken, rfl, rfl, rfl⟩
  have hhead := hstands.tokenAt?_ahead 0
  rwa [Nat.add_zero, ← List.head?_eq_getElem?,
    show taken.length = restIndex (taken ++ rest) rest by simp [restIndex]] at hhead

/-- What a move comes to with the cursor. -/
def place (ts after : List Token) (m : Move) : Nat × Bool :=
  (restIndex ts (m.rest after), m.completes)

omit h in
theorem place_complete {x : CursorAction Nat} {a : Action (List Token)}
    (hx : x = restIndex ts <$> act a) :
    (x >>= fun next => pure (next, true)) = place ts after <$> act (.complete <$> a) := by
  rw [hx, act_map, Functor.map_map, bind_map_left, ← bind_pure_comp]
  rfl

theorem name_eq : name ts index window = place ts after <$> act (dispatchName skipped t after) := by
  have hsuffix : after <:+ ts := by
    have hfrom : t :: after <:+ ts := h.drop ▸ List.drop_suffix index ts
    exact (List.suffix_cons t after).trans hfrom
  rw [name, look_ahead? h 0, pure_bind, dispatchName, ← List.head?_eq_getElem?]
  split
  · match after with
    | sign :: after => exact place_complete (assign_eq h)
  · rw [consult_eq (around_eq h), bind_map_left, act_bind, map_bind]
    refine act_bind_congr fun {s r s'} hrun => ?_
    obtain ⟨v, rest⟩ := r
    have hrest := Statement.around_rest (Action.run_consult_ok.1 hrun).1
    dsimp only
    rw [tokenAt?_rest (hrest.trans hsuffix), look_ok, pure_bind]
    split
    · rfl
    · simp only [act_bind, act_pure, map_bind, map_pure]
      rfl

/-- The condition of a choice is made of the tokens in the window: either it takes all of them, or
    the first one that it leaves is found. -/
theorem condition_eq {stray : List Token} (hstray : stray <:+ skipped.reverse) :
    (skipped.reverse.length - stray.length < index - window ↔ stray ≠ []) ∧
      ∀ u ∈ stray.head?, tokenAt ts (window + (skipped.reverse.length - stray.length)) = .ok u := by
  have hwindow := h.window_add
  have hle := hstray.length_le
  obtain ⟨taken, htaken⟩ := hstray
  have hlengths := congrArg List.length htaken
  rw [List.length_append] at hlengths
  rw [List.length_reverse] at *
  refine ⟨?_, fun u hu => tokenAt_of_getElem? ?_⟩
  · rw [← List.length_pos_iff]
    omega
  · rw [← List.getElem?_drop, h.drop_window, ← htaken, List.append_assoc,
      List.getElem?_append_right (by omega), ← hlengths]
    cases stray with
    | nil => cases hu
    | cons v stray => simpa using hu

theorem choice_eq :
    choice ts index window = restIndex ts <$> act (Statement.choice skipped t after) := by
  have hlength := h.length
  have hwindow := h.window_add
  rw [choice, look_here h, pure_bind]
  unfold Statement.choice
  cases skipped with
  | nil =>
    have hle : index ≤ window := Nat.le_of_eq hwindow.symm
    rw [if_pos hle]
    rfl
  | cons last skipped =>
    rw [if_neg (by rw [List.length_cons] at hwindow; omega), List.isEmpty_cons,
      if_neg Bool.false_ne_true]
    match after with
    | [] | [_] | [_, _] =>
      rw [if_pos (by simp only [List.length_cons, List.length_nil] at hlength; omega)]
      rfl
    | yes :: separator :: no :: rest =>
      rw [if_neg (by simp only [List.length_cons] at hlength; omega),
        h.tokenAt_ahead 2 rfl, look_ok, pure_bind]
      dsimp only
      split
      · rw [h.slice, consult_eq fun vars => evaluate_eq vars (last :: skipped).reverse 0,
          List.drop_zero, bind_map_left, act_bind, map_bind]
        refine act_bind_congr fun {s r s'} hrun => ?_
        obtain ⟨v, stray⟩ := r
        obtain ⟨hiff, hfirst⟩ :=
          condition_eq h (Expression.evaluate_suffix (Action.run_consult_ok.1 hrun).1)
        dsimp only
        cases stray with
        | cons u stray =>
          rw [if_pos (hiff.2 (List.cons_ne_nil u stray)), hfirst u rfl]
          rfl
        | nil =>
          have hchosen : tokenAt ts (if v.holds = true then index + 1 else index + 3) =
              .ok (if v.holds = true then yes else no) := by
            split
            · exact h.tokenAt_ahead 1 rfl
            · exact h.tokenAt_ahead 3 rfl
          have hnext : restIndex ts rest = index + 4 :=
            restIndex_taken h [yes, separator, no] rfl
          rw [if_neg fun hlt => hiff.1 hlt rfl, hchosen, look_ok, pure_bind]
          simp only [act_bind, act_pure, map_bind, map_pure, hnext]
      · rfl

theorem step_eq : step ts index window = place ts after <$> act (dispatch skipped t after) := by
  rw [step, look_here h, pure_bind, dispatch]
  cases t.kind with
  | keyword k =>
    cases k with
    | circle | rectangle | line => exact place_complete (draw_eq h)
    | color => exact place_complete (color_eq h)
    | clear => exact place_complete (clear_eq h)
    | let_ => exact place_complete (binding_eq h)
    | stik => exact place_complete (loop_eq h)
  | identifier => exact name_eq h
  | question => exact place_complete (choice_eq h)
  | _ =>
    have hnext : restIndex ts after = index + 1 := restIndex_taken h [] rfl
    dsimp only
    rw [act_pure, map_pure, place, Move.rest, hnext]
    rfl

end

/-! ## Runs -/

/-- **A move takes the cursor on,** to where it stands before what the move leaves. -/
theorem Stands.move {ts skipped after : List Token} {t : Token} {index window : Nat} {m : Move}
    (h : Stands ts index window skipped (t :: after)) (hrest : m.rest after <:+ after) :
    index < (place ts after m).1 ∧
      Stands ts (place ts after m).1 (if (place ts after m).2 then (place ts after m).1 else window)
        (m.skipped skipped t after) (m.rest after) := by
  obtain ⟨taken, htaken⟩ := hrest
  have hnext : (place ts after m).1 = index + 1 + taken.length :=
    restIndex_taken h taken htaken.symm
  have hlength := congrArg List.length htaken
  rw [List.length_append] at hlength
  rw [hnext]
  refine ⟨by omega, ?_⟩
  cases m with
  | pass =>
    obtain rfl : taken = [] := List.eq_nil_of_length_eq_zero (by rw [Move.rest] at hlength; omega)
    exact h.skip
  | complete rest =>
    obtain ⟨done, rfl, -, rfl⟩ := h
    rw [Move.rest] at htaken
    have hdone : (done ++ (skipped.reverse ++ t :: taken)).length =
        done.length + skipped.length + 1 + taken.length := by
      simp only [List.length_append, List.length_reverse, List.length_cons]
      omega
    exact ⟨done ++ (skipped.reverse ++ t :: taken), by simp [← htaken, Move.skipped, Move.rest],
      hdone.symm, hdone.symm⟩
  | handOver rest =>
    obtain ⟨done, rfl, rfl, rfl⟩ := h
    rw [Move.rest] at htaken
    have htake : (t :: after).take ((t :: after).length - rest.length) = t :: taken := by
      rw [← htaken, ← List.cons_append, List.length_append, Nat.add_sub_cancel, List.take_left]
    rw [Move.skipped, Move.rest, htake]
    exact ⟨done, by simp [← htaken], rfl, by simp; omega⟩

theorem run_eq {ts skipped rest : List Token} {index window : Nat}
    (h : Stands ts index window skipped rest) :
    run ts index window = act (executeFrom skipped rest >>= fun _ => pure ()) := by
  induction hn : rest.length using Nat.strongRecOn generalizing index window skipped rest with
  | ind n ih =>
    rw [run]
    cases rest with
    | nil =>
      rw [dif_neg (by simp [h.length]), executeFrom_nil]
      rfl
    | cons t after =>
      rw [dif_pos (by simp [h.length]), step_eq h, bind_map_left, executeFrom_cons, bind_assoc,
        act_bind]
      refine act_bind_congr fun {s m s'} hmove => ?_
      have hrest := dispatch_rest hmove
      obtain ⟨hlt, hstands⟩ := h.move hrest
      have hless : (m.rest after).length < n := by
        rw [← hn]
        exact Nat.lt_succ_of_le hrest.length_le
      rw [← ih _ hless hstands rfl]
      exact if_pos hlt

/-- **A run with the cursor has no gap:** it comes out as `execute` does. -/
theorem execute_eq (ts : List Token) : Cursor.execute ts = act (GridSketch.execute ts) :=
  run_eq (stands_first ts)

end GridSketch.Cursor
