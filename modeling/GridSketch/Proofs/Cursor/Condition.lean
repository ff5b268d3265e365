import GridSketch.Proofs.Cursor.Reach
import GridSketch.Proofs.Expression.Extent
import GridSketch.Proofs.Expression.Parse
import GridSketch.Proofs.Script.LeadIn
import GridSketch.Proofs.Script.Limits
import GridSketch.Proofs.Token.Readable

/-!
# The condition of a choice

The condition of a choice is marked out twice: by the name in it, from a guessed beginning to where
the expression ends, and by the choice, as everything in the window. The two may differ, and then
nothing is chosen.

* `evaluated` is the expression that a name works out, with its two ends; `decision` is what a
  choice has decided when it picks one of its values.
* `choice_after_name`: a choice that a name hands its expression over to decides by the value of
  that expression, or fails.
-/

namespace GridSketch.Cursor

open Expression

/-- An expression that has been worked out: the index of its first token, the index after it, and
    its value. -/
structure Evaluated where
  first : Nat
  last : Nat
  value : Value
  deriving DecidableEq, Repr

/-- The expression that a name works out. -/
def evaluated (ts : List Token) (index window : Nat) (vars : Variables) :
    Except Halt Evaluated := do
  let start ← expressionStart ts index window
  let (v, taken) ← evaluate vars ts start
  if start + taken ≤ index then do
    let (v, taken) ← evaluate vars ts index
    .ok ⟨index, index + taken, v⟩
  else .ok ⟨start, start + taken, v⟩

theorem around_eq_evaluated (ts : List Token) (index window : Nat) (vars : Variables) :
    around ts index window vars =
      (evaluated ts index window vars).map fun e => (e.value, e.last) := by
  simp only [around, evaluated, bind, Except.bind]
  cases expressionStart ts index window with
  | error halt => rfl
  | ok start =>
    dsimp only
    cases evaluate vars ts start with
    | error halt => rfl
    | ok result =>
      dsimp only
      split
      · cases evaluate vars ts index <;> rfl
      · rfl

/-- What a choice has decided: the value of its condition, how many tokens the condition takes, and
    the token that is said. -/
structure Decision where
  condition : Value
  taken : Nat
  chosen : Token
  deriving DecidableEq, Repr

/-- A choice, up to where it picks one of its values. -/
def decision (ts : List Token) (index window : Nat) (vars : Variables) : Except Halt Decision := do
  let mark ← tokenAt ts index
  if index ≤ window then .error (.fault (.atToken mark .conditionMissing))
  else if ts.length ≤ index + 3 then .error (.fault (.atToken mark .choiceFormat))
  else do
    let separator ← tokenAt ts (index + 2)
    if separator.kind = .colon then do
      let (condition, taken) ← evaluate vars (slice ts window index) 0
      if taken < index - window then do
        let stray ← tokenAt ts (window + taken)
        .error (.fault (.atToken stray (.conditionStray stray.text)))
      else do
        let chosen ← tokenAt ts (if condition.holds then index + 1 else index + 3)
        .ok ⟨condition, taken, chosen⟩
    else .error (.fault (.atToken mark .choiceFormat))

theorem choice_eq_decision (ts : List Token) (index window : Nat) :
    choice ts index window = do
      let d ← consult (decision ts index window)
      let v ← act (Action.consult (Expression.operand · d.chosen))
      act (Action.say v.display)
      return index + 4 := by
  have hconsult : consult (decision ts index window) = consult fun vars =>
    decision ts index window vars := rfl
  rw [choice, hconsult]
  simp only [decision, consult_bind, consult_ite, consult_look, look_fault, look_ok, bind_assoc,
    pure_bind, ite_bind, act_fail_bind]

theorem choice_undecided {ts : List Token} {index window : Nat} {s : Session} {halt : Halt}
    (h : decision ts index window s.state.bindings = .error halt) :
    (choice ts index window).run s = .error halt s := by
  rw [choice_eq_decision, consult, bind_assoc, EStateM.run_bind, EStateM.run_get]
  dsimp only
  rw [h]
  rfl

theorem decision_ok {ts : List Token} {index window : Nat} {vars : Variables} {d : Decision}
    (h : decision ts index window vars = .ok d) :
    window < index ∧ index - window ≤ d.taken ∧
      evaluate vars (slice ts window index) 0 = .ok (d.condition, d.taken) := by
  obtain ⟨mark, -, h⟩ := Halt.bind_ok.1 h
  split at h
  · cases h
  next hmissing =>
  split at h
  · cases h
  obtain ⟨separator, -, h⟩ := Halt.bind_ok.1 h
  split at h
  · obtain ⟨⟨condition, taken⟩, hcondition, h⟩ := Halt.bind_ok.1 h
    dsimp only at h
    split at h
    · obtain ⟨stray, -, h⟩ := Halt.bind_ok.1 h
      cases h
    · next hwhole =>
      obtain ⟨chosen, -, h⟩ := Halt.bind_ok.1 h
      cases h
      exact ⟨Nat.lt_of_not_le hmissing, Nat.le_of_not_lt hwhole, hcondition⟩
  · cases h

section
variable {ts skipped : List Token} {index window : Nat} {vars : Variables} {v : Value}

theorem evaluate_slice {taken : Nat} {rest : List Token}
    (h : Stands ts index window skipped rest) (hne : window < index)
    (hcondition : evaluate vars (slice ts window index) 0 = .ok (v, taken))
    (hwhole : index - window ≤ taken) :
    taken = index - window ∧ Expression.evaluate vars skipped.reverse = .ok (v, []) := by
  have hadd := h.window_add
  rw [h.slice, evaluate_eq, List.drop_zero] at hcondition
  cases hev : Expression.evaluate vars skipped.reverse with
  | error fault =>
    rw [hev] at hcondition
    cases hcondition
  | ok result =>
    obtain ⟨w, stray⟩ := result
    rw [hev] at hcondition
    cases hcondition
    rw [List.length_reverse] at *
    obtain rfl : stray = [] := List.eq_nil_of_length_eq_zero (by omega)
    exact ⟨by simp; omega, rfl⟩

/-- **If the window is one expression up to a choice,** a name in it works out that expression. -/
theorem evaluated_of_condition {name : Token} {post rest : List Token}
    (h : Stands ts index window skipped (name :: (post ++ rest)))
    (hname : name.kind = .identifier) (hskipped : ∀ t ∈ skipped, t.kind.leads = false)
    (hrest : Stops rest)
    (hcondition : Expression.evaluate vars (skipped.reverse ++ name :: post) = .ok (v, [])) :
    evaluated ts index window vars = .ok ⟨window, index + 1 + post.length, v⟩ := by
  have hadd := h.window_add
  have hlength := h.length
  have hstart : expressionStart ts index window = .ok window := by
    obtain ⟨start, hstart, hle, hdrop⟩ := expressionStart_eq h
    obtain ⟨p, hp, -⟩ := evaluate_ok.1 hcondition
    obtain ⟨taken, e, htaken, hforms, -⟩ := toPostfix_ok_iff.1 hp
    rw [List.append_nil] at htaken
    rw [← htaken] at hforms
    have hlead := leadIn_of_forms hforms hname fun t ht hkind => by
      have hleads := hskipped t (List.mem_reverse.1 ht)
      rw [hkind] at hleads
      cases hleads
    rw [List.reverse_reverse] at hlead
    have hlengths := congrArg List.length (hdrop.trans (hlead ▸ h.drop_window.symm))
    rw [List.length_drop, List.length_drop] at hlengths
    rw [hstart, show start = window by omega]
  have hvalue := evaluate_append hcondition hrest
  rw [List.append_assoc, List.cons_append, List.nil_append, ← h.drop_window] at hvalue
  have hevaluate : evaluate vars ts window = .ok (v, skipped.length + 1 + post.length) := by
    rw [evaluate_eq, hvalue, h.drop_window]
    simp [Except.map]
    omega
  simp only [evaluated, hstart, hevaluate, bind, Except.bind]
  rw [if_neg (by omega), ← hadd]
  congr 2
  omega

end

section
variable {ts skipped after : List Token} {t : Token} {index window next : Nat} {s s' : Session}

theorem choice_error {halt : Halt} (h : Stands ts index window skipped (t :: after))
    (hread : ∀ u ∈ ts, u.Readable) (hrun : (choice ts index window).run s = .error halt s') :
    ∃ d, halt = .fault (.script d) := by
  obtain ⟨hskipped, hrest⟩ := h.forall_mem hread
  have hwithin : Action.Within (Statement.choice skipped t after) :=
    Statement.choice_within hskipped (List.forall_mem_cons.1 hrest).2
  rw [choice_eq h, ← bind_pure_comp, EStateM.run_bind, act_run] at hrun
  cases hchoice : (Statement.choice skipped t after).run s with
  | ok rest s₁ =>
    rw [hchoice] at hrun
    cases hrun
  | error fault s₁ =>
    rw [hchoice] at hrun
    cases hrun
    cases fault with
    | script d => exact ⟨d, rfl⟩
    | breach b => exact absurd hchoice (hwithin s b _)

theorem step_name (h : Stands ts index window skipped (t :: after)) (hkind : t.kind = .identifier) :
    step ts index window = name ts index window := by
  rw [step, look_here h, pure_bind, hkind]

theorem step_choice (h : Stands ts index window skipped (t :: after)) (hkind : t.kind = .question) :
    step ts index window = do return (← choice ts index window, true) := by
  rw [step, look_here h, pure_bind, hkind]

/-- A name that leaves its expression to a choice has worked it out, up to the mark, and changed
    nothing. -/
theorem name_handOver (h : Stands ts index window skipped (t :: after))
    (hkind : t.kind = .identifier) (hname : (name ts index window).run s = .ok (next, false) s') :
    s' = s ∧ ∃ post mark tail e, after = post ++ mark :: tail ∧ mark.kind = .question ∧
      next = index + 1 + post.length ∧
      evaluated ts index window s.state.bindings = .ok e ∧ e.last = next := by
  rw [← step_name h hkind] at hname
  obtain ⟨_, _, m, heq, hmove, hplace⟩ := step_ok h hname
  cases heq
  have hm : m.completes = false := congrArg Prod.snd hplace
  obtain ⟨hsame, honward⟩ := dispatch_onward hmove hm
  refine ⟨hsame, ?_⟩
  rcases honward with ⟨-, hleads⟩ | ⟨v, rest, rfl, -, -, haround, hmark⟩
  · rw [hkind] at hleads
    cases hleads
  obtain ⟨post, hpost⟩ : rest <:+ after := dispatch_rest hmove
  have hnext : restIndex ts rest = next := congrArg Prod.fst hplace
  have heval := around_eq h s.state.bindings
  rw [around_eq_evaluated, haround] at heval
  cases rest with
  | nil => cases hmark
  | cons mark tail =>
    cases he : evaluated ts index window s.state.bindings with
    | error halt =>
      rw [he] at heval
      cases heval
    | ok e =>
      rw [he] at heval
      have hlast : e.last = restIndex ts (mark :: tail) :=
        congrArg Prod.snd (Except.ok.inj heval)
      exact ⟨post, mark, tail, e, hpost.symm, by simpa using hmark,
        hnext.symm.trans (restIndex_taken h post hpost.symm), rfl, hlast.trans hnext⟩

end

/-- **A choice tests the condition that it was handed.** When a name leaves its expression to a
    choice, nothing is said or changed, and the next move is that choice, with the same window. If
    the choice gets as far as picking a value, the expression began at the window, the condition is
    that expression, whole, and has the same value. If it does not, it fails and leaves everything
    as it was. -/
theorem choice_after_name {source : String} {ts : List Token} {s s' : Session} {p : Point}
    {t : Token} {next : Nat} (htokens : tokenize source = .ok ts) (hreach : Reaches ts s p)
    (ht : ts[p.index]? = some t) (hkind : t.kind = .identifier)
    (hname : (name ts p.index p.window).run p.session = .ok (next, false) s') :
    s' = p.session ∧ Reaches ts s ⟨next, p.window, s'⟩ ∧
    (∃ mark, ts[next]? = some mark ∧ mark.kind = .question) ∧
    (step ts next p.window = do return (← choice ts next p.window, true)) ∧
    ∃ e, evaluated ts p.index p.window p.session.state.bindings = .ok e ∧ e.last = next ∧
      match decision ts next p.window s'.state.bindings with
      | .ok d => e.first = p.window ∧ p.window + d.taken = e.last ∧ d.condition = e.value
      | .error halt =>
        (choice ts next p.window).run s' = .error halt s' ∧ ∃ d, halt = .fault (.script d) := by
  obtain ⟨skipped, rest, hstands, hwaits⟩ := hreach.stands
  obtain ⟨after, rfl⟩ : ∃ after, rest = t :: after := by
    rw [← Nat.add_zero p.index, hstands.getElem? 0, ← List.head?_eq_getElem?] at ht
    exact List.head?_eq_some_iff.1 ht
  have hskipped : ∀ u ∈ skipped, u.kind.leads = false := by
    rcases hwaits with hskipped | hmark
    · exact hskipped
    · simp [hkind] at hmark
  obtain ⟨rfl, post, mark, tail, e, rfl, hmark, rfl, he, hlast⟩ :=
    name_handOver hstands hkind hname
  have hnext : Stands ts (p.index + 1 + post.length) p.window ((t :: post).reverse ++ skipped)
      (mark :: tail) := by
    obtain ⟨done, hdone, hwindow, hindex⟩ := hstands
    exact ⟨done, by simp [hdone], hwindow, by simp; omega⟩
  refine ⟨rfl, hreach.next (step_name hstands hkind ▸ hname), ⟨mark, ?_, hmark⟩,
    step_choice hnext hmark, e, he, hlast, ?_⟩
  · rw [← Nat.add_zero (_ + _), hnext.getElem? 0]
    rfl
  cases hdecision : decision ts (p.index + 1 + post.length) p.window p.session.state.bindings with
  | error halt =>
    have hrun := choice_undecided hdecision
    exact ⟨hrun, choice_error hnext (Lexer.tokens_readable htokens) hrun⟩
  | ok d =>
    obtain ⟨hbegun, hwhole, hcondition⟩ := decision_ok hdecision
    obtain ⟨htaken, hcondition⟩ := evaluate_slice hnext hbegun hcondition hwhole
    rw [List.reverse_append, List.reverse_reverse] at hcondition
    have hstops : Stops (mark :: tail) := by
      rintro u ⟨⟩
      simp [Token.extends, Token.signSplit?, hmark]
    have hsame := evaluated_of_condition hstands hkind hskipped hstops hcondition
    rw [he] at hsame
    cases hsame
    exact ⟨rfl, by omega, rfl⟩

/-- The tokens of `(a) ? "yes" : "no"`. -/
def groupedChoice : List Token :=
  [⟨.leftParen, "(", ⟨1, 1⟩⟩, ⟨.identifier, "a", ⟨1, 2⟩⟩, ⟨.rightParen, ")", ⟨1, 3⟩⟩,
    ⟨.question, "?", ⟨1, 5⟩⟩, ⟨.string, "yes", ⟨1, 7⟩⟩, ⟨.colon, ":", ⟨1, 13⟩⟩,
    ⟨.string, "no", ⟨1, 15⟩⟩]

/-- A session in which `a` is true. -/
def sessionWithA : Session := { state := { bindings := [("a", .boolean true)] } }

theorem choice_after_name_group :
    tokenize "(a) ? \"yes\" : \"no\"" = .ok groupedChoice ∧
    Reaches groupedChoice sessionWithA ⟨1, 0, sessionWithA⟩ ∧
    (name groupedChoice 1 0).run sessionWithA = .ok (3, false) sessionWithA ∧
    decision groupedChoice 3 0 sessionWithA.state.bindings =
      .ok ⟨.boolean true, 3, ⟨.string, "yes", ⟨1, 7⟩⟩⟩ ∧
    evaluated groupedChoice 1 0 sessionWithA.state.bindings = .ok ⟨0, 3, .boolean true⟩ := by
  have htokens : tokenize "(a) ? \"yes\" : \"no\"" = .ok groupedChoice := by decide +kernel
  have hstep : (step groupedChoice 0 0).run sessionWithA = .ok (1, false) sessionWithA := rfl
  have hreach : Reaches groupedChoice sessionWithA ⟨1, 0, sessionWithA⟩ := Reaches.first.next hstep
  have hstands : Stands groupedChoice 1 0 (groupedChoice.take 1) (groupedChoice.drop 1) :=
    ⟨[], rfl, rfl, rfl⟩
  have hname : (name groupedChoice 1 0).run sessionWithA = .ok (3, false) sessionWithA := by
    rw [name_eq hstands]
    rfl
  have hdecision : decision groupedChoice 3 0 sessionWithA.state.bindings =
      .ok ⟨.boolean true, 3, ⟨.string, "yes", ⟨1, 7⟩⟩⟩ := by decide +kernel
  obtain ⟨-, -, -, -, ⟨first, last, value⟩, he, rfl, hsame⟩ :=
    choice_after_name htokens hreach rfl rfl hname
  rw [hdecision] at hsame
  obtain ⟨rfl, -, rfl⟩ := hsame
  exact ⟨htokens, hreach, hname, hdecision, he⟩

end GridSketch.Cursor
