import GridSketch.Proofs.Script.Phrase

/-!
# An expression behind a skipped one

An expression without names is no statement, and a run skips it. Its tokens are remembered, and the
next name may take them for the beginning of its own expression: they begin like one, and if
anything stands between them and the name, an operand is due there. The evaluation that begins with
them ends with the skipped expression, before the name. It is then made again, but from the name
and not from where the first one ended.

* `around_front`, `around_behind`: the value around the name, without and with tokens before it.
* `execute_behind`: an expression that a name leads is said as it would be alone. Of any other one
  the tokens before its first name are lost.
-/

namespace GridSketch

open Expression Statement GridSketch.Action

/-! ## Consulting -/

namespace Action

variable {α β : Type} {f : Variables → Except Fault α}

theorem consult_congr {g g' : α → Action β} (h : ∀ vars a, f vars = .ok a → g a = g' a) :
    consult f >>= g = consult f >>= g' := by
  funext s
  show (consult f >>= g).run s = (consult f >>= g').run s
  rw [EStateM.run_bind, EStateM.run_bind, run_consult]
  cases hf : f s.state.bindings with
  | error fault => rfl
  | ok a => exact congrArg (·.run s) (h _ a hf)

theorem consult_seq (f : Variables → Except Fault α) (g : Variables → Except Fault β) :
    (consult fun vars => f vars >>= fun _ => g vars) = consult f >>= fun _ => consult g := by
  funext s
  show (consult fun vars => f vars >>= fun _ => g vars).run s =
    (consult f >>= fun _ => consult g).run s
  simp only [EStateM.run_bind, run_consult]
  cases f s.state.bindings <;> rfl

end Action

/-! ## A run at a name -/

section
variable {name : Token} {post : List Token}

theorem around_of_leadIn_nil {skipped : List Token} (h : leadIn skipped = []) (vars : Variables) :
    around skipped name post vars = evaluate vars (name :: post) := by
  simp only [around, h, List.nil_append]
  cases evaluate vars (name :: post) with
  | error fault => rfl
  | ok r => exact ite_self _

theorem around_nil (vars : Variables) : around [] name post vars = evaluate vars (name :: post) :=
  around_of_leadIn_nil rfl vars

/-- A run at a name, with neither the sign of assignment directly after it nor the mark of a choice
    anywhere, says the value around the name. -/
theorem executeFrom_name (hname : name.kind = .identifier)
    (hsign : post.head?.any (·.kind = .assign) = false) (hmark : ∀ t ∈ post, t.kind ≠ .question)
    (skipped : List Token) :
    executeFrom skipped (name :: post) =
      consult (around skipped name post) >>= fun r => (do say r.1.display; executeFrom [] r.2) := by
  rw [executeFrom_cons]
  simp only [dispatch, hname, dispatchName, hsign, Bool.false_eq_true, if_false, bind_assoc]
  refine consult_congr fun vars r hr => ?_
  have hquestion : r.2.head?.any (·.kind = .question) = false := by
    rw [Option.any_eq_false]
    intro t ht
    have hmem : t ∈ post := (around_rest hr).subset (List.mem_of_mem_head? ht)
    simpa using hmark t hmem
  rw [hquestion]
  simp [Move.skipped, Move.rest]

end

/-! ## Behind a skipped expression -/

section
variable {e f : Formula} {pre post : List Token} {name : Token}

theorem leadIn_formula (e : Formula) : leadIn e.tokens.reverse = [] := by
  obtain ⟨front, t, heq, ht⟩ := e.forms.closes
  have hdue : mayPrecede t.kind = false := by
    cases hk : t.kind <;> simp_all [Token.closes, TokenKind.isOperand, mayPrecede]
  simp [leadIn, heq, hdue]

theorem around_front (e : Formula) (name : Token) (post : List Token) :
    around e.tokens.reverse name post = around [] name post := by
  funext vars
  rw [around_of_leadIn_nil (leadIn_formula e), around_nil]

variable (he : ¬ e.Named) (hf : f.tokens = pre ++ name :: post) (hname : name.kind = .identifier)
  (hpre : ∀ t ∈ pre, t.kind ≠ .identifier) (hfirst : ∀ t ∈ f.tokens.head?, t.signSplit? = none)

include hf hname in
theorem executeFrom_first_name (skipped : List Token) :
    executeFrom skipped (name :: post) =
      consult (around skipped name post) >>= fun r => (do say r.1.display; executeFrom [] r.2) := by
  refine executeFrom_name hname ?_ (fun t ht => f.kind_ne (.inr rfl) t (by simp [hf, ht])) skipped
  rw [Option.any_eq_false]
  intro t ht
  have hmem : t ∈ post := List.mem_of_mem_head? ht
  simpa using f.kind_ne (.inl rfl) t (by simp [hf, hmem])

include he hf hpre in
theorem executeFrom_front :
    executeFrom [] (e.tokens ++ f.tokens) =
      executeFrom (e.tokens ++ pre).reverse (name :: post) := by
  have hleads : ∀ t ∈ e.tokens ++ pre, t.kind.leads = false := fun t ht =>
    (List.mem_append.1 ht).elim
      (leads_of_not_name (fun _ h => h) (Formula.kind_ne_of_not_named he) t)
      (leads_of_not_name (e := f) (fun u hu => by simp [hf, hu]) hpre t)
  rw [hf, ← List.append_assoc, executeFrom_skip hleads, List.append_nil]

include he hf hname hpre in
/-- An expression without names, and what stands between it and the first name of the next one, look
    like the beginning of that one. -/
theorem leadIn_behind (hne : pre ≠ []) :
    leadIn (e.tokens ++ pre).reverse = e.tokens ++ pre := by
  have hforms : Forms 0 (pre ++ name :: post) f.tree := hf ▸ f.forms
  have hunnamed := Formula.kind_ne_of_not_named he
  refine leadIn_reverse (fun t ht => ?_) ?_ ?_
  · rcases List.mem_append.1 ht with ht | ht
    · exact (e.forms.kinds t ht).resolve_left (hunnamed t ht)
    · exact mayLead_of_forms hforms hpre t ht
  · obtain ⟨t, rest, heq, ht⟩ := e.forms.first
    simpa [heq] using ht.resolve_left (hunnamed t (by simp [heq]))
  · rw [List.getLast?_append_of_ne_nil _ hne]
    exact due_of_forms hforms hname hne

include hf hname hfirst in
theorem stops_formula : Stops f.tokens := by
  obtain ⟨t, rest, heq, ht⟩ := (Phrase.expression f ⟨name, by simp [hf], hname⟩).first
  change f.tokens = t :: rest at heq
  have hapart : Apart f.tokens := by
    intro u hu
    obtain rfl : t = u := by simpa [heq] using hu
    exact ht (hfirst t hu)
  exact hapart.stops

include he hf hname hpre hfirst in
/-- Behind an expression without names, the first name of the next one takes that for its beginning,
    works it out, and starts again from itself. -/
theorem around_behind (hne : pre ≠ []) :
    around (e.tokens ++ pre).reverse name post = fun vars =>
      e.tree.value vars >>= fun _ => around [] name post vars := by
  have hstops : Stops (pre ++ name :: post) := hf ▸ stops_formula hf hname hfirst
  funext vars
  have hvalue : evaluate vars _ = _ := evaluate_of_forms e.forms hstops
  rw [around_nil]
  simp only [around, leadIn_behind he hf hname hpre hne, List.append_assoc, hvalue]
  cases e.tree.value vars with
  | error fault => rfl
  | ok v =>
    -- what the evaluation left is at least what begins with the name
    exact if_pos (by simp)

include he hf hname hpre in
theorem execute_front (hne : pre = []) : execute (e.tokens ++ f.tokens) = execute f.tokens := by
  rw [execute, execute, executeFrom_front he hf hpre, hf, hne, List.append_nil, List.nil_append,
    executeFrom_first_name hf hname, executeFrom_first_name hf hname, around_front]

include he hf hname hpre hfirst in
/-- Behind a skipped expression, the tokens before the first name of the next one are lost. -/
theorem execute_lost (hne : pre ≠ []) :
    execute (e.tokens ++ f.tokens) = (do let _ ← e.value; execute (name :: post)) := by
  rw [execute, execute, executeFrom_front he hf hpre, executeFrom_first_name hf hname,
    executeFrom_first_name hf hname, around_behind he hf hname hpre hfirst hne, consult_seq,
    Formula.value]
  simp only [bind_assoc]

include he hf hname hpre hfirst in
/-- **What an expression says behind one without names,** which a run skips. Alone, it says its value.

    * If a name leads it, this is what it says behind the skipped one as well, even if that one has
      no value.
    * If not, the value of the skipped one is worked out first, and if it has one, the run goes on
      as if it began with the name. The tokens between are lost. -/
theorem execute_behind :
    execute f.tokens = (do say (← f.value).display) ∧
    (pre = [] → execute (e.tokens ++ f.tokens) = execute f.tokens) ∧
    (pre ≠ [] → execute (e.tokens ++ f.tokens) = (do let _ ← e.value; execute (name :: post))) :=
  ⟨execute_phrase (.expression f ⟨name, by simp [hf], hname⟩),
    execute_front he hf hname hpre,
    execute_lost he hf hname hpre hfirst⟩

end

/-- The expression `"x"`. -/
def Formula.sampleText : Formula := ⟨[⟨.string, "x", {}⟩], _, .operand rfl⟩

/-- The expression `(a) == b`. -/
def Formula.sampleGroup : Formula :=
  ⟨_, _, .binary (t := ⟨.operator .eq, "==", {}⟩) rfl (by decide)
    (@Forms.group _ ⟨.leftParen, "(", {}⟩ _ _ ⟨.rightParen, ")", {}⟩ rfl rfl
      (.operand (t := ⟨.identifier, "a", {}⟩) rfl))
    (.operand (t := ⟨.identifier, "b", {}⟩) rfl)⟩

theorem Formula.sampleText_not_named : ¬ sampleText.Named := by
  simp [Named, sampleText]

theorem execute_behind_text :
    ¬ Formula.sampleText.Named ∧
    Formula.sampleGroup.tokens = [⟨.leftParen, "(", {}⟩] ++ ⟨.identifier, "a", {}⟩ ::
      [⟨.rightParen, ")", {}⟩, ⟨.operator .eq, "==", {}⟩, ⟨.identifier, "b", {}⟩] ∧
    (∀ t ∈ Formula.sampleGroup.tokens.head?, t.signSplit? = none) ∧
    execute (Formula.sampleText.tokens ++ Formula.sampleGroup.tokens) =
      (do
        let _ ← Formula.sampleText.value
        execute [⟨.identifier, "a", {}⟩, ⟨.rightParen, ")", {}⟩, ⟨.operator .eq, "==", {}⟩,
          ⟨.identifier, "b", {}⟩]) := by
  have hfirst : ∀ t ∈ Formula.sampleGroup.tokens.head?, t.signSplit? = none := by
    rintro t ⟨⟩
    rfl
  have htokens : Formula.sampleGroup.tokens = [⟨.leftParen, "(", {}⟩] ++ ⟨.identifier, "a", {}⟩ ::
      [⟨.rightParen, ")", {}⟩, ⟨.operator .eq, "==", {}⟩, ⟨.identifier, "b", {}⟩] := rfl
  exact ⟨Formula.sampleText_not_named, htokens, hfirst,
    (execute_behind Formula.sampleText_not_named htokens rfl (by simp) hfirst).2.2 (by simp)⟩

/-- Behind a skipped expression, an expression with a name is not always said as it is alone: with
    `a` true and `b` false, `(a) == b` says `false`; behind a text, the `a` in the parentheses says
    `true`, and then `b` says `false`. -/
theorem said_behind_differs :
    ¬ ∀ (e f : Formula) (s : Session) (v : Value), ¬ e.Named → f.Named →
      (∀ t ∈ f.tokens.head?, t.signSplit? = none) → f.tree.value s.state.bindings = .ok v →
      ∃ s', (execute (e.tokens ++ f.tokens)).run s = .ok () s' ∧ s'.log = s.log ++ [v.display] := by
  intro h
  let s : Session := { state := { bindings := [("a", .boolean true), ("b", .boolean false)] } }
  have hgroup : Formula.sampleGroup.Named :=
    ⟨⟨.identifier, "a", {}⟩, by simp [Formula.sampleGroup], rfl⟩
  obtain ⟨s', hrun, hlog⟩ := h Formula.sampleText Formula.sampleGroup s (.boolean false)
    Formula.sampleText_not_named hgroup (by rintro t ⟨⟩; rfl) rfl
  let said : Action (List String) := do
    execute (Formula.sampleText.tokens ++ Formula.sampleGroup.tokens)
    return (← get).log
  have hsaid : said.run' s = some ["true", "false"] := by
    decide +kernel
  have hlast : said.run s = .ok s'.log s' := by
    change EStateM.run (_ >>= _) s = _
    rw [EStateM.run_bind, hrun]
    rfl
  have hlog' : said.run' s = some s'.log := by
    delta EStateM.run'
    rw [hlast]
  rw [hsaid, hlog] at hlog'
  simp [s] at hlog'

end GridSketch
