import GridSketch.Proofs.Expression.Failure
import GridSketch.Proofs.Expression.Place
import GridSketch.Proofs.Script.Phrase
import GridSketch.Proofs.Session.Report
import GridSketch.Proofs.Token.Name

/-!
# A session as a calculator

A text that is one expression has a value, which `Expression.calculate` works out. A session comes
to the same value where the expression is bound to a name, said or tested.

* `Session.Answers`: a run of a text comes out as a value does.
* `Session.answers_expression`: the three statements with an expression answer as the calculator
  does.
-/

namespace GridSketch

open Expression GridSketch.Action

theorem readable_of_tokenize {source : String} {ts : List Token} {e : Tree}
    (htokens : tokenize source = .ok ts) (hforms : Forms 0 ts e) : e.Readable :=
  hforms.readable (Lexer.tokens_readable htokens)

namespace Session

/-- A run of a text comes out as `r` does. A value has an effect on the state and is said in one
    line. A failure is said with the same cause, and nothing else happens. -/
def Answers (s : Session) (source : String) (r : Except Fault Value)
    (effect : Value → State → State) (line : Value → String) : Prop :=
  match r with
  | .ok v =>
    s.runIncremental source =
      ({ s with state := effect v s.state }.say (line v),
        ⟨[line v], (effect v s.state).shapes, none⟩)
  | .error fault =>
    ∃ d d', fault = .script d ∧ d'.cause = d.cause ∧
      s.runIncremental source =
        (s.say (failurePrefix ++ d'.message),
          ⟨[failurePrefix ++ d'.message], s.state.shapes, some (.script d')⟩)

variable {s : Session} {source : String} {ts : List Token}

theorem answers_formula {e : Formula} {effect : Value → State → State} {line : Value → String}
    (htokens : tokenize source = .ok ts) (hreadable : e.tree.Readable)
    (hexecute : GridSketch.execute ts = e.value >>= fun v => (do
      Action.change (effect v)
      Action.say (line v))) :
    s.Answers source (e.tree.value s.state.bindings) effect line := by
  unfold Answers
  split
  · next v hv =>
    have hadds : s.Adds [line v] ({ s with state := effect v s.state }.say (line v)) := ⟨rfl, rfl⟩
    have hok : (GridSketch.execute ts).run s =
        .ok () ({ s with state := effect v s.state }.say (line v)) := by
      rw [hexecute, Formula.value, EStateM.run_bind, run_consult, hv]
      rfl
    rw [runIncremental_of_tokens htokens, hok]
    dsimp only [sessionOf, faultOf, sayFault]
    rw [linesSince_adds hadds]
    rfl
  · next fault hfault =>
    obtain ⟨d, rfl, -⟩ := Tree.value_error e.forms.proper hreadable hfault
    have herror : (GridSketch.execute ts).run s = .error (.script d) s := by
      rw [hexecute, Formula.value, EStateM.run_bind, run_consult, hfault]
    refine ⟨d, d, rfl, rfl, ?_⟩
    rw [runIncremental_of_tokens htokens, herror]
    dsimp only [sessionOf, faultOf, sayFault]
    rw [linesSince_adds (.say s _)]

theorem Answers.behind {p : Position} {r : Except Fault Value} {effect : Value → State → State}
    {line : Value → String} (h : s.Answers source (r.mapError (Fault.behind p)) effect line) :
    s.Answers source r effect line := by
  cases r with
  | ok v => exact h
  | error fault =>
    obtain ⟨d, d', hfault, hcause, hrun⟩ := h
    cases fault with
    | script d₀ =>
      cases hfault
      exact ⟨d₀, d', rfl, hcause.trans (Diagnostic.behind_cause p d₀), hrun⟩
    | breach b => cases hfault

/-! ## Texts with an expression in them -/

theorem literal_value {a : String} {t : Token} (ha : tokenize a = .ok [t])
    (hkind : t.kind = .number ∨ t.kind = .string) :
    t.kind.isOperand = true ∧ ∃ v, ∀ vars, operand vars t = .ok v ∧ calculate vars a = .ok v := by
  have hoperand : t.kind.isOperand = true := by
    rcases hkind with hk | hk <;> simp [hk, TokenKind.isOperand]
  have hcalculate : ∀ vars, calculate vars a = operand vars t :=
    fun vars => calculate_of_forms ha (.operand hoperand) vars
  refine ⟨hoperand, ?_⟩
  rcases hkind with hk | hk
  · obtain ⟨x, hx⟩ := (Lexer.tokens_readable ha t (by simp)).value hk
    have hvalue : ∀ vars, operand vars t = .ok (.number x) := fun vars => by simp [operand, hk, hx]
    exact ⟨.number x, fun vars => ⟨hvalue vars, (hcalculate vars).trans (hvalue vars)⟩⟩
  · have hvalue : ∀ vars, operand vars t = .ok (.text t.text) := fun vars => by simp [operand, hk]
    exact ⟨.text t.text, fun vars => ⟨hvalue vars, (hcalculate vars).trans (hvalue vars)⟩⟩

theorem holds_iff (v : Value) : v.holds = true ↔ v = .boolean true := by
  cases v <;> simp [Value.holds]

variable {e : Tree} (htokens : tokenize source = .ok ts) (hforms : Forms 0 ts e) (s : Session)
include htokens hforms

theorem answers_said (hnamed : ∃ t ∈ ts, t.kind = .identifier) :
    s.Answers source (e.value s.state.bindings) (fun _ state => state) (·.display) := by
  refine answers_formula (e := ⟨ts, e, hforms⟩) htokens (readable_of_tokenize htokens hforms) ?_
  exact (execute_phrase (.expression ⟨ts, e, hforms⟩ hnamed)).trans rfl

theorem answers_bound {x : String} (hx : IsName x) :
    s.Answers ("let " ++ x ++ " = " ++ source) (e.value s.state.bindings)
      (fun v state => state.set x v)
      (fun v => sayPrefix ++ "Variable " ++ x ++ " set to " ++ v.display ++ ".") := by
  have hsource : "let " ++ x ++ " = " ++ source =
      "let" ++ " " ++ (x ++ " " ++ ("=" ++ " " ++ source)) :=
    String.toList_inj.1 (by simp)
  have hlet : tokenize "let" = .ok [⟨.keyword .let_, "let", {}⟩] := tokenize_single (by decide)
  have hassign : tokenize "=" = .ok [⟨.assign, "=", {}⟩] := tokenize_single (by decide)
  obtain ⟨p₁, h₁⟩ := tokenize_spaced hassign htokens
  obtain ⟨p₂, h₂⟩ := tokenize_spaced (tokenize_name hx) h₁
  obtain ⟨p₃, h₃⟩ := tokenize_spaced hlet h₂
  rw [hsource]
  -- the expression stands behind three texts, and each of them moves it
  refine Answers.behind (p := p₁) ?_
  rw [← Tree.value_behind]
  refine Answers.behind (p := p₂) ?_
  rw [← Tree.value_behind]
  refine Answers.behind (p := p₃) ?_
  rw [← Tree.value_behind]
  have hmoved := ((hforms.behind p₁).behind p₂).behind p₃
  refine answers_formula (e := ⟨_, _, hmoved⟩) h₃ ?_ ?_
  · refine hmoved.readable fun t ht => Lexer.tokens_readable h₃ t ?_
    simp only [List.map_append, List.mem_append]
    exact Or.inr (Or.inr (Or.inr ht))
  · exact (execute_phrase (.binding ⟨⟨.keyword .let_, "let", {}⟩, rfl, rfl⟩
      ⟨Token.behind p₃ ⟨.identifier, x, {}⟩, rfl⟩
      ⟨(Token.behind p₂ ⟨.assign, "=", {}⟩).behind p₃, rfl⟩ ⟨_, _, hmoved⟩)).trans rfl

theorem answers_tested {a b : String} {ta tb : Token} {va vb : Value}
    (ha : tokenize a = .ok [ta]) (hb : tokenize b = .ok [tb])
    (hoa : ta.kind.isOperand = true) (hob : tb.kind.isOperand = true)
    (hva : ∀ vars, operand vars ta = .ok va) (hvb : ∀ vars, operand vars tb = .ok vb) :
    s.Answers (source ++ " ? " ++ a ++ " : " ++ b) (e.value s.state.bindings)
      (fun _ state => state) (fun v => (if v = .boolean true then va else vb).display) := by
  have hsource : source ++ " ? " ++ a ++ " : " ++ b =
      source ++ " " ++ ("?" ++ " " ++ (a ++ " " ++ (":" ++ " " ++ b))) :=
    String.toList_inj.1 (by simp)
  have hcolon : tokenize ":" = .ok [⟨.colon, ":", {}⟩] := tokenize_single (by decide)
  have hquestion : tokenize "?" = .ok [⟨.question, "?", {}⟩] := tokenize_single (by decide)
  obtain ⟨p₁, h₁⟩ := tokenize_spaced hcolon hb
  obtain ⟨p₂, h₂⟩ := tokenize_spaced ha h₁
  obtain ⟨p₃, h₃⟩ := tokenize_spaced hquestion h₂
  obtain ⟨p₄, h₄⟩ := tokenize_spaced htokens h₃
  rw [hsource]
  refine answers_formula (e := ⟨ts, e, hforms⟩) h₄ (readable_of_tokenize htokens hforms) ?_
  let phrase := Phrase.choice ⟨ts, e, hforms⟩ ⟨Token.behind p₄ ⟨.question, "?", {}⟩, rfl⟩
    ⟨(ta.behind p₃).behind p₄, hoa⟩
    ⟨((Token.behind p₂ ⟨.colon, ":", {}⟩).behind p₃).behind p₄, rfl⟩
    ⟨(((tb.behind p₁).behind p₂).behind p₃).behind p₄, hob⟩
  refine (execute_phrase phrase).trans (bind_congr fun v => ?_)
  have hyes : ∀ vars, operand vars ((ta.behind p₃).behind p₄) = .ok va := fun vars => by
    simp [operand_behind, hva, Except.mapError]
  have hno : ∀ vars, operand vars ((((tb.behind p₁).behind p₂).behind p₃).behind p₄) = .ok vb :=
    fun vars => by simp [operand_behind, hvb, Except.mapError]
  by_cases hv : v = .boolean true
  · simp only [(holds_iff v).2 hv, if_pos hv, if_true, consult_const hyes]
    rfl
  · have hholds : v.holds = false := by
      rw [← Bool.not_eq_true]
      exact fun h => hv ((holds_iff v).1 h)
    simp only [hholds, if_neg hv, Bool.false_eq_true, if_false, consult_const hno]
    rfl

/-- **The calculator and a session agree.** Take a text that is one expression. What the calculator
    makes of it, a value or a failure that only shows when the expression is worked out, comes out
    as well

    * where the value is bound to a name,
    * where the text is run on its own, if it has a name in it,
    * where it is the condition of a choice between two literals. -/
theorem answers_expression :
    (∀ fault, calculate s.state.bindings source = .error fault →
      ∃ d, fault = .script d ∧ Evaluates d.cause.kind) ∧
    (∀ x, IsName x →
      s.Answers ("let " ++ x ++ " = " ++ source) (calculate s.state.bindings source)
        (fun v state => state.set x v)
        (fun v => sayPrefix ++ "Variable " ++ x ++ " set to " ++ v.display ++ ".")) ∧
    ((∃ t ∈ ts, t.kind = .identifier) →
      s.Answers source (calculate s.state.bindings source) (fun _ state => state) (·.display)) ∧
    ∀ a b ta tb, tokenize a = .ok [ta] → (ta.kind = .number ∨ ta.kind = .string) →
      tokenize b = .ok [tb] → (tb.kind = .number ∨ tb.kind = .string) →
      ∃ va vb, calculate s.state.bindings a = .ok va ∧ calculate s.state.bindings b = .ok vb ∧
        s.Answers (source ++ " ? " ++ a ++ " : " ++ b) (calculate s.state.bindings source)
          (fun _ state => state) (fun v => (if v = .boolean true then va else vb).display) := by
  rw [calculate_of_forms htokens hforms]
  refine ⟨fun fault h => ?_, fun x hx => ?_, fun hnamed => ?_,
    fun a b ta tb ha hka hb hkb => ?_⟩
  · exact Tree.value_error hforms.proper (readable_of_tokenize htokens hforms) h
  · exact answers_bound htokens hforms s hx
  · exact answers_said htokens hforms s hnamed
  · obtain ⟨hoa, va, hva⟩ := literal_value ha hka
    obtain ⟨hob, vb, hvb⟩ := literal_value hb hkb
    exact ⟨va, vb, (hva _).2, (hvb _).2, answers_tested htokens hforms s ha hb hoa hob
      (fun vars => (hva vars).1) fun vars => (hvb vars).1⟩

omit htokens hforms in
/-- Statements with `a + 1`, where `a` is 2 and where it is not defined. -/
theorem answers_sum :
    let s : Session := { state := { bindings := [("a", .number 2)] } }
    (∃ ts e, tokenize "a + 1" = .ok ts ∧ Forms 0 ts e ∧ ∃ t ∈ ts, t.kind = .identifier) ∧
    calculate s.state.bindings "a + 1" = .ok (.number 3) ∧
    s.runIncremental "let b = a + 1" =
      ({ s with state := s.state.set "b" (.number 3) }.say "Stik: Variable b set to 3.",
        ⟨["Stik: Variable b set to 3."], [], none⟩) ∧
    s.runIncremental "a + 1" = (s.say "3", ⟨["3"], [], none⟩) ∧
    s.runIncremental "a + 1 ? 2 : \"no\"" = (s.say "no", ⟨["no"], [], none⟩) ∧
    calculate [] "a + 1" = .error (.script ⟨.undefined "a", some 1, some 1⟩) ∧
    ({} : Session).Answers "let b = a + 1" (calculate [] "a + 1")
      (fun v state => state.set "b" v)
      (fun v => sayPrefix ++ "Variable b set to " ++ v.display ++ ".") ∧
    ({} : Session).Answers "a + 1" (calculate [] "a + 1") (fun _ state => state) (·.display) := by
  intro s
  have htokens : tokenize "a + 1" = .ok [⟨.identifier, "a", ⟨1, 1⟩⟩,
      ⟨.operator .plus, "+", ⟨1, 3⟩⟩, ⟨.number, "1", ⟨1, 5⟩⟩] := by
    decide +kernel
  have hforms : Forms 0 [⟨.identifier, "a", ⟨1, 1⟩⟩, ⟨.operator .plus, "+", ⟨1, 3⟩⟩,
      ⟨.number, "1", ⟨1, 5⟩⟩] _ :=
    .binary (t := ⟨.operator .plus, "+", ⟨1, 3⟩⟩) rfl (by decide)
      (.operand (t := ⟨.identifier, "a", ⟨1, 1⟩⟩) rfl) (.operand (t := ⟨.number, "1", ⟨1, 5⟩⟩) rfl)
  have hnamed : ∃ t ∈ ([⟨.identifier, "a", ⟨1, 1⟩⟩, ⟨.operator .plus, "+", ⟨1, 3⟩⟩,
      ⟨.number, "1", ⟨1, 5⟩⟩] : List Token), t.kind = .identifier :=
    ⟨_, List.mem_cons_self .., rfl⟩
  have hb : IsName "b" := ⟨by decide, by decide⟩
  have hvalue : calculate s.state.bindings "a + 1" = .ok (.number 3) := by decide +kernel
  have hdisplay : (Value.number 3).display = "3" := by decide +kernel
  obtain ⟨-, hbound, hsaid, htested⟩ := answers_expression htokens hforms s
  obtain ⟨va, vb, -, hno, htested⟩ := htested "2" "\"no\"" _ _ (tokenize_single (by decide))
    (Or.inl rfl) (tokenize_single (by decide)) (Or.inr rfl)
  have hno' : calculate s.state.bindings "\"no\"" = .ok (.text "no") := by decide +kernel
  obtain rfl : vb = .text "no" := Except.ok.inj (hno.symm.trans hno')
  replace hbound := hbound "b" hb
  replace hsaid := hsaid hnamed
  simp only [Answers, hvalue, hdisplay] at hbound hsaid htested
  obtain ⟨-, hunbound, hunsaid, -⟩ := answers_expression htokens hforms {}
  exact ⟨⟨_, _, htokens, hforms, hnamed⟩, hvalue, hbound, hsaid, htested,
    by decide +kernel, hunbound "b" hb, hunsaid hnamed⟩

end Session

end GridSketch
