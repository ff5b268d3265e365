import GridSketch.Proofs.Number.Literal
import GridSketch.Proofs.Script.LeadIn
import GridSketch.Session

/-!
# Statements as they are meant

A phrase is one statement with all of its parts: what it is made of and what it does, without a
cursor. A program is a list of phrases, and it is meant to do one after the other. Nothing separates
the tokens of two phrases.

* `Phrase.tokens` writes a phrase down, `Phrase.run` is what it does.
* `Phrase.MayFollow`: which phrase may stand directly after which.
* `execute_program`: a run over the tokens of a program does what its phrases do.
-/

namespace GridSketch

open Expression GridSketch.Action

/-! ## The parts of a phrase -/

/-- A token of a kind. -/
abbrev TokenOf (kind : TokenKind) := {t : Token // t.kind = kind}

/-- A keyword in its own spelling. -/
abbrev Lead (k : Keyword) := {t : Token // t.kind = .keyword k ∧ t.text = k.word}

/-- A token that stands for a value on its own. -/
abbrev Operand := {t : Token // t.kind.isOperand = true}

/-- A whole number without a sign and with no more digits than can be read. -/
structure Count where
  token : Token
  kind_eq : token.kind = .number
  digits : ∀ c ∈ token.text.toList, Text.isDecimalDigit c = true
  nonempty : token.text.toList ≠ []
  short : token.text.toList.length ≤ Number.maxIntegerDigits

/-- How many a count says. -/
def Count.size (n : Count) : Nat := Number.Numeral.digitsValue n.token.text.toList

/-- An expression: its tokens and its tree. -/
structure Formula where
  tokens : List Token
  tree : Tree
  forms : Forms 0 tokens tree

/-- The value of an expression is that of its tree. -/
def Formula.value (e : Formula) : Action Value := consult e.tree.value

/-- A name occurs in the expression. -/
def Formula.Named (e : Formula) : Prop := ∃ t ∈ e.tokens, t.kind = .identifier

/-- A statement as it is meant. -/
inductive Phrase where
  | circle (lead : Lead .circle) (x y radius : Operand)
  | rectangle (lead : Lead .rectangle) (x y width height : Operand)
  | line (lead : Lead .line) (x₁ y₁ x₂ y₂ : Operand)
  | color (lead : Lead .color) (name : TokenOf .string)
  | clear (lead : Lead .clear)
  | binding (lead : Lead .let_) (name : TokenOf .identifier) (sign : TokenOf .assign)
      (e : Formula)
  | assignment (name : TokenOf .identifier) (sign : TokenOf .assign) (e : Formula)
  | expression (e : Formula) (named : e.Named)
  | loop (lead : Lead .stik) (count : Count) (message : TokenOf .string)
  | choice (condition : Formula) (mark : TokenOf .question) (yes : Operand)
      (separator : TokenOf .colon) (no : Operand)

namespace Phrase

/-- The tokens of a phrase. -/
def tokens : Phrase → List Token
  | circle lead x y radius => [lead, x, y, radius]
  | rectangle lead x y width height => [lead, x, y, width, height]
  | line lead x₁ y₁ x₂ y₂ => [lead, x₁, y₁, x₂, y₂]
  | color lead name => [lead, name]
  | clear lead => [lead]
  | binding lead name sign e => lead :: name :: sign :: e.tokens
  | assignment name sign e => name :: sign :: e.tokens
  | expression e _ => e.tokens
  | loop lead count message => [lead, count.token, message]
  | choice condition mark yes separator no =>
    condition.tokens ++ [mark.1, yes.1, separator.1, no.1]

/-- The value of a draw argument. -/
def argument (t : Token) : Action Float := consult (Statement.scalar · t)

/-- Draws a shape and says so. -/
def put (shape : Shape) : Action Unit := do
  change (·.draw shape)
  say (sayPrefix ++ shape.describe)

/-- Sets a variable to the value of an expression and says so. -/
def bind (name : String) (e : Formula) : Action Unit := do
  let v ← e.value
  change (·.set name v)
  say (sayPrefix ++ "Variable " ++ name ++ " set to " ++ v.display ++ ".")

/-- What a phrase does. -/
def run : Phrase → Action Unit
  | circle _ x y radius => do
    put (.circle ⟨← argument x, ← argument y⟩ (← argument radius))
  | rectangle _ x y width height => do
    put (.rectangle ⟨← argument x, ← argument y⟩ ⟨← argument width, ← argument height⟩)
  | line _ x₁ y₁ x₂ y₂ => do
    put (.line ⟨← argument x₁, ← argument y₁⟩ ⟨← argument x₂, ← argument y₂⟩)
  | color _ name => do
    change ({ · with color := name.1.text })
    say (sayPrefix ++ "Drawing color set to " ++ name.1.text ++ ".")
  | clear _ => do
    change (·.clear)
    say (sayPrefix ++ "Canvas cleared.")
  | binding _ name _ e | assignment name _ e => bind name.1.text e
  | expression e _ => do say (← e.value).display
  | loop _ count message => (List.replicate count.size message.1.text).forM say
  | choice condition _ yes _ no => do
    let v ← condition.value
    say (← consult (operand · (if v.holds then yes.1 else no.1))).display

/-- Whether a phrase ends in an expression, which tokens after it may join. -/
def endsOpen : Phrase → Bool
  | binding .. | assignment .. | expression .. => true
  | _ => false

/-- A phrase that begins with a signed number may not directly follow one that ends in an
    expression. -/
def MayFollow (p q : Phrase) : Prop :=
  p.endsOpen = true → ∀ t ∈ q.tokens.head?, t.signSplit? = none

end Phrase

/-! ## What a run does at the tokens of a phrase -/

variable {rest : List Token}

theorem executeFrom_draw (rest : List Token) {lead : Token} {k : Keyword}
    (hkind : lead.kind = .keyword k) (htext : lead.text = k.word)
    (hk : k = .circle ∨ k = .rectangle ∨ k = .line)
    (arguments : List Token) (ha : arguments.length = k.arity) :
    executeFrom [] (lead :: (arguments ++ rest)) =
      arguments.mapM Phrase.argument >>= fun numbers =>
        match Shape.ofArguments? k numbers with
        | none => fail (.breach (.unknownShape lead.text numbers.length))
        | some shape => (do Phrase.put shape; executeFrom [] rest) := by
  have hdispatch : dispatch [] lead (arguments ++ rest) =
      .complete <$> Statement.draw lead (arguments ++ rest) := by
    rcases hk with rfl | rfl | rfl <;> simp only [dispatch, hkind]
  rw [executeFrom_cons, hdispatch, Statement.draw, htext, Keyword.ofWord?_word]
  simp only [List.take_left' ha, List.drop_left' ha, ha, Nat.lt_irrefl, if_false, Phrase.put,
    map_eq_pure_bind, bind_assoc]
  refine bind_congr fun numbers => ?_
  cases Shape.ofArguments? k numbers with
  | none => rfl
  | some shape => simp [Move.skipped, Move.rest]

theorem Formula.Named.split {e : Formula} (h : e.Named) :
    ∃ pre name post, e.tokens = pre ++ name :: post ∧ name.kind = .identifier ∧
      ∀ t ∈ pre, t.kind ≠ .identifier := by
  obtain ⟨t, ht, hk⟩ := h
  have hsome : (e.tokens.find? (·.kind = .identifier)).isSome :=
    List.find?_isSome.2 ⟨t, ht, decide_eq_true hk⟩
  obtain ⟨name, hfind⟩ := Option.isSome_iff_exists.1 hsome
  obtain ⟨hname, pre, post, heq, hpre⟩ := List.find?_eq_some_iff_append.1 hfind
  exact ⟨pre, name, post, heq, by simpa using hname, fun u hu => by simpa using hpre u hu⟩

theorem Formula.kind_ne (e : Formula) {kind : TokenKind}
    (hkind : kind = .assign ∨ kind = .question) : ∀ t ∈ e.tokens, t.kind ≠ kind := by
  rintro t ht rfl
  rcases e.forms.kinds t ht with h | h <;> rcases hkind with hk | hk <;>
    simp [hk, Statement.mayLead] at h

theorem Formula.kind_ne_of_not_named {e : Formula} (he : ¬ e.Named) :
    ∀ t ∈ e.tokens, t.kind ≠ .identifier := fun t ht hk => he ⟨t, ht, hk⟩

theorem leads_of_not_name {e : Formula} {ts : List Token} (hsub : ∀ t ∈ ts, t ∈ e.tokens)
    (h : ∀ t ∈ ts, t.kind ≠ .identifier) : ∀ t ∈ ts, t.kind.leads = false := by
  intro t ht
  have := (e.forms.kinds t (hsub t ht)).resolve_left (h t ht)
  cases hk : t.kind <;> simp_all [Statement.mayLead, TokenKind.leads]

theorem executeFrom_unnamed {e : Formula} (h : ¬ e.Named) :
    executeFrom [] (e.tokens ++ rest) = executeFrom e.tokens.reverse rest := by
  rw [executeFrom_skip (leads_of_not_name (fun _ ht => ht) (Formula.kind_ne_of_not_named h)),
    List.append_nil]

/-- A run works out an expression with a name; it skips it if it is a condition, and says its value
    if not. -/
theorem executeFrom_named {e : Formula} (h : e.Named) (hr : Stops rest)
    (hsign : rest.head?.any (·.kind = .assign) = false) :
    executeFrom [] (e.tokens ++ rest) =
      e.value >>= fun v =>
        if rest.head?.any (·.kind = .question) then executeFrom e.tokens.reverse rest
        else (do say v.display; executeFrom [] rest) := by
  obtain ⟨pre, name, post, heq, hname, hpre⟩ := h.split
  have hforms := e.forms
  rw [heq] at hforms
  have hafter : (post ++ rest).head?.any (·.kind = .assign) = false := by
    cases post with
    | nil => exact hsign
    | cons t post =>
      simpa using e.kind_ne (.inl rfl) t (by simp [heq])
  have hskip : ∀ t ∈ pre, t.kind.leads = false :=
    leads_of_not_name (e := e) (fun t ht => by simp [heq, ht]) hpre
  rw [heq, List.append_assoc, List.cons_append, executeFrom_skip hskip, List.append_nil,
    executeFrom_cons, dispatch_first_name hforms hname hpre hr hafter, bind_assoc]
  congr 1
  funext v
  split
  · simp [Move.skipped, Move.rest, Nat.add_right_comm _ _ 1]
  · simp [Move.skipped, Move.rest]

theorem executeFrom_mark (e : Formula) (mark : TokenOf .question) (yes no : Operand)
    (separator : TokenOf .colon) :
    executeFrom e.tokens.reverse (mark.1 :: yes.1 :: separator.1 :: no.1 :: rest) =
      (do
        (Phrase.choice e mark yes separator no).run
        executeFrom [] rest) := by
  have hne : e.tokens ≠ [] := by
    obtain ⟨t, ts, heq, -⟩ := e.forms.first
    simp [heq]
  have heval : (fun vars => evaluate vars e.tokens) =
      fun vars => (e.tree.value vars).map (·, []) :=
    funext fun _ => e.forms.evaluate_self
  refine executeFrom_complete ?_
  simp only [dispatch, mark.2, Statement.choice, List.isEmpty_reverse, List.isEmpty_iff, hne,
    separator.2, List.reverse_reverse, heval, consult_map, if_true, if_false, Phrase.run,
    Formula.value]
  simp

theorem executeFrom_loop (lead : Lead .stik) (count : Count) (message : TokenOf .string) :
    executeFrom [] (lead.1 :: count.token :: message.1 :: rest) =
      (do
        (Phrase.loop lead count message).run
        executeFrom [] rest) := by
  obtain ⟨lead, hlead, -⟩ := lead
  have hdigits : count.token.text.toList.all Text.isDigit = true :=
    List.all_eq_true.2 fun c hc => by simp [Text.isDigit, count.digits c hc]
  have hne : count.token.text ≠ "" := fun h => count.nonempty (by simp [h])
  have hread := Number.integer?_digits count.nonempty count.digits count.short
  rw [String.ofList_toList] at hread
  refine executeFrom_complete ?_
  simp [dispatch, hlead, Statement.loop, count.kind_eq, message.2, hdigits, hne, hread, Phrase.run,
    Count.size]

theorem assign_formula (name : Token) (e : Formula) (hr : Stops rest) :
    Statement.assign name (e.tokens ++ rest) = (do Phrase.bind name.text e; return rest) := by
  have heval : (fun vars => evaluate vars (e.tokens ++ rest)) =
      fun vars => (e.tree.value vars).map (·, rest) :=
    funext fun vars => evaluate_of_forms e.forms hr
  simp only [Statement.assign, heval, consult_map, Phrase.bind, Formula.value]
  simp

/-- **A run at the tokens of a phrase does what the phrase does,** and goes on after it with nothing
    skipped. -/
theorem executeFrom_phrase (p : Phrase) (hr : p.endsOpen = true → Apart rest) :
    executeFrom [] (p.tokens ++ rest) = (do p.run; executeFrom [] rest) := by
  cases p with
  | circle lead x y radius =>
    have h := executeFrom_draw rest lead.2.1 lead.2.2 (by simp) [x.1, y.1, radius.1] rfl
    simp only [Phrase.tokens, List.cons_append, List.nil_append] at h ⊢
    simp [h, Phrase.run, Shape.ofArguments?]
  | rectangle lead x y width height =>
    have h := executeFrom_draw rest lead.2.1 lead.2.2 (by simp) [x.1, y.1, width.1, height.1] rfl
    simp only [Phrase.tokens, List.cons_append, List.nil_append] at h ⊢
    simp [h, Phrase.run, Shape.ofArguments?]
  | line lead x₁ y₁ x₂ y₂ =>
    have h := executeFrom_draw rest lead.2.1 lead.2.2 (by simp) [x₁.1, y₁.1, x₂.1, y₂.1] rfl
    simp only [Phrase.tokens, List.cons_append, List.nil_append] at h ⊢
    simp [h, Phrase.run, Shape.ofArguments?]
  | color lead name =>
    obtain ⟨lead, hkind, -⟩ := lead
    refine executeFrom_complete ?_
    simp [dispatch, hkind, Statement.color, name.2, Phrase.run]
  | clear lead =>
    obtain ⟨lead, hkind, -⟩ := lead
    refine executeFrom_complete ?_
    simp [dispatch, hkind, Statement.clear, Phrase.run]
  | binding lead name sign e =>
    have hassign := assign_formula name.1 e (hr rfl).stops
    obtain ⟨lead, hkind, -⟩ := lead
    refine executeFrom_complete ?_
    simp [dispatch, hkind, Statement.binding, name.2, sign.2, hassign, Phrase.run]
  | assignment name sign e =>
    have hassign := assign_formula name.1 e (hr rfl).stops
    refine executeFrom_complete ?_
    simp [dispatch, name.2, dispatchName, sign.2, hassign, Phrase.run]
  | expression e named =>
    have hr := hr rfl
    have hquestion := hr.not_kind (.inr rfl)
    rw [Phrase.tokens, executeFrom_named named hr.stops (hr.not_kind (.inl rfl)), hquestion]
    simp [Phrase.run]
  | loop lead count message => exact executeFrom_loop lead count message
  | choice condition mark yes separator no =>
    by_cases h : condition.Named
    · have hmark : mark.1.extends = false := by simp [Token.extends, Token.signSplit?, mark.2]
      rw [Phrase.tokens, List.append_assoc, executeFrom_named h]
      · simp only [List.cons_append, List.nil_append, List.head?_cons, Option.any_some, mark.2,
          decide_true, if_true, executeFrom_mark, Phrase.run, Formula.value, bind_assoc]
        exact consult_twice _ _
      · rintro t ⟨⟩
        exact hmark
      · simp [mark.2]
    · rw [Phrase.tokens, List.append_assoc, executeFrom_unnamed h]
      exact executeFrom_mark condition mark yes no separator

theorem execute_phrase (p : Phrase) : execute p.tokens = p.run := by
  have h : executeFrom [] (p.tokens ++ []) = _ := executeFrom_phrase p fun _ => apart_nil
  rw [List.append_nil] at h
  rw [execute, h]
  simp

/-! ## Programs -/

/-- The first token of a phrase joins what stands before it only if it is a number with a sign. -/
theorem Phrase.first (p : Phrase) :
    ∃ t ts, p.tokens = t :: ts ∧ (t.signSplit? = none → t.joins = false) := by
  have hformula : ∀ e : Formula, ∃ t ts, e.tokens = t :: ts ∧
      (t.signSplit? = none → t.joins = false) := by
    intro e
    obtain ⟨t, ts, heq, hk | hk⟩ := e.forms.first
    · exact ⟨t, ts, heq, fun hs => by simp [Token.joins, Token.extends, hs, hk]⟩
    · refine ⟨t, ts, heq, fun hs => ?_⟩
      cases hkind : t.kind <;>
        simp_all [Token.joins, Token.extends, Statement.mayOpen]
  cases p with
  | circle lead | rectangle lead | line lead | color lead | clear lead | binding lead | loop lead =>
    exact ⟨lead.1, _, rfl, fun hs => by simp [Token.joins, Token.extends, hs, lead.2.1]⟩
  | assignment name => exact ⟨name.1, _, rfl, fun hs => by
      simp [Token.joins, Token.extends, hs, name.2]⟩
  | expression e => exact hformula e
  | choice condition =>
    obtain ⟨t, ts, heq, ht⟩ := hformula condition
    exact ⟨t, _, by rw [Phrase.tokens, heq]; rfl, ht⟩

theorem Phrase.apart {p : Phrase} {ps : List Phrase} (h : (p :: ps).IsChain MayFollow)
    (hp : p.endsOpen = true) : Apart (ps.flatMap Phrase.tokens) := by
  cases ps with
  | nil => exact apart_nil
  | cons q ps =>
    obtain ⟨t, ts, heq, ht⟩ := q.first
    intro u hu
    obtain rfl : t = u := by simpa [heq] using hu
    exact ht ((List.isChain_cons_cons.1 h).1 hp t (by simp [heq]))

theorem executeFrom_program {program : List Phrase} (h : program.IsChain Phrase.MayFollow) :
    executeFrom [] (program.flatMap Phrase.tokens) = (do program.forM Phrase.run; return []) := by
  induction program with
  | nil => simp
  | cons p program ih =>
    rw [List.flatMap_cons, executeFrom_phrase p (Phrase.apart h), ih h.tail]
    simp

/-- **A run over the tokens of a program does what its phrases do,** one after the other: from every
    session it leaves the same state, says the same lines and ends in the same fault, if in any. -/
theorem execute_program {program : List Phrase} (h : program.IsChain Phrase.MayFollow) :
    execute (program.flatMap Phrase.tokens) = program.forM Phrase.run := by
  rw [execute, executeFrom_program h]
  simp

/-- The program `let r = 4 + 2 (r + 1) * 2 circle 40 12 r r > 5 ? "big" : "small"`. -/
def Phrase.sample : List Phrase :=
  let r : Operand := ⟨⟨.identifier, "r", {}⟩, rfl⟩
  let two : Operand := ⟨⟨.number, "2", {}⟩, rfl⟩
  [.binding ⟨⟨.keyword .let_, "let", {}⟩, rfl, rfl⟩ ⟨r.1, rfl⟩ ⟨⟨.assign, "=", {}⟩, rfl⟩
      ⟨_, _, .binary (t := ⟨.operator .plus, "+", {}⟩) rfl (by decide)
        (.operand (t := ⟨.number, "4", {}⟩) rfl) (.operand two.2)⟩,
    .expression
      ⟨_, _, .binary (t := ⟨.operator .star, "*", {}⟩) rfl (by decide)
        (@Forms.group _ ⟨.leftParen, "(", {}⟩ _ _ ⟨.rightParen, ")", {}⟩ rfl rfl
          (.binary (t := ⟨.operator .plus, "+", {}⟩) rfl (by decide) (.operand r.2)
            (.operand (t := ⟨.number, "1", {}⟩) rfl)))
        (.operand two.2)⟩
      ⟨r.1, by simp, rfl⟩,
    .circle ⟨⟨.keyword .circle, "circle", {}⟩, rfl, rfl⟩ ⟨⟨.number, "40", {}⟩, rfl⟩
      ⟨⟨.number, "12", {}⟩, rfl⟩ r,
    .choice
      ⟨_, _, .binary (t := ⟨.operator .gt, ">", {}⟩) rfl (by decide) (.operand r.2)
        (.operand (t := ⟨.number, "5", {}⟩) rfl)⟩
      ⟨⟨.question, "?", {}⟩, rfl⟩ ⟨⟨.string, "big", {}⟩, rfl⟩ ⟨⟨.colon, ":", {}⟩, rfl⟩
      ⟨⟨.string, "small", {}⟩, rfl⟩]

/-- It binds `r`, says the value of an expression, draws a circle and chooses the first text. -/
theorem execute_sample :
    let lines := ["Stik: Variable r set to 6.", "14",
      "Stik: Circle drawn at (40, 12) with radius 6.", "big"]
    let left : Session :=
      { state := { bindings := [("r", .number 6)], shapes := [⟨.circle ⟨40, 12⟩ 6, "black"⟩] }
        log := lines
        shown := lines }
    Phrase.sample.IsChain Phrase.MayFollow ∧
      execute (Phrase.sample.flatMap Phrase.tokens) = Phrase.sample.forM Phrase.run ∧
      ({} : Session).after (execute (Phrase.sample.flatMap Phrase.tokens)) = (left, none) := by
  intro lines left
  have h : Phrase.sample.IsChain Phrase.MayFollow := by
    simp [Phrase.sample, Phrase.MayFollow, Phrase.tokens, Token.signSplit?]
  have hprogram := execute_program h
  refine ⟨h, hprogram, ?_⟩
  rw [hprogram]
  decide +kernel

end GridSketch
