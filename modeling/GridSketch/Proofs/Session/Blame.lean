import GridSketch.Proofs.Script.Blame
import GridSketch.Proofs.Session.Atomic

/-!
# Every failure points at a token

What a session says about a failure has a place, and there is a token of the text at that place.
One failure has none: that of an assignment at the end of the text with nothing after its sign.

* `Session.runIncremental_blames`: where the failures of a run and of the calculator point.
-/

namespace GridSketch

namespace Session

variable {s : Session} {source : String} {ts : List Token} {d : Diagnostic}

theorem runIncremental_fault (h : tokenize source = .ok ts)
    (hfault : (s.runIncremental source).2.fault? = some (.script d)) :
    d.Blames ts ∨ d = .ofNothing ∧
      ∃ deeds p, Trace ⟨[], ts, s⟩ deeds p ∧ Dangling p.tokens := by
  obtain ⟨deeds, p, htrace, -, hends⟩ := runIncremental_trace s h
  rw [hfault] at hends
  obtain ⟨t, after, htokens, herror⟩ := hends
  obtain ⟨hskipped, hmem⟩ := htrace.forall_mem (P := (· ∈ ts)) ⟨by simp, fun u hu => hu⟩
  rw [htokens] at hmem
  by_cases hd : Dangling (t :: after)
  · rw [dispatch_dangling hd] at herror
    cases herror
    exact Or.inr ⟨rfl, deeds, p, htrace, htokens ▸ hd⟩
  · exact Or.inl (dispatch_blames hskipped hmem hd _ _ _ herror)

theorem runIncremental_of_dangling {deeds : List Deed} {p : Stage} (h : tokenize source = .ok ts)
    (htrace : Trace ⟨[], ts, s⟩ deeds p) (hd : Dangling p.tokens) :
    (s.runIncremental source).2.fault? = some (.script .ofNothing) := by
  have hend : (executeFrom p.skipped p.tokens).run p.session =
      .error (.script .ofNothing) p.session := by
    obtain ⟨skipped, tokens, session⟩ := p
    cases tokens with
    | nil => cases hd
    | cons t after => rw [executeFrom_cons, EStateM.run_bind, dispatch_dangling hd]
  rw [runIncremental_of_tokens h]
  dsimp only
  rw [(execute_result ts s).2, htrace.run, hend]
  rfl

/-- **Every failure points at a token.** Take a text that can be read.

    * A failure of its run has the place of one of its tokens, or has no place. It has none if, and
      only if, the run comes to a name and the sign of assignment that end the text.
    * So it is with the text as one expression, and there only the empty one has no place.

    This includes the minus sign that is made of a number with a sign: it stands where the number
    does, and of the tokens of an expression that may fail it is the only one that is made. -/
theorem runIncremental_blames :
    (∀ (s : Session) (source : String) (d : Diagnostic),
      (s.runIncremental source).2.fault? = some (.script d) → d.cause.kind ≠ .lexical →
        ∃ ts, tokenize source = .ok ts ∧ (d.Blames ts ∨ d = ⟨.emptyExpression, none, none⟩)) ∧
    (∀ (s : Session) (source : String),
      (∃ d, (s.runIncremental source).2.fault? = some (.script d) ∧ d.line = none) ↔
        ∃ ts deeds p, tokenize source = .ok ts ∧ Trace ⟨[], ts, s⟩ deeds p ∧ Dangling p.tokens) ∧
    (∀ (vars : Variables) (source : String) (d : Diagnostic),
      Expression.calculate vars source = .error (.script d) → d.cause.kind ≠ .lexical →
        ∃ ts, tokenize source = .ok ts ∧ (d.Blames ts ∨ d = ⟨.emptyExpression, none, none⟩)) ∧
    (∀ (vars : Variables) (source : String),
      (∃ d, Expression.calculate vars source = .error (.script d) ∧ d.line = none) ↔
        tokenize source = .ok []) ∧
    ∀ ts p rest u, Expression.toPostfix ts = .ok (p, rest) → u ∈ p → u.kind ≠ .number →
      ∃ t ∈ ts, u.position = t.position ∧ (u = t ∨ ∃ number, t.signSplit? = some (u, number)) := by
  refine ⟨fun s source d h hkind => ?_, fun s source => ⟨?_, ?_⟩, fun vars source d h hkind => ?_,
    fun vars source => ⟨?_, fun h => ?_⟩, fun ts p rest u h hu hkind => ?_⟩
  · cases htokens : tokenize source with
    | error d' =>
      rw [runIncremental_of_refused htokens] at h
      cases h
      exact absurd (Lexer.tokens_error htokens).1 hkind
    | ok ts => exact ⟨ts, rfl, (runIncremental_fault htokens h).imp_right And.left⟩
  · rintro ⟨d, h, hline⟩
    cases htokens : tokenize source with
    | error d' =>
      rw [runIncremental_of_refused htokens] at h
      cases h
      exact absurd hline (Lexer.tokens_error htokens).2
    | ok ts =>
      rcases runIncremental_fault htokens h with hblames | ⟨-, deeds, p, htrace, hd⟩
      · exact absurd hline hblames.line
      · exact ⟨ts, deeds, p, rfl, htrace, hd⟩
  · rintro ⟨ts, deeds, p, htokens, htrace, hd⟩
    exact ⟨_, runIncremental_of_dangling htokens htrace hd, rfl⟩
  · rcases Expression.calculate_fault h with htokens | ⟨ts, htokens, hblames⟩
    · exact absurd (Lexer.tokens_error htokens).1 hkind
    · exact ⟨ts, htokens, hblames.imp_right And.right⟩
  · rintro ⟨d, h, hline⟩
    rcases Expression.calculate_fault h with htokens | ⟨ts, htokens, hblames | ⟨rfl, -⟩⟩
    · exact absurd hline (Lexer.tokens_error htokens).2
    · exact absurd hline hblames.line
    · exact htokens
  · exact ⟨_, Expression.calculate_nil h vars, rfl⟩
  · rcases Expression.toPostfix_made h u hu hkind with ht | ⟨t, ht, number, hs⟩
    · exact ⟨u, ht, rfl, Or.inl rfl⟩
    · exact ⟨t, ht, Expression.signSplit?_position hs, Or.inr ⟨number, hs⟩⟩

/-- A text cannot be subtracted from, and the number with its sign is to blame. -/
example : (({} : Session).runIncremental "a = \"x\" a -2").2.fault? =
    some (.script ⟨.operandTypes "-" .text .number, some 1, some 11⟩) := by
  decide +kernel

end Session

end GridSketch
