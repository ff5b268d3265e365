import GridSketch.Proofs.Cursor.Run
import GridSketch.Proofs.Script.Limits
import GridSketch.Proofs.Session.Atomic
import GridSketch.Proofs.Token.Boundary
import GridSketch.Proofs.Token.Place

/-!
# How a session ends early

A text is run to its end or to a failure of the script, which is said, unless it comes to a loop
whose count has too many digits. That ends the run, and nothing is said.

* `Session.runIncremental_safe`: what can end a run, with a cursor or without.
-/

namespace GridSketch

namespace Session

variable {s : Session} {source : String} {ts : List Token}

theorem stage_spelled {deeds : List Deed} {p : Stage} (h : tokenize source = .ok ts)
    (htrace : Trace ⟨[], ts, s⟩ deeds p) :
    (∀ u ∈ p.skipped, u.Spelled) ∧ ∀ u ∈ p.tokens, u.Spelled :=
  htrace.forall_mem ⟨by simp, Lexer.tokens_spells h⟩

/-- **A run that comes to a loop whose count is too long** ends there. Nothing is said about it. -/
theorem runIncremental_of_longLoop {deeds : List Deed} {p : Stage} {b : Breach}
    (h : tokenize source = .ok ts) (htrace : Trace ⟨[], ts, s⟩ deeds p)
    (hlong : LongLoop p.tokens b) :
    s.runIncremental source =
      (p.session, ⟨deeds.flatMap (·.lines), p.session.state.shapes, some (.breach b)⟩) := by
  obtain ⟨hskipped, htokens⟩ := stage_spelled h htrace
  have hend : (executeFrom p.skipped p.tokens).run p.session = .error (.breach b) p.session := by
    obtain ⟨skipped, tokens, session⟩ := p
    cases tokens with
    | nil => cases hlong
    | cons t after =>
      have hbreach : (dispatch skipped t after).run session = .error (.breach b) session :=
        (dispatch_breach hskipped htokens).2 ⟨rfl, hlong⟩
      rw [executeFrom_cons, EStateM.run_bind, hbreach]
  have hrun : (GridSketch.execute ts).run s = .error (.breach b) p.session := by
    rw [GridSketch.execute, EStateM.run_bind, htrace.run, hend]
  rw [runIncremental_of_tokens h, hrun]
  dsimp only [sessionOf, faultOf, sayFault]
  rw [linesSince_adds htrace.adds]

/-- **There are such texts:** a loop with any count of more than 4300 digits ends a run. -/
theorem runIncremental_digits {digits : String}
    (hds : ∀ c ∈ digits.toList, Text.isDecimalDigit c = true) (hlong : 4300 < digits.length)
    (s : Session) :
    s.runIncremental ("stik" ++ " " ++ (digits ++ " " ++ "\"again\"")) =
      (s, ⟨[], s.state.shapes, some (.breach (.unreadableCount digits))⟩) := by
  have hne : digits.toList ≠ [] := by
    intro hnil
    rw [← String.length_toList, hnil] at hlong
    exact absurd hlong (by decide)
  have hlead : tokenize "stik" = .ok [⟨.keyword .stik, "stik", {}⟩] := tokenize_single (by decide)
  have hmessage : tokenize "\"again\"" = .ok [⟨.string, "again", {}⟩] :=
    tokenize_single (by decide)
  have hcount : tokenize digits = .ok [⟨.number, digits, {}⟩] := by
    have hfirst : firstLexeme? (digits.toList ++ []) = some (.number, digits.toList.length) :=
      firstLexeme?_number (Or.inl (.whole hne hds)) (by simp)
    rw [List.append_nil] at hfirst
    rw [tokenize_single hfirst]
    simp [TokenKind.textOf]
  obtain ⟨p₁, h₁⟩ := tokenize_spaced hcount hmessage
  obtain ⟨p₂, h₂⟩ := tokenize_spaced hlead h₁
  exact runIncremental_of_longLoop h₂ (.here _) (.intro rfl rfl hds hlong rfl)

theorem longLoop_of_runIncremental {b : Breach}
    (h : (s.runIncremental source).2.fault? = some (.breach b)) :
    ∃ ts deeds p, tokenize source = .ok ts ∧ Trace ⟨[], ts, s⟩ deeds p ∧ LongLoop p.tokens b := by
  cases htokens : tokenize source with
  | error d =>
    rw [runIncremental_of_refused htokens] at h
    cases h
  | ok ts =>
    obtain ⟨deeds, p, htrace, -, hends⟩ := runIncremental_trace s htokens
    rw [h] at hends
    obtain ⟨t, after, htoken, herror⟩ := hends
    obtain ⟨hskipped, hspelled⟩ := stage_spelled htokens htrace
    rw [htoken] at hspelled
    refine ⟨ts, deeds, p, rfl, htrace, ?_⟩
    rw [htoken]
    exact ((dispatch_breach hskipped hspelled).1 herror).2

/-- **Only a failure of the script ends a run early,** with one exception. A run with a cursor, and
    the working out of an expression with a cursor, find everything they look up. An expression has
    a value, or the script is at fault. A run of a text breaks a limit if, without a failure before,
    it comes to a loop whose count has more than 4300 digits and whose message is a string; then
    nothing is said about it, and the session is the one that the statements before it have left. -/
theorem runIncremental_safe :
    (∀ ts, Cursor.execute ts = Cursor.act (GridSketch.execute ts)) ∧
    (∀ vars source,
      Cursor.calculate vars source = Halt.ofFault (Expression.calculate vars source)) ∧
    (∀ vars source fault, Expression.calculate vars source = .error fault →
      ∃ d, fault = .script d) ∧
    ∀ (s : Session) (source : String),
      (∀ b, (s.runIncremental source).2.fault? = some (.breach b) ↔
        ∃ ts deeds p, tokenize source = .ok ts ∧ Trace ⟨[], ts, s⟩ deeds p ∧
          LongLoop p.tokens b) ∧
      ∀ ts deeds p b, tokenize source = .ok ts → Trace ⟨[], ts, s⟩ deeds p →
        LongLoop p.tokens b →
        s.Adds (deeds.flatMap (·.lines)) (sessionAfter s deeds) ∧
          s.runIncremental source = (sessionAfter s deeds,
            ⟨deeds.flatMap (·.lines), (sessionAfter s deeds).state.shapes, some (.breach b)⟩) := by
  refine ⟨Cursor.execute_eq, Cursor.calculate_eq, fun vars source fault h => ?_,
    fun s source => ⟨fun b => ⟨longLoop_of_runIncremental, ?_⟩, ?_⟩⟩
  · cases fault with
    | script d => exact ⟨d, rfl⟩
    | breach b => exact absurd h (Expression.calculate_within source b)
  · rintro ⟨ts, deeds, p, htokens, htrace, hlong⟩
    rw [runIncremental_of_longLoop htokens htrace hlong]
  · intro ts deeds p b htokens htrace hlong
    have hsession : p.session = sessionAfter s deeds := htrace.session
    rw [← hsession]
    exact ⟨htrace.adds, runIncremental_of_longLoop htokens htrace hlong⟩

end Session

end GridSketch
