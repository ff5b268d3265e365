import GridSketch.Proofs.Expression.TreeValue
import GridSketch.Proofs.Number.Display
import GridSketch.Proofs.Token.Boundary
import GridSketch.Proofs.Token.Name

/-!
# Typing back what is displayed

A number that is displayed can be typed back as long as it is written out. Where a power of ten is
written it cannot: the text falls apart into a number, a name and a number.

* `calculate_literal`: the value of a text that is a number literal.
* `calculate_display`: which displayed numbers have themselves as their value.
-/

namespace GridSketch.Expression

open Number

/-! ## Literals -/

theorem tokenize_literal {source : String} (h : Literal source.toList) :
    tokenize source = .ok [⟨.number, source, {}⟩] := by
  have hfirst : firstLexeme? (source.toList ++ []) = some (.number, source.toList.length) :=
    firstLexeme?_number h (by simp)
  rw [List.append_nil] at hfirst
  rw [tokenize_single hfirst]
  simp [TokenKind.textOf]

theorem calculate_literal {source : String} {x : Float} (h : Literal source.toList)
    (hx : ofText? source = some x) (vars : Variables) :
    calculate vars source = .ok (.number x) := by
  rw [calculate_of_forms (tokenize_literal h) (.operand rfl), Tree.value]
  simp [operand, hx]

/-! ## Powers of ten -/

/-- A power of ten is no part of a literal: its letter is a name, and what follows the letter is
    another literal. -/
theorem tokenize_powerOfTen {cs power : List Char} (hcs : Literal cs) (hpower : Unsigned power) :
    ∃ p q, tokenize (String.ofList (cs ++ 'e' :: '-' :: power)) =
      .ok [⟨.number, String.ofList cs, {}⟩, ⟨.identifier, "e", p⟩,
        ⟨.number, String.ofList ('-' :: power), q⟩] := by
  have hnumber : firstLexeme? (cs ++ 'e' :: '-' :: power) = some (.number, cs.length) := by
    refine firstLexeme?_number hcs fun c hc => ?_
    obtain rfl : 'e' = c := by simpa using hc
    decide
  have hletter : firstLexeme? (['e'] ++ '-' :: power) = some (.identifier, ['e'].length) := by
    refine firstLexeme?_name (by decide) (fun k => by cases k <;> decide) fun c hc => ?_
    obtain rfl : '-' = c := by simpa using hc
    decide
  have hsize : firstLexeme? ('-' :: power ++ []) = some (.number, ('-' :: power).length) :=
    firstLexeme?_number (literal_signed true hpower) (by simp)
  rw [List.append_nil] at hsize
  refine ⟨({} : Position).advanceAll cs, (({} : Position).advanceAll cs).advanceAll ['e'], ?_⟩
  rw [tokenize, String.toList_ofList, Lexer.tokens_lexeme hnumber, List.take_left, List.drop_left]
  change ((Lexer.tokens _ (['e'] ++ '-' :: power)).map _) = _
  rw [Lexer.tokens_lexeme hletter, List.take_left, List.drop_left, Lexer.tokens_lexeme hsize,
    List.take_length, List.drop_length, Lexer.tokens_nil]
  rfl

theorem calculate_powerOfTen {cs power : List Char} (hcs : Literal cs) (hpower : Unsigned power)
    (vars : Variables) :
    ∃ d, calculate vars (String.ofList (cs ++ 'e' :: '-' :: power)) = .error (.script d) ∧
      d.cause = .afterExpression "e" := by
  obtain ⟨p, q, htokens⟩ := tokenize_powerOfTen hcs hpower
  obtain ⟨x, hx⟩ := Option.isSome_iff_exists.1 (ofText?_literal hcs)
  have hoperand : operand vars ⟨.number, String.ofList cs, {}⟩ = .ok (.number x) := by
    simp [operand, hx]
  have hevaluate : evaluate vars ([⟨.number, String.ofList cs, {}⟩] ++
      [⟨.identifier, "e", p⟩, ⟨.number, String.ofList ('-' :: power), q⟩]) =
        .ok (.number x, [⟨.identifier, "e", p⟩, ⟨.number, String.ofList ('-' :: power), q⟩]) := by
    rw [evaluate_of_forms (.operand rfl) (by simp [Stops]; rfl), Tree.value, hoperand]
    rfl
  rw [List.singleton_append] at hevaluate
  refine ⟨.atToken ⟨.identifier, "e", p⟩ (.afterExpression "e"), ?_, rfl⟩
  simp only [calculate, htokens, Fault.ofScript, bind, Except.bind, hevaluate]
  rfl

/-! ## Displayed numbers -/

/-- **What is displayed can be typed back** if it is written out. A finite number that is zero, or
    `0.0001` at the least on either side of it, is displayed as one number literal, and its value is
    the number. Any other is displayed with a power of ten, and that is no expression. -/
theorem calculate_display {x : Float} (hfinite : x.isFinite = true) (vars : Variables) :
    ((x == 0) = true ∨ 0.0001 ≤ x.abs →
        tokenize (display x) = .ok [⟨.number, display x, {}⟩] ∧ 'e' ∉ (display x).toList ∧
          ∃ y, calculate vars (display x) = .ok (.number y) ∧ (y == x) = true) ∧
      (0 < x.abs ∧ x.abs < 0.0001 →
        'e' ∈ (display x).toList ∧
          ∃ d, calculate vars (display x) = .error (.script d) ∧ d.cause.kind = .malformed) := by
  obtain ⟨e, hx⟩ := Option.isSome_iff_exists.1 ((ofFloat?_isSome x).trans hfinite)
  rw [leastWritten_le_abs hx, abs_lt_leastWritten hx, zero_lt_abs hx]
  have hpositive : 0 < e.pattern → 0 < e.mantissa := fun hpattern =>
    Nat.pos_of_ne_zero (mt (ofFloat?_isDouble hx).pattern_eq_zero.2 hpattern.ne')
  constructor
  · intro hwritten
    have hliteral : ∃ y, Literal (display x).toList ∧ ofText? (display x) = some y ∧
        (y == x) = true := by
      rcases hwritten with hzero | hleast
      · rw [display_zero hzero]
        have hdigit : Unsigned ['0'] := (natChars_reads 0).1
        refine ⟨0, Or.inl hdigit, by decide +kernel, ?_⟩
        rw [BEq.comm]
        exact hzero
      · have hpos : 0 < leastWritten.pattern := by decide +kernel
        obtain ⟨cs, htext, hcs, hread⟩ := display_reads hx (hpositive (hpos.trans_le hleast)) hleast
        refine ⟨x, ?_, hread, beq_self_of_isFinite hfinite⟩
        rw [htext, String.toList_ofList]
        exact literal_signed e.negative hcs
    obtain ⟨y, hliteral, hread, heq⟩ := hliteral
    refine ⟨tokenize_literal hliteral, fun hletter => ?_, y, calculate_literal hliteral hread vars,
      heq⟩
    rcases hliteral.chars 'e' hletter with hdigit | hpoint | hminus
    · exact absurd hdigit (by decide)
    · exact absurd hpoint (by decide)
    · exact absurd hminus (by decide)
  · rintro ⟨hpos, hlt⟩
    obtain ⟨cs, power, htext, hcs, hpower⟩ := display_scientific hx (hpositive hpos) hlt
    obtain ⟨d, hd, hcause⟩ := calculate_powerOfTen (literal_signed e.negative hcs) hpower vars
    rw [htext]
    refine ⟨?_, d, hd, ?_⟩
    · rw [String.toList_ofList]
      exact List.mem_append_right _ List.mem_cons_self
    · rw [hcause]
      rfl

/-- A negative tenth, displayed as `-0.1`, is read back, and a hundred-thousandth, displayed as
    `1e-05`, is refused. -/
theorem calculate_display_fractions :
    ((-0.1 : Float).isFinite = true ∧ (0.0001 : Float) ≤ (-0.1 : Float).abs ∧
        ∃ y, calculate [] (display (-0.1)) = .ok (.number y) ∧ (y == -0.1) = true) ∧
      (1e-5 : Float).isFinite = true ∧ (0 < (1e-5 : Float).abs ∧ (1e-5 : Float).abs < 0.0001) ∧
        ∃ d, calculate [] (display 1e-5) = .error (.script d) ∧ d.cause.kind = .malformed := by
  have hfinite : (-0.1 : Float).isFinite = true := by decide +kernel
  have hleast : (0.0001 : Float) ≤ (-0.1 : Float).abs := by decide +kernel
  have hfinite' : (1e-5 : Float).isFinite = true := by decide +kernel
  have hsmall : 0 < (1e-5 : Float).abs ∧ (1e-5 : Float).abs < 0.0001 := by decide +kernel
  exact ⟨⟨hfinite, hleast, ((calculate_display hfinite []).1 (Or.inr hleast)).2.2⟩,
    hfinite', hsmall, ((calculate_display hfinite' []).2 hsmall).2⟩

end GridSketch.Expression
