import GridSketch.Proofs.Session.Calculator
import GridSketch.Proofs.Token.Respacing

/-!
# Blanks in an expression

What an expression comes to does not depend on the blanks in it. With other blanks the lexer may
take a minus sign and the number after it for one number, and the calculator makes up for that.

* `SameOutcome`: two results that are one value, or failures for one cause.
* `calculate_respaced`: the results of an expression and of the same one with other blanks.
-/

namespace GridSketch

open Expression

/-- Two results are the same value, or they are failures of the script for the same cause: of one
    family, with the same sentence and what it expected and found. Only the places may differ. -/
def SameOutcome : Except Fault Value → Except Fault Value → Prop
  | .ok v, .ok w => v = w
  | .error (.script d), .error (.script d') => d.cause = d'.cause
  | _, _ => False

theorem sameOutcome_of_placeless {x y : Except Fault Value}
    (h : y.mapError Fault.placeless = x.mapError Fault.placeless)
    (hscript : ∀ fault, x = .error fault → ∃ d, fault = .script d) : SameOutcome x y := by
  match x, y with
  | .ok v, .ok w => exact (Except.ok.inj h).symm
  | .error fault, .error fault' =>
    obtain ⟨d, rfl⟩ := hscript fault rfl
    have hfault : fault'.placeless = (Fault.script d).placeless := Except.error.inj h
    cases fault' with
    | script d' => exact (congrArg Diagnostic.cause (Fault.script.inj hfault)).symm
    | breach b => cases hfault

/-- **Blanks never change what an expression comes to.** Take a text that is one expression, and a
    text with the same lexemes and other blanks, or none, before, between and after them. The other
    text can be read, it is one expression as well, and the calculator comes to the same value or
    fails for the same cause, whatever the variables are. -/
theorem calculate_respaced {source other : String} {ts : List Token} {e : Tree}
    (htokens : tokenize source = .ok ts) (hforms : Forms 0 ts e)
    (hother : Respaced ts source.toList other.toList) :
    ∃ us e', tokenize other = .ok us ∧ Forms 0 us e' ∧
      ∀ vars, SameOutcome (calculate vars source) (calculate vars other) := by
  obtain ⟨us, hus, hfuses⟩ :=
    hother.tokens (Lexer.tokens_fit htokens hforms) hforms.linked ({} : Position)
  obtain ⟨e', hforms', halike⟩ := hforms.fused hfuses
  refine ⟨us, e', hus, hforms', fun vars => ?_⟩
  rw [calculate_of_forms htokens hforms, calculate_of_forms hus hforms']
  refine sameOutcome_of_placeless halike.value fun fault hfault => ?_
  obtain ⟨d, hd, -⟩ :=
    Tree.value_error hforms.proper (readable_of_tokenize htokens hforms) hfault
  exact ⟨d, hd⟩

/-- The difference in `2 * (a - 3)`, where the minus sign becomes part of the number. -/
theorem calculate_respaced_difference :
    (∃ ts e, tokenize "2 * (a - 3)" = .ok ts ∧ Forms 0 ts e ∧
      Respaced ts "2 * (a - 3)".toList "2*(a-3)".toList) ∧
    ∃ us e, tokenize "2*(a-3)" = .ok us ∧ Forms 0 us e ∧
      ∀ vars, SameOutcome (calculate vars "2 * (a - 3)") (calculate vars "2*(a-3)") := by
  have htokens : tokenize "2 * (a - 3)" = .ok [⟨.number, "2", ⟨1, 1⟩⟩,
      ⟨.operator .star, "*", ⟨1, 3⟩⟩, ⟨.leftParen, "(", ⟨1, 5⟩⟩, ⟨.identifier, "a", ⟨1, 6⟩⟩,
      ⟨.operator .minus, "-", ⟨1, 8⟩⟩, ⟨.number, "3", ⟨1, 10⟩⟩, ⟨.rightParen, ")", ⟨1, 11⟩⟩] := by
    decide +kernel
  have hdifference : Forms 0 [⟨.identifier, "a", ⟨1, 6⟩⟩, ⟨.operator .minus, "-", ⟨1, 8⟩⟩,
      ⟨.number, "3", ⟨1, 10⟩⟩] _ :=
    .binary (t := ⟨.operator .minus, "-", ⟨1, 8⟩⟩) rfl (by decide)
      (.operand (t := ⟨.identifier, "a", ⟨1, 6⟩⟩) rfl) (.operand (t := ⟨.number, "3", ⟨1, 10⟩⟩) rfl)
  have hgroup : Forms 3 (⟨.leftParen, "(", ⟨1, 5⟩⟩ ::
      ([⟨.identifier, "a", ⟨1, 6⟩⟩, ⟨.operator .minus, "-", ⟨1, 8⟩⟩, ⟨.number, "3", ⟨1, 10⟩⟩] ++
        [⟨.rightParen, ")", ⟨1, 11⟩⟩])) _ := .group rfl rfl hdifference
  have hforms : Forms 0 [⟨.number, "2", ⟨1, 1⟩⟩, ⟨.operator .star, "*", ⟨1, 3⟩⟩,
      ⟨.leftParen, "(", ⟨1, 5⟩⟩, ⟨.identifier, "a", ⟨1, 6⟩⟩, ⟨.operator .minus, "-", ⟨1, 8⟩⟩,
      ⟨.number, "3", ⟨1, 10⟩⟩, ⟨.rightParen, ")", ⟨1, 11⟩⟩] _ :=
    .binary (t := ⟨.operator .star, "*", ⟨1, 3⟩⟩) rfl (by decide)
      (.operand (t := ⟨.number, "2", ⟨1, 1⟩⟩) rfl) hgroup
  have hother : Respaced _ "2 * (a - 3)".toList "2*(a-3)".toList := Lexer.tokens_unspaced htokens
  exact ⟨⟨_, _, htokens, hforms, hother⟩, calculate_respaced htokens hforms hother⟩

end GridSketch
