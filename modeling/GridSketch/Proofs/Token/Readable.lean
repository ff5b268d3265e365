import GridSketch.Expression.ToPostfix
import GridSketch.Proofs.Token.Spelling

/-!
# Numbers that can be read

The text of a number token that the lexer makes is a number literal, and so is what is left of it
without its sign. Such a text has a value.

* `Lexer.tokens_readable`: every number of a script can be read.
-/

namespace GridSketch

/-- A number token has the text of a number literal. -/
def Token.Readable (t : Token) : Prop :=
  t.kind = .number → Number.Literal t.text.toList

theorem Token.Readable.value {t : Token} (h : t.Readable) (hk : t.kind = .number) :
    ∃ x, Number.ofText? t.text = some x := by
  have hvalue := Number.ofText?_literal (h hk)
  rw [String.ofList_toList] at hvalue
  exact Option.isSome_iff_exists.1 hvalue

theorem Token.Readable.unsigned {t minus number : Token} (h : t.Readable)
    (hs : t.signSplit? = some (minus, number)) : number.Readable := by
  unfold signSplit? at hs
  split at hs
  · next cs hk ht =>
    cases hs
    intro _
    have hliteral := h hk
    rw [ht] at hliteral
    rcases hliteral with hu | ⟨ds, heq, hu⟩
    · obtain ⟨c, rest, heq, hc⟩ := hu.first
      obtain rfl : '-' = c := (List.cons.inj heq).1
      exact absurd rfl (Text.ne_of_decimalDigit hc (by decide) (by decide))
    · obtain rfl : cs = ds := (List.cons.inj heq).2
      rw [String.toList_ofList]
      exact Or.inl hu
  · cases hs

theorem Lexer.tokens_readable {p : Position} {cs : List Char} {ts : List Token}
    (h : tokens p cs = .ok ts) : ∀ t ∈ ts, t.Readable := by
  intro t ht hk
  have hspelled := tokens_spells h t ht
  rwa [Token.Spelled, hk] at hspelled

end GridSketch
