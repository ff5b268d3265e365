import GridSketch.Proofs.Expression.Fusion
import GridSketch.Proofs.Expression.Parse

/-!
# Numbers with a sign, written out

A number with a sign that stands directly after an operand or a closed parenthesis is two tokens in
one, a minus sign and the number without it. Written out as two, it needs no rule of its own: what
is left is the plain grammar of operands, parentheses and left-associative operators.

* `Plain` is that grammar, and `spread` writes the numbers out.
* `forms_iff_plain`: tokens form an expression as they stand if and only if they do when written
  out, and the tree is the same.
-/

namespace GridSketch.Expression

/-- Tokens that form an expression by the plain grammar, and its tree. -/
inductive Plain : Nat → List Token → Tree → Prop
  | operand {n t} : t.kind.isOperand = true → Plain n [t] (.leaf t)
  | group {n opening ts e closing} : opening.kind = .leftParen → closing.kind = .rightParen →
      Plain 0 ts e → Plain n (opening :: (ts ++ [closing])) e
  | binary {n o t ls l rs r} : t.kind = .operator o → n ≤ o.precedence →
      Plain o.precedence ls l → Plain (o.precedence + 1) rs r →
      Plain n (ls ++ t :: rs) (.node t l r)

/-- Writes the numbers out whose sign is a minus sign. `after` says that the token before is an
    operand or a closed parenthesis. -/
def spread (after : Bool) : List Token → List Token
  | [] => []
  | t :: ts =>
    match after, t.signSplit? with
    | true, some (minus, number) => minus :: number :: spread true ts
    | _, _ => t :: spread t.closes ts

section
variable {t minus number : Token} {ts : List Token}

@[simp] theorem spread_false (t : Token) (ts : List Token) :
    spread false (t :: ts) = t :: spread t.closes ts := rfl

theorem spread_signed (h : t.signSplit? = some (minus, number)) :
    spread true (t :: ts) = minus :: number :: spread true ts := by
  simp [spread, h]

theorem spread_unsigned (after : Bool) (h : t.signSplit? = none) :
    spread after (t :: ts) = t :: spread t.closes ts := by
  cases after <;> simp [spread, h]

theorem signSplit?_of_kind (h : t.kind ≠ .number) : t.signSplit? = none := by
  cases hs : t.signSplit? with
  | none => rfl
  | some parts => exact absurd (Token.signSplit?_kinds hs).1 h

theorem spread_append (after : Bool) {ls : List Token} (rs : List Token)
    (h : ∃ front u, ls = front ++ [u] ∧ u.closes = true) :
    spread after (ls ++ rs) = spread after ls ++ spread true rs := by
  obtain ⟨front, u, rfl, hu⟩ := h
  induction front generalizing after with
  | nil =>
    cases hs : u.signSplit? with
    | none => simp [spread_unsigned after hs, hu, spread]
    | some parts =>
      cases after with
      | false => simp [hu, spread]
      | true => simp [spread_signed hs, spread]
  | cons t front ih =>
    cases hs : t.signSplit? with
    | none => simp only [List.cons_append, spread_unsigned after hs, ih]
    | some parts =>
      cases after with
      | false => simp only [List.cons_append, spread_false, ih]
      | true => simp only [List.cons_append, spread_signed hs, ih]

end

theorem Forms.plain {n : Nat} {ts : List Token} {e : Tree} (h : Forms n ts e) :
    Plain n (spread false ts) e := by
  induction h with
  | operand ht => exact .operand ht
  | @group n opening ts e closing ho hc h ih =>
    have hopening : opening.closes = false := by simp [Token.closes, ho, TokenKind.isOperand]
    have hclosing := signSplit?_of_kind (t := closing) (by simp [hc])
    rw [spread_false, hopening, spread_append false [closing] h.closes,
      spread_unsigned true hclosing]
    exact .group ho hc ih
  | @binary n o t ls l rs r ht hn hl _ ihl ihr =>
    have hopens : t.closes = false := by simp [Token.closes, ht, TokenKind.isOperand]
    have hsign := signSplit?_of_kind (t := t) (by simp [ht])
    rw [spread_append false (t :: rs) hl.closes, spread_unsigned true hsign, hopens]
    exact .binary ht hn ihl ihr
  | @signed n t minus number ls l rs r hs hn hl _ ihl ihr =>
    obtain ⟨-, hminus, hnumber⟩ := Token.signSplit?_kinds hs
    have hcloses : number.closes = true := by simp [Token.closes, hnumber, TokenKind.isOperand]
    rw [spread_false, hcloses] at ihr
    rw [spread_append false (t :: rs) hl.closes, spread_signed hs]
    exact .binary hminus hn ihl ihr

theorem Plain.forms {n : Nat} {ts : List Token} {e : Tree} (h : Plain n ts e) : Forms n ts e := by
  induction h with
  | operand ht => exact .operand ht
  | group ho hc _ ih => exact .group ho hc ih
  | binary ht hn _ _ ihl ihr => exact .binary ht hn ihl ihr

theorem fuses_spread (after : Bool) (ts : List Token) : Fuses (spread after ts) ts := by
  induction ts generalizing after with
  | nil => exact .nil
  | cons t ts ih =>
    cases hs : t.signSplit? with
    | none =>
      rw [spread_unsigned after hs]
      exact .alike ⟨rfl, rfl⟩ (ih _)
    | some parts =>
      cases after with
      | false => exact .alike ⟨rfl, rfl⟩ (ih _)
      | true =>
        rw [spread_signed hs]
        exact .fused hs ⟨rfl, rfl⟩ ⟨rfl, rfl⟩ (ih true)

/-- **Tokens form an expression** if and only if they form one by the plain grammar when their
    numbers are written out. -/
theorem forms_iff_plain {n : Nat} {ts : List Token} {e : Tree} :
    Forms n ts e ↔ Plain n (spread false ts) e := by
  refine ⟨Forms.plain, fun h => ?_⟩
  obtain ⟨e', hforms, -⟩ := h.forms.fused (fuses_spread false ts)
  -- written out again, the expression found has the given tree
  rwa [h.forms.unique hforms.plain.forms]

end GridSketch.Expression
