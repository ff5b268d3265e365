import GridSketch.Proofs.Expression.Grammar
import Mathlib.Data.List.Chain

/-!
# Neighbours in an expression

In an expression an operand, or a closed parenthesis, is followed by something that goes on with it,
and an operator, or an open parenthesis, by something that begins an expression.

* `Token.closes`, `Token.opens`, `Token.goesOn`, `Token.begins`: the four roles of a token.
* `Link`: two tokens that may stand next to each other.
* `Forms.linked`: so do all neighbours in an expression; `Forms.begins` and `Forms.closes` are its
  two ends.
-/

namespace GridSketch

namespace Token

/-- An expression may end with the token. -/
def closes (t : Token) : Bool := t.kind.isOperand || t.kind == .rightParen

/-- An operand is due after the token. -/
def opens (t : Token) : Bool := t.kind matches .operator _ | .leftParen

/-- The token may stand after an operand. -/
def goesOn (t : Token) : Bool := t.extends || t.kind == .rightParen

/-- An expression may begin with the token. -/
def begins (t : Token) : Bool := t.kind.isOperand || t.kind == .leftParen

end Token

namespace Expression

/-- Two tokens may stand next to each other in an expression. -/
def Link (a b : Token) : Prop :=
  (a.closes = true ∧ b.goesOn = true) ∨ (a.opens = true ∧ b.begins = true)

variable {n : Nat} {ts : List Token} {e : Tree}

theorem Forms.role (h : Forms n ts e) : ∀ t ∈ ts, t.closes = true ∨ t.opens = true := by
  induction h with
  | @operand n t ht =>
    intro u hu
    rw [List.mem_singleton.1 hu, Token.closes, ht]
    exact Or.inl rfl
  | @group n opening ts e closing ho hc _ ih =>
    have hopening : opening.opens = true := by rw [Token.opens, ho]
    have hclosing : closing.closes = true := by rw [Token.closes, hc]; rfl
    simpa [hopening, hclosing, or_imp, forall_and] using ih
  | @binary n o t ls l rs r ht _ _ _ ihl ihr =>
    have hopen : t.opens = true := by rw [Token.opens, ht]
    exact List.forall_mem_append.2 ⟨ihl, List.forall_mem_cons.2 ⟨Or.inr hopen, ihr⟩⟩
  | @signed n t minus number ls l rs r hs _ _ _ ihl ihr =>
    have hclose : t.closes = true := by rw [Token.closes, (Token.signSplit?_kinds hs).1]; rfl
    exact List.forall_mem_append.2
      ⟨ihl, List.forall_mem_cons.2 ⟨Or.inl hclose, (List.forall_mem_cons.1 ihr).2⟩⟩

theorem Forms.begins (h : Forms n ts e) : ∃ t rest, ts = t :: rest ∧ t.begins = true := by
  induction h with
  | @operand n t ht => exact ⟨t, [], rfl, by rw [Token.begins, ht, Bool.true_or]⟩
  | group ho => exact ⟨_, _, rfl, by rw [Token.begins, ho]; rfl⟩
  | binary _ _ _ _ ihl | signed _ _ _ _ ihl =>
    obtain ⟨t, rest, rfl, ht⟩ := ihl
    exact ⟨t, _, rfl, ht⟩

theorem Forms.closes (h : Forms n ts e) : ∃ front t, ts = front ++ [t] ∧ t.closes = true := by
  induction h with
  | @operand n t ht => exact ⟨[], t, rfl, by rw [Token.closes, ht, Bool.true_or]⟩
  | @group n opening ts e closing _ hc =>
    exact ⟨opening :: ts, closing, rfl, by rw [Token.closes, hc]; rfl⟩
  | @binary n o t ls l rs r _ _ _ _ _ ihr =>
    obtain ⟨front, u, rfl, hu⟩ := ihr
    exact ⟨ls ++ t :: front, u, by simp, hu⟩
  | @signed n t minus number ls l rs r hs _ _ _ _ ihr =>
    obtain ⟨hk, -, hnumber⟩ := Token.signSplit?_kinds hs
    obtain ⟨front, u, hu, hcloses⟩ := ihr
    cases front with
    | nil =>
      obtain ⟨-, rfl⟩ := List.cons.inj hu
      exact ⟨ls, t, rfl, by rw [Token.closes, hk]; rfl⟩
    | cons v front =>
      obtain ⟨-, rfl⟩ := List.cons.inj hu
      exact ⟨ls ++ t :: front, u, by simp, hcloses⟩

theorem isChain_append_link {ls rs : List Token} {t : Token} (hl : ls.IsChain Link)
    (hr : (t :: rs).IsChain Link) (hclose : ∃ front u, ls = front ++ [u] ∧ u.closes = true)
    (ht : t.goesOn = true) : (ls ++ t :: rs).IsChain Link := by
  refine hl.append hr ?_
  intro a ha b hb
  obtain ⟨front, u, rfl, hu⟩ := hclose
  obtain rfl : u = a := by simpa using ha
  obtain rfl : t = b := by simpa using hb
  exact Or.inl ⟨hu, ht⟩

/-- **All neighbours in an expression** may stand next to each other. -/
theorem Forms.linked (h : Forms n ts e) : ts.IsChain Link := by
  have hopens : ∀ {t : Token} {us : List Token}, t.opens = true → us.IsChain Link →
      (∃ u rest, us = u :: rest ∧ u.begins = true) → (t :: us).IsChain Link := by
    intro t us ht hus hbegins
    refine hus.cons fun b hb => ?_
    obtain ⟨u, rest, rfl, hu⟩ := hbegins
    obtain rfl : u = b := by simpa using hb
    exact Or.inr ⟨ht, hu⟩
  induction h with
  | operand => exact .singleton _
  | @group n opening ts e closing ho hc h ih =>
    have hopening : opening.opens = true := by rw [Token.opens, ho]
    have hclosing : closing.goesOn = true := by
      rw [Token.goesOn, hc, beq_self_eq_true, Bool.or_true]
    obtain ⟨t, rest, rfl, ht⟩ := h.begins
    exact hopens hopening (isChain_append_link ih (.singleton closing) h.closes hclosing)
      ⟨t, _, rfl, ht⟩
  | @binary n o t ls l rs r ht _ hl hr ihl ihr =>
    have hopen : t.opens = true := by rw [Token.opens, ht]
    have hgoes : t.goesOn = true := by rw [Token.goesOn, Token.extends, ht]; rfl
    exact isChain_append_link ihl (hopens hopen ihr hr.begins) hl.closes hgoes
  | @signed n t minus number ls l rs r hs _ hl _ ihl ihr =>
    obtain ⟨hk, -, hnumber⟩ := Token.signSplit?_kinds hs
    have hgoes : t.goesOn = true := by simp [Token.goesOn, Token.extends, hs]
    -- the number without its sign has the same neighbours as the one with it
    obtain ⟨hfirst, hrest⟩ := List.isChain_cons.1 ihr
    refine isChain_append_link ihl (hrest.cons fun b hb => ?_) hl.closes hgoes
    have hlink := hfirst b hb
    simp only [Link, Token.closes, Token.opens, hk, hnumber] at hlink ⊢
    exact hlink

end Expression

end GridSketch
