import GridSketch.Proofs.Expression.Neighbours
import GridSketch.Proofs.Expression.TreeValue

/-!
# Minus signs that become signs

A minus sign and the number after it may become one number with a sign. The tokens still form an
expression, for a number with a sign that follows an operand is a subtraction, and its tree is the
same but for the places of its tokens. So it has the same value, or fails for the same cause.

* `Fuses`: tokens before and after some of their minus signs have become signs.
* `Tree.Alike.value`: trees that differ in places only come to the same.
-/

namespace GridSketch

/-- Tokens that differ in their place only. -/
def Token.Alike (t u : Token) : Prop := u.kind = t.kind ∧ u.text = t.text

/-- A fault without its place. -/
def Fault.placeless : Fault → Fault
  | script d => .script ⟨d.cause, none, none⟩
  | breach b => .breach b

theorem Token.Alike.signSplit? {t u minus number : Token} (h : t.Alike u)
    (hs : t.signSplit? = some (minus, number)) :
    ∃ minus' number', u.signSplit? = some (minus', number') ∧ minus.Alike minus' ∧
      number.Alike number' := by
  obtain ⟨hkind, htext⟩ := h
  unfold Token.signSplit? at hs ⊢
  rw [hkind, htext]
  split at hs
  · cases hs
    exact ⟨_, _, rfl, ⟨rfl, rfl⟩, ⟨rfl, rfl⟩⟩
  · cases hs

namespace Expression

/-- The second tokens are the first, at other places, and some minus signs are part of the number
    that follows them. -/
inductive Fuses : List Token → List Token → Prop
  | nil : Fuses [] []
  | alike {t u ts us} : t.Alike u → Fuses ts us → Fuses (t :: ts) (u :: us)
  | fused {minus number u minus' number' ts us} : u.signSplit? = some (minus', number') →
      minus.Alike minus' → number.Alike number' → Fuses ts us →
      Fuses (minus :: number :: ts) (u :: us)

/-- Trees that differ in the places of their tokens only. -/
inductive Tree.Alike : Tree → Tree → Prop
  | leaf {t u} : t.Alike u → Tree.Alike (.leaf t) (.leaf u)
  | node {t u l l' r r'} : t.Alike u → Tree.Alike l l' → Tree.Alike r r' →
      Tree.Alike (.node t l r) (.node u l' r')

/-! ## Expressions stay expressions -/

theorem minus_of_signSplit? {u minus minus' number : Token}
    (hs : u.signSplit? = some (minus', number)) (h : minus.Alike minus') :
    minus.kind = .operator .minus :=
  h.1.symm.trans (Token.signSplit?_kinds hs).2.1

theorem Fuses.cons {t : Token} {ts us : List Token} (h : Fuses (t :: ts) us)
    (ht : t.kind ≠ .operator .minus) : ∃ u us', us = u :: us' ∧ t.Alike u ∧ Fuses ts us' := by
  cases h with
  | alike ht h => exact ⟨_, _, rfl, ht, h⟩
  | fused hs hminus => exact absurd (minus_of_signSplit? hs hminus) ht

theorem Fuses.append {ls rs us : List Token} (h : Fuses (ls ++ rs) us)
    (hlast : ∀ t ∈ ls.getLast?, t.kind ≠ .operator .minus) :
    ∃ us₁ us₂, us = us₁ ++ us₂ ∧ Fuses ls us₁ ∧ Fuses rs us₂ := by
  generalize hts : ls ++ rs = ts at h
  induction h generalizing ls with
  | nil =>
    obtain ⟨rfl, rfl⟩ := List.append_eq_nil_iff.1 hts
    exact ⟨[], [], rfl, .nil, .nil⟩
  | @alike t u ts us ht h ih =>
    rcases List.append_eq_cons_iff.1 hts with ⟨rfl, rfl⟩ | ⟨ls, rfl, rfl⟩
    · exact ⟨[], u :: us, rfl, .nil, .alike ht h⟩
    · obtain ⟨us₁, us₂, rfl, h₁, h₂⟩ := ih (fun v hv => hlast v (List.mem_getLast?_cons hv)) rfl
      exact ⟨u :: us₁, us₂, rfl, .alike ht h₁, h₂⟩
  | @fused minus number u minus' number' ts us hs hm hn h ih =>
    rcases List.append_eq_cons_iff.1 hts with ⟨rfl, rfl⟩ | ⟨ls, rfl, hls⟩
    · exact ⟨[], u :: us, rfl, .nil, .fused hs hm hn h⟩
    · rcases List.append_eq_cons_iff.1 hls.symm with ⟨rfl, -⟩ | ⟨ls, rfl, rfl⟩
      · exact absurd (minus_of_signSplit? hs hm) (hlast minus rfl)
      · obtain ⟨us₁, us₂, rfl, h₁, h₂⟩ :=
          ih (fun v hv => hlast v (List.mem_getLast?_cons (List.mem_getLast?_cons hv))) rfl
        exact ⟨u :: us₁, us₂, rfl, .fused hs hm hn h₁, h₂⟩

theorem not_operator_of_closes {t : Token} (ht : t.closes = true) (o : Operator) :
    t.kind ≠ .operator o := by
  intro hk
  simp [Token.closes, TokenKind.isOperand, hk] at ht

theorem Forms.fuses_append {n : Nat} {ls rs us : List Token} {l : Tree} (hl : Forms n ls l)
    (h : Fuses (ls ++ rs) us) : ∃ us₁ us₂, us = us₁ ++ us₂ ∧ Fuses ls us₁ ∧ Fuses rs us₂ := by
  refine h.append fun t ht => ?_
  obtain ⟨front, u, rfl, hu⟩ := hl.closes
  obtain rfl : u = t := by simpa using ht
  exact not_operator_of_closes hu .minus

/-- **An expression whose minus signs become signs** stays one, with the same tree but for the
    places. -/
theorem Forms.fused {n : Nat} {ts us : List Token} {e : Tree} (h : Forms n ts e)
    (hus : Fuses ts us) : ∃ e', Forms n us e' ∧ e.Alike e' := by
  induction h generalizing us with
  | @operand n t ht =>
    cases hus with
    | alike htu hnil =>
      cases hnil
      exact ⟨_, .operand (by rw [htu.1, ht]), .leaf htu⟩
  | @group n opening ts e closing ho hc h ih =>
    obtain ⟨opening', us', rfl, hopening, hus⟩ := hus.cons (by simp [ho])
    obtain ⟨us₁, us₂, rfl, h₁, h₂⟩ := h.fuses_append hus
    obtain ⟨closing', us₂, rfl, hclosing, hnil⟩ := h₂.cons (by simp [hc])
    cases hnil
    obtain ⟨e', hforms, halike⟩ := ih h₁
    exact ⟨e', .group (hopening.1.trans ho) (hclosing.1.trans hc) hforms, halike⟩
  | @binary n o t ls l rs r ht hn hl hr ihl ihr =>
    obtain ⟨us₁, us₂, rfl, h₁, h₂⟩ := hl.fuses_append hus
    obtain ⟨l', hforms, hleft⟩ := ihl h₁
    cases h₂ with
    | alike htu h₂ =>
      obtain ⟨r', hforms', hright⟩ := ihr h₂
      exact ⟨_, .binary (htu.1.trans ht) hn hforms hforms', .node htu hleft hright⟩
    | fused hs hminus hnumber h₂ =>
      -- the operator is a minus sign, and what it fused with begins the right operand
      obtain rfl : o = .minus :=
        TokenKind.operator.inj (ht.symm.trans (minus_of_signSplit? hs hminus))
      obtain ⟨r', hforms', hright⟩ := ihr (.alike hnumber h₂)
      exact ⟨_, .signed hs hn hforms hforms', .node hminus hleft hright⟩
  | @signed n t minus number ls l rs r hs hn hl hr ihl ihr =>
    obtain ⟨us₁, us₂, rfl, h₁, h₂⟩ := hl.fuses_append hus
    obtain ⟨u, us₂, rfl, htu, h₂⟩ := h₂.cons (by simp [(Token.signSplit?_kinds hs).1])
    obtain ⟨minus', number', hs', hminus, hnumber⟩ := htu.signSplit? hs
    obtain ⟨l', hforms, hleft⟩ := ihl h₁
    obtain ⟨r', hforms', hright⟩ := ihr (.alike hnumber h₂)
    exact ⟨_, .signed hs' hn hforms hforms', .node hminus hleft hright⟩

/-! ## Values -/

variable {vars : Variables}

theorem operand_alike {t u : Token} (h : t.Alike u) :
    (operand vars u).mapError Fault.placeless = (operand vars t).mapError Fault.placeless := by
  obtain ⟨hkind, htext⟩ := h
  unfold operand
  rw [hkind, htext]
  split
  · rfl
  · rfl
  · simp only [Variables.get]
    split <;> rfl
  · rfl

theorem applyToken_alike {t u : Token} (h : t.Alike u) (a b : Value) :
    (applyToken u a b).mapError Fault.placeless = (applyToken t a b).mapError Fault.placeless := by
  obtain ⟨hkind, htext⟩ := h
  unfold applyToken
  rw [hkind, htext]
  split
  · cases Operator.apply _ t.text a b <;> rfl
  · split <;> rfl

theorem bind_placeless {α β : Type} {x y : Except Fault α} {f g : α → Except Fault β}
    (hxy : y.mapError Fault.placeless = x.mapError Fault.placeless)
    (hfg : ∀ a, (g a).mapError Fault.placeless = (f a).mapError Fault.placeless) :
    (y.bind g).mapError Fault.placeless = (x.bind f).mapError Fault.placeless := by
  match x, y with
  | .ok a, .ok b =>
    obtain rfl : b = a := Except.ok.inj hxy
    exact hfg b
  | .error fault, .error fault' =>
    have hfault : fault'.placeless = fault.placeless := Except.error.inj hxy
    exact congrArg Except.error hfault

/-- **Trees that differ in places only** have the same value, or fail for the same cause. -/
theorem Tree.Alike.value {e e' : Tree} (h : e.Alike e') :
    (e'.value vars).mapError Fault.placeless = (e.value vars).mapError Fault.placeless := by
  induction h with
  | leaf ht => exact operand_alike ht
  | node ht _ _ ihl ihr =>
    exact bind_placeless ihl fun a => bind_placeless ihr fun b => applyToken_alike ht a b

end Expression

end GridSketch
