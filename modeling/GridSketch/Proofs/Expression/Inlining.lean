import GridSketch.Proofs.Expression.Blame
import GridSketch.Proofs.Expression.Neighbours

/-!
# Variables written out

A variable in an expression may be replaced by an expression in parentheses that has its value. A
group is an operand wherever it stands, so the tokens still form an expression, and its tree is the
old one with the tree of the group for each leaf that is the variable.

* `inline`, `Tree.inline`: the replacement in tokens and in a tree; `Forms.inline` says that they
  agree.
* `evaluate_inline`: an expression written out comes to the same, or fails in the same way.
-/

namespace GridSketch

/-- The token is the variable `x`. -/
def Token.IsVariable (x : String) (t : Token) : Prop := t.kind = .identifier ∧ t.text = x

instance (x : String) (t : Token) : Decidable (t.IsVariable x) :=
  inferInstanceAs (Decidable (_ ∧ _))

namespace Expression

/-- Tokens with the tokens of a group for every variable `x`. -/
def inline (x : String) (group ts : List Token) : List Token :=
  ts.flatMap fun t => if t.IsVariable x then group else [t]

/-- A tree with the tree `f` for every leaf that is the variable `x`. -/
def Tree.inline : Tree → String → Tree → Tree
  | leaf t, x, f => if t.IsVariable x then f else .leaf t
  | node t left right, x, f => .node t (left.inline x f) (right.inline x f)

section
variable {x : String} {group : List Token} {t : Token}

theorem inline_append (ls rs : List Token) :
    inline x group (ls ++ rs) = inline x group ls ++ inline x group rs :=
  List.flatMap_append

theorem inline_cons (ts : List Token) (ht : t.kind ≠ .identifier) :
    inline x group (t :: ts) = t :: inline x group ts := by
  have hother : ¬ t.IsVariable x := fun h => ht h.1
  simp [inline, hother]

theorem inline_singleton (ht : t.kind ≠ .identifier) : inline x group [t] = [t] :=
  inline_cons [] ht

/-! ## The grammar -/

/-- **An expression that is written out** is one, and its tree is the tree written out. -/
theorem Forms.inline {n : Nat} {ts fs : List Token} {e f : Tree} {opening closing : Token}
    (h : Forms n ts e) (ho : opening.kind = .leftParen) (hc : closing.kind = .rightParen)
    (hf : Forms 0 fs f) :
    Forms n (Expression.inline x (opening :: (fs ++ [closing])) ts) (e.inline x f) := by
  induction h with
  | @operand n t ht =>
    by_cases hx : t.IsVariable x
    · simpa [Expression.inline, Tree.inline, hx] using Forms.group (n := n) ho hc hf
    · simpa [Expression.inline, Tree.inline, hx] using Forms.operand (n := n) ht
  | group ho' hc' _ ih =>
    rw [inline_cons _ (by simp [ho']), inline_append, inline_singleton (by simp [hc'])]
    exact .group ho' hc' ih
  | binary ht hn _ _ ihl ihr =>
    rw [inline_append, inline_cons _ (by simp [ht])]
    exact .binary ht hn ihl ihr
  | signed hs hn _ _ ihl ihr =>
    obtain ⟨hsigned, -, hnumber⟩ := Token.signSplit?_kinds hs
    rw [inline_cons _ (by simp [hnumber])] at ihr
    rw [inline_append, inline_cons _ (by simp [hsigned])]
    exact .signed hs hn ihl ihr

/-! ## Values -/

variable {vars : Variables} {v : Value}

theorem operand_set (ht : t.IsVariable x) : operand (vars.set x v) t = .ok v := by
  obtain ⟨hkind, rfl⟩ := ht
  simp only [operand, hkind, Variables.get, Variables.get?_set_self, Fault.ofScript]

theorem operand_set_of_not (ht : ¬ t.IsVariable x) :
    operand (vars.set x v) t = operand vars t := by
  cases hkind : t.kind with
  | identifier =>
    have hne : t.text ≠ x := fun htext => ht ⟨hkind, htext⟩
    simp only [operand, hkind, Variables.get, Variables.get?_set_of_ne vars v hne]
  | _ => simp only [operand, hkind]

/-- **A tree that is written out** comes to what the tree comes to where the variable is bound. -/
theorem Tree.value_inline {f : Tree} (hf : f.value vars = .ok v) (e : Tree) :
    (e.inline x f).value vars = e.value (vars.set x v) := by
  induction e with
  | leaf t =>
    by_cases ht : t.IsVariable x
    · rw [inline, if_pos ht, hf, value, operand_set ht]
    · rw [inline, if_neg ht, value, value, operand_set_of_not ht]
  | node t left right ihl ihr => rw [inline, value, value, ihl, ihr]

end

/-- **Writing a variable out preserves the meaning of an expression.** Let the tokens `fs` be an
    expression with a value. In another expression, put them in parentheses for every variable `x`.
    What comes out is an expression, is read to its end, and has the tree written out. It comes to
    what the other one comes to in the state where `x` is bound to the value: to the same value, or
    to the same failure, which points at a token of the other expression. -/
theorem evaluate_inline {s : State} {x : String} {fs ts : List Token} {f e : Tree} {v : Value}
    {opening closing : Token} (ho : opening.kind = .leftParen) (hc : closing.kind = .rightParen)
    (hf : Forms 0 fs f) (hv : evaluate s.bindings fs = .ok (v, [])) (h : Forms 0 ts e) :
    let written := inline x (opening :: (fs ++ [closing])) ts
    Forms 0 written (e.inline x f) ∧
      toPostfix written = .ok ((e.inline x f).postorder, []) ∧
      evaluate s.bindings written = evaluate (s.set x v).bindings ts ∧
      ErrorsOnly (Fault.Blames ts) (evaluate s.bindings written) := by
  intro written
  have hvalue : f.value s.bindings = .ok v := by
    rw [hf.evaluate_self] at hv
    cases hf' : f.value s.bindings with
    | error fault =>
      rw [hf'] at hv
      cases hv
    | ok w =>
      rw [hf'] at hv
      cases hv
      rfl
  have hforms : Forms 0 written (e.inline x f) := h.inline ho hc hf
  have hsame : evaluate s.bindings written = evaluate (s.set x v).bindings ts := by
    rw [hforms.evaluate_self, Tree.value_inline hvalue, h.evaluate_self]
    rfl
  refine ⟨hforms, hforms.toPostfix_self, hsame, ?_⟩
  rw [hsame]
  obtain ⟨t, rest, rfl, -⟩ := h.begins
  exact evaluate_blames (List.cons_ne_nil t rest)

/-- In `a -2 * a` the difference `3 -1` is written out for `a`. -/
theorem evaluate_inline_difference :
    let three : Token := ⟨.number, "3", ⟨1, 1⟩⟩
    let signedOne : Token := ⟨.number, "-1", ⟨1, 3⟩⟩
    let a : Token := ⟨.identifier, "a", ⟨1, 1⟩⟩
    let signedTwo : Token := ⟨.number, "-2", ⟨1, 3⟩⟩
    let star : Token := ⟨.operator .star, "*", ⟨1, 6⟩⟩
    let a' : Token := ⟨.identifier, "a", ⟨1, 8⟩⟩
    let opening : Token := ⟨.leftParen, "(", {}⟩
    let closing : Token := ⟨.rightParen, ")", {}⟩
    tokenize "3 -1" = .ok [three, signedOne] ∧
      tokenize "a -2 * a" = .ok [a, signedTwo, star, a'] ∧
      (∃ f, Forms 0 [three, signedOne] f) ∧ (∃ e, Forms 0 [a, signedTwo, star, a'] e) ∧
      evaluate [] [three, signedOne] = .ok (.number 2, []) ∧
      evaluate [] [opening, three, signedOne, closing, signedTwo, star, opening, three, signedOne,
        closing] = evaluate [("a", .number 2)] [a, signedTwo, star, a'] ∧
      evaluate [("a", .number 2)] [a, signedTwo, star, a'] = .ok (.number (-2), []) := by
  intro three signedOne a signedTwo star a' opening closing
  have ho : opening.kind = .leftParen := rfl
  have hc : closing.kind = .rightParen := rfl
  have hone : signedOne.signSplit? =
      some (⟨.operator .minus, "-", ⟨1, 3⟩⟩, ⟨.number, "1", ⟨1, 4⟩⟩) := by decide +kernel
  have htwo : signedTwo.signSplit? =
      some (⟨.operator .minus, "-", ⟨1, 3⟩⟩, ⟨.number, "2", ⟨1, 4⟩⟩) := by decide +kernel
  have hf : Forms 0 ([three] ++ signedOne :: []) _ :=
    .signed hone (by decide) (.operand (t := three) rfl)
      (.operand (t := ⟨.number, "1", ⟨1, 4⟩⟩) rfl)
  have hproduct : Forms 2 ([⟨.number, "2", ⟨1, 4⟩⟩] ++ star :: [a']) _ :=
    .binary (o := .star) rfl (by decide) (.operand (t := ⟨.number, "2", ⟨1, 4⟩⟩) rfl)
      (.operand (t := a') rfl)
  have h : Forms 0 ([a] ++ signedTwo :: [star, a']) _ :=
    .signed htwo (by decide) (.operand (t := a) rfl) hproduct
  have hv : evaluate [] [three, signedOne] = .ok (.number 2, []) := by decide +kernel
  exact ⟨by decide +kernel, by decide +kernel, ⟨_, hf⟩, ⟨_, h⟩, hv,
    (evaluate_inline (s := {}) (x := "a") ho hc hf hv h).2.2.1, by decide +kernel⟩

end Expression

end GridSketch
