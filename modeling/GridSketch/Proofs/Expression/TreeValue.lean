import GridSketch.Expression.Evaluation
import GridSketch.Proofs.Expression.Grammar

/-!
# The value of a tree

A tree is worked out from the left subtree over the right one to the operator at its root.

* `evaluate_of_forms`: the value of an expression that ends is the value of its tree.
-/

namespace GridSketch.Expression

/-- The value of a tree: left subtree, right subtree, operator. -/
def Tree.value : Tree → Variables → Except Fault Value
  | leaf t, vars => operand vars t
  | node t left right, vars => do
    let a ← left.value vars
    let b ← right.value vars
    applyToken t a b

/-- Operands at the leaves and operators at the nodes. -/
def Tree.Proper : Tree → Prop
  | leaf t => t.kind.isOperand = true
  | node t left right => (∃ o, t.kind = .operator o) ∧ left.Proper ∧ right.Proper

theorem Forms.proper {n : Nat} {ts : List Token} {e : Tree} (h : Forms n ts e) : e.Proper := by
  induction h with
  | operand ht => exact ht
  | group _ _ _ ih => exact ih
  | binary ht _ _ _ ihl ihr => exact ⟨⟨_, ht⟩, ihl, ihr⟩
  | signed ht _ _ _ ihl ihr => exact ⟨⟨_, (Token.signSplit?_kinds ht).2.1⟩, ihl, ihr⟩

variable {vars : Variables}

theorem push_operand {t : Token} (ht : t.kind.isOperand = true) (stack : List Value) :
    push vars stack t = (operand vars t).map (· :: stack) := by
  unfold push
  split
  · next ho => simp [ho, TokenKind.isOperand] at ht
  · next ho _ => simp [ho, TokenKind.isOperand] at ht
  · rfl

theorem push_operator {t : Token} {o : Operator} (ht : t.kind = .operator o) (a b : Value)
    (stack : List Value) :
    push vars (b :: a :: stack) t = (applyToken t a b).map (· :: stack) := by
  simp [push, ht]

theorem foldlM_push_postorder {e : Tree} (he : e.Proper) (stack : List Value) (rest : List Token) :
    (e.postorder ++ rest).foldlM (push vars) stack =
      (e.value vars).bind fun v => rest.foldlM (push vars) (v :: stack) := by
  induction e generalizing stack rest with
  | leaf t =>
    simp only [Tree.postorder, List.singleton_append, List.foldlM_cons, push_operand he,
      Tree.value]
    cases operand vars t <;> rfl
  | node t left right ihl ihr =>
    obtain ⟨⟨o, ho⟩, hl, hr⟩ := he
    simp only [Tree.postorder, List.append_assoc, ihl hl, Tree.value]
    cases left.value vars with
    | error fault => rfl
    | ok a =>
      simp only [Except.bind, ihr hr]
      cases right.value vars with
      | error fault => rfl
      | ok b =>
        simp only [List.singleton_append, List.foldlM_cons, push_operator ho]
        show _ = (applyToken t a b).bind _
        cases applyToken t a b <;> rfl

theorem ofPostfix_postorder {e : Tree} (he : e.Proper) :
    ofPostfix vars e.postorder = e.value vars := by
  have h : (e.postorder ++ []).foldlM (push vars) [] = _ := foldlM_push_postorder he [] []
  rw [List.append_nil] at h
  rw [ofPostfix, h]
  cases e.value vars <;> rfl

/-- **An expression that ends has the value of its tree,** and what follows it is left. -/
theorem evaluate_of_forms {ts rest : List Token} {e : Tree} (h : Forms 0 ts e)
    (hr : Stops rest) : evaluate vars (ts ++ rest) = (e.value vars).map (·, rest) := by
  rw [evaluate, toPostfix_of_forms h hr]
  show (ofPostfix vars e.postorder).bind _ = _
  rw [ofPostfix_postorder h.proper]
  cases e.value vars <;> rfl

theorem Forms.evaluate_self {ts : List Token} {e : Tree} (h : Forms 0 ts e) :
    evaluate vars ts = (e.value vars).map (·, []) := by
  have hend : evaluate vars (ts ++ []) = _ := evaluate_of_forms h stops_nil
  rwa [List.append_nil] at hend

theorem calculate_of_forms {source : String} {ts : List Token} {e : Tree}
    (htokens : tokenize source = .ok ts) (hforms : Forms 0 ts e) (vars : Variables) :
    calculate vars source = e.value vars := by
  simp only [calculate, htokens, Fault.ofScript, bind, Except.bind, hforms.evaluate_self]
  cases e.value vars <;> rfl

end GridSketch.Expression
