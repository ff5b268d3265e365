import GridSketch.Proofs.Expression.TreeValue
import GridSketch.Proofs.Token.Place

/-!
# Expressions in a longer text

Moving the tokens of an expression moves its tree, and with it the places of its failures; it
changes no value.

* `Forms.behind`: tokens that are moved still form an expression.
* `Tree.value_behind`: the value of a tree that is moved.
-/

namespace GridSketch

/-- A fault, moved. -/
def Fault.behind (p : Position) : Fault → Fault
  | script d => .script (d.behind p)
  | breach b => .breach b

theorem Token.signSplit?_behind (p : Position) (t : Token) :
    (t.behind p).signSplit? =
      t.signSplit?.map fun parts => (parts.1.behind p, parts.2.behind p) := by
  unfold signSplit?
  simp only [behind_kind, behind_text]
  split
  · simp [behind, Position.behind_right]
  · rfl

namespace Expression

/-- A tree, moved. -/
def Tree.behind (p : Position) : Tree → Tree
  | leaf t => .leaf (t.behind p)
  | node t left right => .node (t.behind p) (left.behind p) (right.behind p)

variable (p : Position)

theorem Forms.behind {n : Nat} {ts : List Token} {e : Tree} (h : Forms n ts e) :
    Forms n (ts.map (·.behind p)) (e.behind p) := by
  induction h with
  | operand ht => exact .operand ht
  | group ho hc _ ih =>
    rw [List.map_cons, List.map_append]
    exact .group ho hc ih
  | binary ht hn _ _ ihl ihr =>
    rw [List.map_append, List.map_cons]
    exact .binary ht hn ihl ihr
  | signed ht hn _ _ ihl ihr =>
    rw [List.map_append, List.map_cons]
    refine .signed ?_ hn ihl ihr
    rw [Token.signSplit?_behind, ht]
    rfl

variable (vars : Variables)

theorem operand_behind (t : Token) :
    operand vars (t.behind p) = (operand vars t).mapError (Fault.behind p) := by
  unfold operand
  simp only [Token.behind_kind, Token.behind_text]
  split
  · split <;> rfl
  · rfl
  · simp only [Variables.get]
    split <;> rfl
  · rfl

theorem applyToken_behind (t : Token) (a b : Value) :
    applyToken (t.behind p) a b = (applyToken t a b).mapError (Fault.behind p) := by
  unfold applyToken
  simp only [Token.behind_kind, Token.behind_text]
  split
  · cases Operator.apply _ t.text a b <;> rfl
  · split <;> rfl

/-- **A tree that is moved** has the same value, and fails in the same way at the place moved. -/
theorem Tree.value_behind (e : Tree) :
    (e.behind p).value vars = (e.value vars).mapError (Fault.behind p) := by
  induction e with
  | leaf t => exact operand_behind p vars t
  | node t left right ihl ihr =>
    simp only [Tree.behind, Tree.value, ihl, ihr, bind]
    cases left.value vars with
    | error fault => rfl
    | ok a =>
      cases right.value vars with
      | error fault => rfl
      | ok b => exact applyToken_behind p t a b

end Expression

end GridSketch
