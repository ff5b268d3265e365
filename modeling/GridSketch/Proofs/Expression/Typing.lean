import GridSketch.Proofs.Expression.Stack

/-!
# Types of expressions

Whether an expression has a value can be told from the types of its operands, divisions by zero
apart.

* `Operator.Types`: the types an operator takes, and the type it makes of them. `Tree.HasType`: the
  type of a tree.
* `evaluate_typed`: what the type of an expression says about its value.
-/

namespace GridSketch

/-! ## Operators -/

namespace Operator

/-- Which types an operator takes on its left and on its right, and which type it makes of them. -/
inductive Types : Operator → ValueType → ValueType → ValueType → Prop
  | arithmetic {o} : o ∈ [plus, minus, star, slash] → Types o .number .number .number
  | comparison {o} : o ∈ [eq, ne, lt, gt, le, ge] → Types o .number .number .boolean
  | equality {o} : o ∈ [eq, ne] → Types o .boolean .boolean .boolean

variable {o : Operator}

theorem Types.unique {a b c c' : ValueType} (h : o.Types a b c) (h' : o.Types a b c') : c = c' := by
  cases h with
  | arithmetic ho =>
    cases h' with
    | arithmetic => rfl
    | comparison ho' => cases o <;> simp at ho ho'
  | comparison ho =>
    cases h' with
    | arithmetic ho' => cases o <;> simp at ho ho'
    | comparison => rfl
  | equality =>
    cases h' with
    | equality => rfl

theorem types_number (o : Operator) : ∃ c, o.Types .number .number c := by
  cases o with
  | plus | minus | star | slash => exact ⟨_, .arithmetic (by decide)⟩
  | eq | ne | lt | gt | le | ge => exact ⟨_, .comparison (by decide)⟩

theorem onNumbers_ok {x y : Float} {v : Value} (h : o.onNumbers x y = .ok v) :
    o.Types .number .number v.type := by
  cases o with
  | plus | minus | star =>
    cases h
    exact .arithmetic (by decide)
  | slash =>
    simp only [onNumbers] at h
    split at h
    · cases h
    · cases h
      exact .arithmetic (by decide)
  | eq | ne | lt | gt | le | ge =>
    cases h
    exact .comparison (by decide)

theorem apply_ok {symbol : String} {a b v : Value} (h : o.apply symbol a b = .ok v) :
    o.Types a.type b.type v.type := by
  unfold apply at h
  split at h
  · exact onNumbers_ok h
  · split at h
    · cases h
      exact .equality (by decide)
    · cases h
      exact .equality (by decide)
    · cases h
  · cases h

theorem Types.operands {a b : Value} {c : ValueType} (h : o.Types a.type b.type c) :
    (∃ x y, a = .number x ∧ b = .number y) ∨
      o ∈ [eq, ne] ∧ ∃ p q, a = .boolean p ∧ b = .boolean q := by
  cases a with
  | number x =>
    cases b with
    | number y => exact Or.inl ⟨x, y, rfl, rfl⟩
    | text | boolean => cases h
  | text => cases b <;> cases h
  | boolean p =>
    cases b with
    | number | text => cases h
    | boolean q =>
      cases h with
      | equality ho => exact Or.inr ⟨ho, p, q, rfl, rfl⟩

/-- **An operation without a value** is a division of numbers by zero, or one without a type. -/
theorem apply_error {symbol : String} {a b : Value} {cause : Cause}
    (h : o.apply symbol a b = .error cause) :
    cause = .divisionByZero ∧ (∃ c, o.Types a.type b.type c) ∨
      cause.kind = .typing ∧ ¬ ∃ c, o.Types a.type b.type c := by
  unfold apply at h
  split at h
  · exact Or.inl ⟨Expression.onNumbers_error h, o.types_number⟩
  · split at h
    · cases h
    · cases h
    · next hne hnn =>
      cases h
      refine Or.inr ⟨rfl, fun ⟨c, hc⟩ => ?_⟩
      cases hc with
      | equality ho =>
        simp only [List.mem_cons, List.not_mem_nil, or_false] at ho
        rcases ho with rfl | rfl
        · exact hne rfl
        · exact hnn rfl
  · next hnumbers hbooleans =>
    cases h
    refine Or.inr ⟨rfl, fun ⟨c, hc⟩ => ?_⟩
    obtain ⟨x, y, rfl, rfl⟩ | ⟨-, p, q, rfl, rfl⟩ := hc.operands
    · exact hnumbers x y rfl rfl
    · exact hbooleans p q rfl rfl

end Operator

namespace Expression

/-! ## Trees -/

/-- The type of a tree: numbers and texts have theirs, a variable has the type of its value, and an
    operator makes its type of those of its operands. -/
inductive Tree.HasType (vars : Variables) : Tree → ValueType → Prop
  | number {t} : t.kind = .number → HasType vars (.leaf t) .number
  | text {t} : t.kind = .string → HasType vars (.leaf t) .text
  | name {t v} : t.kind = .identifier → vars.get? t.text = some v →
      HasType vars (.leaf t) v.type
  | operation {t o left right a b c} : t.kind = .operator o → HasType vars left a →
      HasType vars right b → o.Types a b c → HasType vars (.node t left right) c

/-- A tree has a type. -/
def Tree.Typable (vars : Variables) (e : Tree) : Prop := ∃ type, e.HasType vars type

/-- The variables of a tree are defined. -/
def Tree.Bound (vars : Variables) : Tree → Prop
  | leaf t => t.kind = .identifier → ∃ v, vars.get? t.text = some v
  | node _ left right => left.Bound vars ∧ right.Bound vars

variable {vars : Variables}

theorem Tree.hasType_node {t : Token} {left right : Tree} {c : ValueType} :
    (node t left right).HasType vars c ↔ ∃ o a b, t.kind = .operator o ∧
      left.HasType vars a ∧ right.HasType vars b ∧ o.Types a b c := by
  constructor
  · rintro (_ | _ | _ | ⟨ho, hl, hr, htypes⟩)
    exact ⟨_, _, _, ho, hl, hr, htypes⟩
  · rintro ⟨o, a, b, ho, hl, hr, htypes⟩
    exact .operation ho hl hr htypes

theorem Tree.HasType.unique {e : Tree} {c c' : ValueType} (h : e.HasType vars c)
    (h' : e.HasType vars c') : c = c' := by
  induction h generalizing c' with
  | number hk => cases h' <;> simp_all
  | text hk => cases h' <;> simp_all
  | name hk hv => cases h' <;> simp_all
  | operation ho _ _ htypes ihl ihr =>
    obtain ⟨o', a', b', ho', hl, hr, htypes'⟩ := hasType_node.1 h'
    obtain rfl := TokenKind.operator.inj (ho.symm.trans ho')
    obtain rfl := ihl hl
    obtain rfl := ihr hr
    exact htypes.unique htypes'

theorem Tree.mem_parts_self (e : Tree) : e ∈ e.parts := by
  cases e with
  | leaf t => exact List.mem_singleton_self _
  | node t left right => exact List.mem_append_right _ (List.mem_singleton_self _)

theorem Tree.Proper.parts {e : Tree} (he : e.Proper) : ∀ u ∈ e.parts, u.Proper := by
  induction e with
  | leaf t =>
    intro u hu
    rwa [List.mem_singleton.1 hu]
  | node t left right ihl ihr =>
    simp only [Tree.parts, List.forall_mem_append, List.forall_mem_singleton]
    exact ⟨⟨ihl he.2.1, ihr he.2.2⟩, he⟩

theorem Tree.HasType.parts {e : Tree} {c : ValueType} (h : e.HasType vars c) :
    ∀ u ∈ e.parts, u.Typable vars := by
  induction h with
  | number hk =>
    intro u hu
    rw [List.mem_singleton.1 hu]
    exact ⟨_, .number hk⟩
  | text hk =>
    intro u hu
    rw [List.mem_singleton.1 hu]
    exact ⟨_, .text hk⟩
  | name hk hv =>
    intro u hu
    rw [List.mem_singleton.1 hu]
    exact ⟨_, .name hk hv⟩
  | operation ho hl hr htypes ihl ihr =>
    simp only [Tree.parts, List.forall_mem_append, List.forall_mem_singleton]
    exact ⟨⟨ihl, ihr⟩, _, .operation ho hl hr htypes⟩

theorem hasType_of_operand {t : Token} {v : Value} (ht : t.kind.isOperand = true)
    (h : operand vars t = .ok v) : (Tree.leaf t).HasType vars v.type := by
  unfold operand at h
  split at h
  · next hk =>
    split at h
    · cases h
      exact .number hk
    · cases h
  · next hk =>
    cases h
    exact .text hk
  · next hk =>
    simp only [Variables.get] at h
    split at h
    · next w hw =>
      cases h
      exact .name hk hw
    · cases h
  · simp_all [TokenKind.isOperand]

theorem Tree.hasType_of_value {e : Tree} {v : Value} (he : e.Proper) (h : e.value vars = .ok v) :
    e.HasType vars v.type := by
  induction e generalizing v with
  | leaf t => exact hasType_of_operand he h
  | node t left right ihl ihr =>
    obtain ⟨⟨o, ho⟩, hl, hr⟩ := he
    cases hleft : left.value vars with
    | error fault => simp [Tree.value, hleft, bind, Except.bind] at h
    | ok a =>
      cases hright : right.value vars with
      | error fault => simp [Tree.value, hleft, hright, bind, Except.bind] at h
      | ok b =>
        simp only [Tree.value, hleft, hright, bind, Except.bind, applyToken, ho] at h
        cases hop : o.apply t.text a b with
        | error cause =>
          rw [hop] at h
          cases h
        | ok w =>
          rw [hop] at h
          cases h
          exact .operation ho (ihl hl hleft) (ihr hr hright) (Operator.apply_ok hop)

theorem operand_ok {t : Token} (ht : t.kind.isOperand = true) (hr : t.Readable)
    (hb : t.kind = .identifier → ∃ v, vars.get? t.text = some v) :
    ∃ v, operand vars t = .ok v := by
  unfold operand
  split
  · next hk =>
    obtain ⟨x, hx⟩ := hr.value hk
    exact ⟨.number x, by rw [hx]⟩
  · exact ⟨_, rfl⟩
  · next hk =>
    obtain ⟨v, hv⟩ := hb hk
    exact ⟨v, by simp only [Variables.get, hv, Fault.ofScript]⟩
  · simp_all [TokenKind.isOperand]

/-- **A tree without a value,** whose operands have values, has a first subtree without one: a
    division of two numbers by zero, or an operation that has no type. -/
theorem Tree.value_first_fault {e : Tree} {fault : Fault} (he : e.Proper) (hr : e.Readable)
    (hb : e.Bound vars) (h : e.value vars = .error fault) :
    ∃ part cause, e.FailsFirst vars part fault ∧ fault = .atToken part.root cause ∧
      (cause = .divisionByZero ∧ part.Typable vars ∨
        cause.kind = .typing ∧ ¬ part.Typable vars) := by
  suffices hpart : ∃ part, e.FailsFirst vars part fault ∧
      ∃ cause, fault = .atToken part.root cause ∧
        (cause = .divisionByZero ∧ part.Typable vars ∨
          cause.kind = .typing ∧ ¬ part.Typable vars) by
    obtain ⟨part, hfirst, cause, hq⟩ := hpart
    exact ⟨part, cause, hfirst, hq⟩
  refine first_error
    (P := fun e => e.Proper ∧ e.Readable ∧ e.Bound vars)
    (Q := fun part fault => ∃ cause, fault = .atToken part.root cause ∧
      (cause = .divisionByZero ∧ part.Typable vars ∨ cause.kind = .typing ∧ ¬ part.Typable vars))
    (fun _ _ _ h => ⟨⟨h.1.2.1, h.2.1.1, h.2.2.1⟩, h.1.2.2, h.2.1.2, h.2.2.2⟩)
    (fun t fault h hoperand => ?_) (fun t left right a b fault h hleft hright happly => ?_)
    ⟨he, hr, hb⟩ h
  · obtain ⟨v, hv⟩ := operand_ok h.1 h.2.1 h.2.2
    rw [hv] at hoperand
    cases hoperand
  · obtain ⟨⟨⟨o, ho⟩, hpl, hpr⟩, -⟩ := h
    have hl : left.HasType vars a.type := hasType_of_value hpl hleft
    have hr : right.HasType vars b.type := hasType_of_value hpr hright
    simp only [applyToken, ho, atToken] at happly
    split at happly
    · cases happly
    · next cause hcause =>
      cases happly
      refine ⟨cause, rfl, (Operator.apply_error hcause).imp ?_ ?_⟩
      · rintro ⟨hdivision, c, hc⟩
        exact ⟨hdivision, c, .operation ho hl hr hc⟩
      · rintro ⟨hkind, hnone⟩
        refine ⟨hkind, ?_⟩
        rintro ⟨c, hc⟩
        refine hnone ?_
        obtain ⟨o', a', b', ho', hl', hr', htypes⟩ := hasType_node.1 hc
        obtain rfl := TokenKind.operator.inj (ho.symm.trans ho')
        rw [hl.unique hl', hr.unique hr']
        exact ⟨c, htypes⟩

/-! ## Expressions -/

theorem Forms.bound {n : Nat} {ts : List Token} {e : Tree} (h : Forms n ts e)
    (hts : ∀ t ∈ ts, t.kind = .identifier → ∃ v, vars.get? t.text = some v) : e.Bound vars := by
  induction h with
  | operand _ => exact hts _ (by simp)
  | group _ _ _ ih => exact ih fun t ht => hts t (by simp [ht])
  | binary _ _ _ _ ihl ihr =>
    exact ⟨ihl fun t ht => hts t (by simp [ht]), ihr fun t ht => hts t (by simp [ht])⟩
  | signed hs _ _ _ ihl ihr =>
    refine ⟨ihl fun t ht => hts t (by simp [ht]), ihr fun t ht hk => ?_⟩
    rcases List.mem_cons.1 ht with rfl | ht
    · rw [(Token.signSplit?_kinds hs).2.2] at hk
      cases hk
    · exact hts t (by simp [ht]) hk

theorem exists_first_not {α : Type} {p : α → Prop} {l : List α} (h : ∃ a ∈ l, ¬ p a) :
    ∃ before a after, l = before ++ a :: after ∧ (∀ b ∈ before, p b) ∧ ¬ p a := by
  induction l with
  | nil => simp at h
  | cons b l ih =>
    by_cases hb : p b
    · obtain ⟨a, ha, hna⟩ := h
      have hmem : a ∈ l := (List.mem_cons.1 ha).resolve_left fun heq => hna (heq ▸ hb)
      obtain ⟨before, a, after, rfl, hbefore, hna⟩ := ih ⟨a, hmem, hna⟩
      exact ⟨b :: before, a, after, rfl, List.forall_mem_cons.2 ⟨hb, hbefore⟩, hna⟩
    · exact ⟨[], b, l, rfl, by simp, hb⟩

/-- **The type of an expression tells whether it has a value.** Let its variables be defined and its
    numbers be readable, as those of a script are.

    * If it has a type, it comes to a value of this type, or a division by zero is the first of its
      subexpressions, in postorder, that fails.
    * If it has none, it comes to no value. Of its subexpressions without a type one is the first;
      it is refused for the types of its operands, unless one before it, which has a type, divides
      by zero. -/
theorem evaluate_typed {vars : Variables} {ts rest : List Token} {e : Tree} (h : Forms 0 ts e)
    (hstop : Stops rest) (hreadable : ∀ t ∈ ts, t.Readable)
    (hbound : ∀ t ∈ ts, t.kind = .identifier → ∃ v, vars.get? t.text = some v) :
    (∀ type, e.HasType vars type →
      (∃ v, evaluate vars (ts ++ rest) = .ok (v, rest) ∧ v.type = type) ∨
      ∃ part, e.FailsFirst vars part (.atToken part.root .divisionByZero) ∧
        evaluate vars (ts ++ rest) = .error (.atToken part.root .divisionByZero)) ∧
    (¬ e.Typable vars →
      ∃ before part after, e.parts = before ++ part :: after ∧
        (∀ u ∈ before, u.Typable vars) ∧ ¬ part.Typable vars ∧
        ((∃ cause, cause.kind = .typing ∧
            evaluate vars (ts ++ rest) = .error (.atToken part.root cause)) ∨
          ∃ u ∈ before, u.value vars = .error (.atToken u.root .divisionByZero) ∧
            evaluate vars (ts ++ rest) = .error (.atToken u.root .divisionByZero))) := by
  have hproper := h.proper
  rw [evaluate_of_forms h hstop]
  cases hvalue : e.value vars with
  | ok v =>
    have htype : e.HasType vars v.type := Tree.hasType_of_value hproper hvalue
    refine ⟨fun type ht => Or.inl ⟨v, rfl, htype.unique ht⟩, fun hnone => ?_⟩
    exact absurd ⟨_, htype⟩ hnone
  | error fault =>
    obtain ⟨part, cause, hfirst, rfl, hcause⟩ :=
      Tree.value_first_fault hproper (h.readable hreadable) (h.bound hbound) hvalue
    obtain ⟨before, after, hparts, hbefore, hpart⟩ := id hfirst
    have htyped : ∀ u ∈ before, u.Typable vars := by
      intro u hu
      obtain ⟨v, hv⟩ := hbefore u hu
      exact ⟨v.type, Tree.hasType_of_value (hproper.parts u (by simp [hparts, hu])) hv⟩
    refine ⟨fun type ht => ?_, fun hnone => ?_⟩
    · have hall := ht.parts
      rcases hcause with ⟨rfl, -⟩ | ⟨-, hpartNone⟩
      · exact Or.inr ⟨part, hfirst, rfl⟩
      · exact absurd (hall part (by simp [hparts])) hpartNone
    · rcases hcause with ⟨rfl, hpartTyped⟩ | ⟨hkind, hpartNone⟩
      · -- the first subexpression without a type comes after the division
        have hlate : ∃ u ∈ after, ¬ u.Typable vars := by
          refine ⟨e, ?_, hnone⟩
          have hself : e ∈ before ++ part :: after := hparts ▸ e.mem_parts_self
          rcases List.mem_append.1 hself with hmem | hmem
          · exact absurd (htyped e hmem) hnone
          · exact (List.mem_cons.1 hmem).resolve_left fun heq => hnone (heq ▸ hpartTyped)
        obtain ⟨between, u, behind, rfl, hbetween, hu⟩ := exists_first_not hlate
        refine ⟨before ++ part :: between, u, behind, by simp [hparts],
          List.forall_mem_append.2 ⟨htyped, List.forall_mem_cons.2 ⟨hpartTyped, hbetween⟩⟩, hu,
          Or.inr ⟨part, by simp, hpart, rfl⟩⟩
      · exact ⟨before, part, after, hparts, htyped, hpartNone, Or.inl ⟨cause, hkind, rfl⟩⟩

/-- In `a / 0 == b` a number and a truth value are compared, but the division comes first. -/
theorem evaluate_typed_division :
    let vars : Variables := [("a", .number 1), ("b", .boolean true)]
    let a : Token := ⟨.identifier, "a", ⟨1, 1⟩⟩
    let slash : Token := ⟨.operator .slash, "/", ⟨1, 3⟩⟩
    let zero : Token := ⟨.number, "0", ⟨1, 5⟩⟩
    let equal : Token := ⟨.operator .eq, "==", ⟨1, 7⟩⟩
    let b : Token := ⟨.identifier, "b", ⟨1, 10⟩⟩
    let quotient : Tree := .node slash (.leaf a) (.leaf zero)
    let e : Tree := .node equal quotient (.leaf b)
    let ts := [a, slash, zero, equal, b]
    tokenize "a / 0 == b" = .ok ts ∧ Forms 0 ts e ∧ (∀ t ∈ ts, t.Readable) ∧
      (∀ t ∈ ts, t.kind = .identifier → ∃ v, vars.get? t.text = some v) ∧
      quotient.HasType vars .number ∧ ¬ e.Typable vars ∧
      ∃ before part after, e.parts = before ++ part :: after ∧
        (∀ u ∈ before, u.Typable vars) ∧ ¬ part.Typable vars ∧
        ((∃ cause, cause.kind = .typing ∧
            evaluate vars ts = .error (.atToken part.root cause)) ∨
          ∃ u ∈ before, u.value vars = .error (.atToken u.root .divisionByZero) ∧
            evaluate vars ts = .error (.atToken u.root .divisionByZero)) := by
  intro vars a slash zero equal b quotient e ts
  have htokens : tokenize "a / 0 == b" = .ok ts := by decide +kernel
  have hquotient : Forms 0 ([a] ++ slash :: [zero]) quotient :=
    .binary (o := .slash) rfl (by decide) (.operand rfl) (.operand rfl)
  have h : Forms 0 ([a, slash, zero] ++ equal :: [b]) e :=
    .binary (o := .eq) rfl (by decide) hquotient (.operand rfl)
  have hbound : ∀ t ∈ ts, t.kind = .identifier → ∃ v, vars.get? t.text = some v := by
    intro t ht hk
    simp only [ts, List.mem_cons, List.not_mem_nil, or_false] at ht
    rcases ht with rfl | rfl | rfl | rfl | rfl
    exacts [⟨_, rfl⟩, absurd hk (by decide), absurd hk (by decide), absurd hk (by decide), ⟨_, rfl⟩]
  have hnumber : quotient.HasType vars .number :=
    .operation (o := .slash) rfl (.name (v := .number 1) rfl rfl) (.number rfl)
      (.arithmetic (by decide))
  have hnone : ¬ e.Typable vars := by
    rintro ⟨type, htype⟩
    obtain ⟨o, left, right, -, hl, hr, htypes⟩ := Tree.hasType_node.1 htype
    obtain rfl := hnumber.unique hl
    obtain rfl := (Tree.HasType.name (v := .boolean true) rfl rfl).unique hr
    cases htypes
  have hreadable := Lexer.tokens_readable htokens
  exact ⟨htokens, h, hreadable, hbound, hnumber, hnone,
    (evaluate_typed h stops_nil hreadable hbound).2 hnone⟩

end Expression

end GridSketch
