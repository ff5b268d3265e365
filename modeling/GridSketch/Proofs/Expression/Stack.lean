import GridSketch.Proofs.Expression.Limits
import GridSketch.Proofs.Expression.Parse

/-!
# A stack of values is a row of trees

However operands and operators are mixed, the values that wait on the stack are those of trees, and
the postorders of these trees make up the tokens worked off so far. One value is left if there is
one tree.

* `Grows` is this invariant, `Grows.push` one step and `Grows.run` a run.
* `ofPostfix_exact`: which tokens have a value, and how the others fail.
-/

namespace GridSketch

/-- A token of a list in operand-first order: an operand or an operator. -/
def Token.Postfixed (t : Token) : Prop := t.kind.isOperand = true ∨ ∃ o, t.kind = .operator o

namespace Expression

variable {vars : Variables}

/-! ## From the stack to trees -/

/-- The tokens worked off are the postorders of trees, which have the values on the stack. -/
inductive Grows (vars : Variables) : List Token → List Value → Prop
  | nil : Grows vars [] []
  | tree {worked stack v} {e : Tree} : Grows vars worked stack → e.Proper → e.value vars = .ok v →
      Grows vars (worked ++ e.postorder) (v :: stack)

theorem Grows.push {worked : List Token} {stack stack' : List Value} {t : Token}
    (h : Grows vars worked stack) (ht : t.Postfixed) (hpush : push vars stack t = .ok stack') :
    Grows vars (worked ++ [t]) stack' := by
  rcases ht with ht | ⟨o, ho⟩
  · rw [push_operand ht] at hpush
    cases hv : operand vars t with
    | error fault =>
      rw [hv] at hpush
      cases hpush
    | ok v =>
      rw [hv] at hpush
      cases hpush
      exact h.tree (e := .leaf t) ht hv
  · cases h with
    | nil => simp [Expression.push, ho] at hpush
    | @tree _ _ b r h hr hb =>
      cases h with
      | nil => simp [Expression.push, ho] at hpush
      | @tree worked stack a l h hl ha =>
        rw [push_operator ho] at hpush
        cases hv : applyToken t a b with
        | error fault =>
          rw [hv] at hpush
          cases hpush
        | ok v =>
          rw [hv] at hpush
          cases hpush
          have hnode : (Tree.node t l r).Proper := ⟨⟨o, ho⟩, hl, hr⟩
          have hvalue : (Tree.node t l r).value vars = .ok v := by
            simp [Tree.value, ha, hb, hv, bind, Except.bind]
          simpa [Tree.postorder] using h.tree hnode hvalue

theorem Grows.run {worked ts : List Token} {stack stack' : List Value} (h : Grows vars worked stack)
    (hts : ∀ t ∈ ts, t.Postfixed) (hrun : ts.foldlM (Expression.push vars) stack = .ok stack') :
    Grows vars (worked ++ ts) stack' := by
  induction ts generalizing worked stack with
  | nil =>
    cases hrun
    rwa [List.append_nil]
  | cons t ts ih =>
    obtain ⟨ht, hts⟩ := List.forall_mem_cons.1 hts
    rw [List.foldlM_cons] at hrun
    cases hpush : Expression.push vars stack t with
    | error fault =>
      rw [hpush] at hrun
      cases hrun
    | ok next =>
      rw [hpush] at hrun
      simpa using ih (h.push ht hpush) hts hrun

/-- **Tokens have a value** if and only if they are the postorder of a tree that has it. -/
theorem ofPostfix_ok_iff {ts : List Token} (hts : ∀ t ∈ ts, t.Postfixed) {v : Value} :
    ofPostfix vars ts = .ok v ↔ ∃ e : Tree, e.Proper ∧ e.postorder = ts ∧ e.value vars = .ok v := by
  constructor
  · intro h
    simp only [ofPostfix, bind, Except.bind] at h
    split at h
    · cases h
    · next stack hrun =>
      have hgrows : Grows vars ts stack := Grows.nil.run hts hrun
      split at h
      · cases h
        cases hgrows with
        | tree hnil he hv =>
          cases hnil
          exact ⟨_, he, rfl, hv⟩
      · split at h <;> cases h
  · rintro ⟨e, he, rfl, hv⟩
    rw [ofPostfix_postorder he, hv]

/-! ## Where a tree fails -/

/-- The subtrees of a tree, in the order in which they are worked out. -/
def Tree.parts : Tree → List Tree
  | leaf t => [leaf t]
  | node t left right => left.parts ++ right.parts ++ [node t left right]

/-- The token that is worked off last. -/
def Tree.root : Tree → Token
  | leaf t => t
  | node t _ _ => t

theorem Tree.map_root_parts (e : Tree) : e.parts.map root = e.postorder := by
  induction e with
  | leaf t => rfl
  | node t left right ihl ihr => simp [parts, postorder, ihl, ihr, root]

/-- Of all subtrees, `part` is the first without a value. -/
def Tree.FailsFirst (e : Tree) (vars : Variables) (part : Tree) (fault : Fault) : Prop :=
  ∃ before after, e.parts = before ++ part :: after ∧
    (∀ u ∈ before, ∃ v, u.value vars = .ok v) ∧ part.value vars = .error fault

theorem Tree.parts_value {e : Tree} {v : Value} (h : e.value vars = .ok v) :
    ∀ u ∈ e.parts, ∃ w, u.value vars = .ok w := by
  induction e generalizing v with
  | leaf t =>
    intro u hu
    rw [List.mem_singleton.1 hu]
    exact ⟨v, h⟩
  | node t left right ihl ihr =>
    have hnode := h
    simp only [Tree.value, bind, Except.bind] at h
    split at h
    · cases h
    · next a ha =>
      split at h
      · cases h
      · next b hb =>
        simp only [parts, List.forall_mem_append, List.forall_mem_singleton]
        exact ⟨⟨ihl ha, ihr hb⟩, v, hnode⟩

theorem Tree.readable_of_postorder {e : Tree} (h : ∀ t ∈ e.postorder, t.Readable) : e.Readable := by
  induction e with
  | leaf t => exact h t (by simp [postorder])
  | node t left right ihl ihr =>
    constructor
    · exact ihl fun u hu => h u (by simp [postorder, hu])
    · exact ihr fun u hu => h u (by simp [postorder, hu])

theorem operand_error_atToken {t : Token} {fault : Fault} (ht : t.kind.isOperand = true)
    (hr : t.Readable) (h : operand vars t = .error fault) : ∃ cause, fault = .atToken t cause := by
  unfold operand at h
  split at h
  · next hk =>
    obtain ⟨x, hx⟩ := hr.value hk
    simp [hx] at h
  · cases h
  · simp only [Variables.get] at h
    split at h
    · cases h
    · cases h
      exact ⟨_, rfl⟩
  · simp_all [TokenKind.isOperand]

theorem applyToken_error_atToken {t : Token} {o : Operator} {a b : Value} {fault : Fault}
    (ho : t.kind = .operator o) (h : applyToken t a b = .error fault) :
    ∃ cause, fault = .atToken t cause := by
  simp only [applyToken, ho, atToken] at h
  split at h
  · cases h
  · cases h
    exact ⟨_, rfl⟩

/-- A tree without a value has a first subtree without one: an operand that has none itself, or an
    operation on two values that has none. What is known of trees and is inherited by their subtrees
    may be used to see what is wrong there. -/
theorem Tree.first_error {P : Tree → Prop} {Q : Tree → Fault → Prop} {e : Tree} {fault : Fault}
    (hparts : ∀ t left right, P (.node t left right) → P left ∧ P right)
    (hleaf : ∀ t fault, P (.leaf t) → operand vars t = .error fault → Q (.leaf t) fault)
    (hnode : ∀ t left right a b fault, P (.node t left right) → left.value vars = .ok a →
      right.value vars = .ok b → applyToken t a b = .error fault → Q (.node t left right) fault)
    (he : P e) (h : e.value vars = .error fault) :
    ∃ part, e.FailsFirst vars part fault ∧ Q part fault := by
  induction e with
  | leaf t => exact ⟨leaf t, ⟨[], [], rfl, by simp, h⟩, hleaf t fault he h⟩
  | node t left right ihl ihr =>
    obtain ⟨hl, hr⟩ := hparts t left right he
    cases hleft : left.value vars with
    | error fault' =>
      obtain rfl : fault' = fault := by
        simpa [Tree.value, hleft, bind, Except.bind] using h
      obtain ⟨part, ⟨before, after, hsplit, hbefore, hpart⟩, hq⟩ := ihl hl hleft
      exact ⟨part, ⟨before, _, by simp [parts, hsplit]; rfl, hbefore, hpart⟩, hq⟩
    | ok a =>
      have hlefts := parts_value hleft
      cases hright : right.value vars with
      | error fault' =>
        obtain rfl : fault' = fault := by
          simpa [Tree.value, hleft, hright, bind, Except.bind] using h
        obtain ⟨part, ⟨before, after, hsplit, hbefore, hpart⟩, hq⟩ := ihr hr hright
        exact ⟨part, ⟨left.parts ++ before, _, by simp [parts, hsplit]; rfl,
          List.forall_mem_append.2 ⟨hlefts, hbefore⟩, hpart⟩, hq⟩
      | ok b =>
        have happly : applyToken t a b = .error fault := by
          simpa [Tree.value, hleft, hright, bind, Except.bind] using h
        exact ⟨node t left right, ⟨left.parts ++ right.parts, [], rfl,
          List.forall_mem_append.2 ⟨hlefts, parts_value hright⟩, h⟩,
          hnode t left right a b fault he hleft hright happly⟩

/-- **A tree fails for its first subtree, in postorder, that fails,** at the root of that one. -/
theorem Tree.value_first_error {e : Tree} {fault : Fault} (he : e.Proper) (hr : e.Readable)
    (h : e.value vars = .error fault) :
    ∃ part cause, e.FailsFirst vars part fault ∧ fault = .atToken part.root cause := by
  obtain ⟨part, hfirst, cause, hcause⟩ := first_error
    (P := fun e => e.Proper ∧ e.Readable)
    (Q := fun part fault => ∃ cause, fault = .atToken part.root cause)
    (fun _ _ _ h => ⟨⟨h.1.2.1, h.2.1⟩, h.1.2.2, h.2.2⟩)
    (fun _ _ h hoperand => operand_error_atToken h.1 h.2 hoperand)
    (fun _ _ _ _ _ _ h _ _ happly => applyToken_error_atToken h.1.1.choose_spec happly)
    ⟨he, hr⟩ h
  exact ⟨part, cause, hfirst, hcause⟩

/-! ## The evaluation -/

theorem evaluate_of_read (vars : Variables) {ts p rest : List Token}
    (h : toPostfix ts = .ok (p, rest)) :
    ∃ taken e, ts = taken ++ rest ∧ Forms 0 taken e ∧ p = e.postorder ∧
      evaluate vars ts = (e.value vars).map (·, rest) := by
  obtain ⟨taken, e, rfl, hforms, hp, hstop⟩ := toPostfix_ok_iff.1 h
  exact ⟨taken, e, rfl, hforms, hp, evaluate_of_forms hforms hstop⟩

theorem evaluate_error {ts : List Token} (hts : ∀ t ∈ ts, t.Readable) {d : Diagnostic}
    (h : evaluate vars ts = .error (.script d)) : Unreadable d.cause ∨ Evaluates d.cause.kind := by
  cases hread : toPostfix ts with
  | error d' =>
    simp only [evaluate, hread, Fault.ofScript, bind, Except.bind] at h
    cases h
    exact Or.inl (toPostfix_refused hread)
  | ok result =>
    obtain ⟨p, rest⟩ := result
    obtain ⟨taken, e, rfl, hforms, -, hvalue⟩ := evaluate_of_read vars hread
    rw [hvalue] at h
    cases hv : e.value vars with
    | ok v =>
      rw [hv] at h
      cases h
    | error fault =>
      rw [hv] at h
      cases h
      have hreadable := hforms.readable fun t ht => hts t (by simp [ht])
      obtain ⟨d', hd, hkind⟩ := Tree.value_error hforms.proper hreadable hv
      cases hd
      exact Or.inr hkind

/-- **Working off operands and operators is working out a tree.** Let tokens be operands and
    operators.

    * They have a value if and only if they are the postorder of a tree with this value; there is
      one such tree at most.
    * If they are the postorder of a tree, each of them is the root of one subtree. If the tree
      fails they fail in the same way, at the root of the first subtree that fails.
    * If they are the postorder of no tree, the script is at fault.

    So an expression of a script never lacks an operand for an operator and never leaves values
    over, and if it can be read it comes to what its tree comes to. -/
theorem ofPostfix_exact (vars : Variables) :
    (∀ s : List Token, (∀ t ∈ s, t.Postfixed ∧ t.Readable) →
      (∀ v, ofPostfix vars s = .ok v ↔
        ∃ e : Tree, e.Proper ∧ e.postorder = s ∧ e.value vars = .ok v) ∧
      (∀ e e' : Tree, e.Proper → e.postorder = s → e'.Proper → e'.postorder = s → e = e') ∧
      (∀ e : Tree, e.Proper → e.postorder = s → e.parts.map Tree.root = s ∧
        ∀ fault, e.value vars = .error fault → ofPostfix vars s = .error fault ∧
          ∃ part cause, e.FailsFirst vars part fault ∧ fault = .atToken part.root cause) ∧
      ((¬ ∃ e : Tree, e.Proper ∧ e.postorder = s) → ∃ d, ofPostfix vars s = .error (.script d))) ∧
    ∀ (source : String) (ts : List Token) (start : Nat), tokenize source = .ok ts →
      (∀ d, evaluate vars (ts.drop start) = .error (.script d) →
        (∀ symbol, d.cause ≠ .operandMissingFor symbol) ∧ ∀ count, d.cause ≠ .valuesLeft count) ∧
      ∀ p rest, toPostfix (ts.drop start) = .ok (p, rest) →
        ∃ taken e, ts.drop start = taken ++ rest ∧ Forms 0 taken e ∧ p = e.postorder ∧
          evaluate vars (ts.drop start) = (e.value vars).map (·, rest) := by
  refine ⟨fun s hs => ?_, fun source ts start htokens => ⟨fun d h => ?_, fun p rest hread =>
    evaluate_of_read vars hread⟩⟩
  · have hpostfixed : ∀ t ∈ s, t.Postfixed := fun t ht => (hs t ht).1
    have hreadable : ∀ t ∈ s, t.Readable := fun t ht => (hs t ht).2
    refine ⟨fun v => ofPostfix_ok_iff hpostfixed,
      fun e e' he hpost he' hpost' => postorder_inj he he' (hpost.trans hpost'.symm),
      fun e he hpost => ?_, fun hnone => ?_⟩
    · subst hpost
      refine ⟨e.map_root_parts, fun fault h => ⟨by rw [ofPostfix_postorder he, h], ?_⟩⟩
      exact Tree.value_first_error he (Tree.readable_of_postorder hreadable) h
    · cases h : ofPostfix vars s with
      | ok v =>
        obtain ⟨e, he, hpost, -⟩ := (ofPostfix_ok_iff hpostfixed).1 h
        exact absurd ⟨e, he, hpost⟩ hnone
      | error fault =>
        cases fault with
        | script d => exact ⟨d, rfl⟩
        | breach b => exact absurd h (ofPostfix_within hreadable b)
  · have hreadable : ∀ t ∈ ts.drop start, t.Readable := fun t ht =>
      Lexer.tokens_readable htokens t (List.mem_of_mem_drop ht)
    rcases evaluate_error hreadable h with hcause | hkind
    · constructor <;> rintro _ hd <;> rw [hd] at hcause <;> cases hcause
    · constructor <;> rintro _ hd <;> rw [hd] at hkind <;> simp [Evaluates, Cause.kind] at hkind

/-- The difference `x - 2` of a variable that is not defined and a number. -/
theorem ofPostfix_exact_difference :
    let x : Token := ⟨.identifier, "x", ⟨1, 1⟩⟩
    let minus : Token := ⟨.operator .minus, "-", ⟨1, 3⟩⟩
    let two : Token := ⟨.number, "2", ⟨1, 5⟩⟩
    let e : Tree := .node minus (.leaf x) (.leaf two)
    tokenize "x - 2" = .ok [x, minus, two] ∧ (∀ t ∈ [x, two, minus], t.Postfixed ∧ t.Readable) ∧
      e.Proper ∧ e.postorder = [x, two, minus] ∧
      e.value [] = .error (.atToken x (.undefined "x")) ∧
      ofPostfix [] [x, two, minus] = .error (.atToken x (.undefined "x")) ∧
      ∀ count, Cause.undefined "x" ≠ .valuesLeft count := by
  intro x minus two e
  have htokens : tokenize "x - 2" = .ok [x, minus, two] := by decide +kernel
  have hproper : e.Proper := ⟨⟨.minus, rfl⟩, rfl, rfl⟩
  have hs : ∀ t ∈ [x, two, minus], t.Postfixed ∧ t.Readable := by
    intro t ht
    refine ⟨?_, Lexer.tokens_readable htokens t (by simpa [or_comm, or_left_comm] using ht)⟩
    simp only [List.mem_cons, List.not_mem_nil, or_false] at ht
    rcases ht with rfl | rfl | rfl
    exacts [Or.inl rfl, Or.inl rfl, Or.inr ⟨.minus, rfl⟩]
  have hvalue : e.value [] = .error (.atToken x (.undefined "x")) := rfl
  have hevaluate :
      evaluate [] ([x, minus, two].drop 0) = .error (.atToken x (.undefined "x")) := rfl
  obtain ⟨hexact, hscript⟩ := ofPostfix_exact []
  exact ⟨htokens, hs, hproper, rfl, hvalue,
    (((hexact _ hs).2.2.1 e hproper rfl).2 _ hvalue).1,
    ((hscript _ _ 0 htokens).1 _ hevaluate).2⟩

end Expression

end GridSketch
