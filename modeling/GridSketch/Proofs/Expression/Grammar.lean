import GridSketch.Expression.ToPostfix

/-!
# The grammar of expressions

An expression is a run of tokens with a tree. `Forms n ts e` says that the tokens `ts` form an
expression with the tree `e` in which every operator outside parentheses binds at least as tightly
as `n`. Operators of one precedence group to the left, and a number with a sign that follows an
operand is a subtraction.

* `Token.extends` is what a token after an expression must not do if the expression is to end there.
* `toPostfix_of_forms`: on an expression that ends there, `toPostfix` returns the postorder of its
  tree and leaves what follows.
-/

namespace GridSketch

/-- Whether a token after an expression goes on with it: an operator or a number with a sign. -/
def Token.extends (t : Token) : Bool := t.kind matches .operator _ || t.signSplit?.isSome

theorem Token.signSplit?_kinds {t minus number : Token} (h : t.signSplit? = some (minus, number)) :
    t.kind = .number ∧ minus.kind = .operator .minus ∧ number.kind = .number := by
  unfold signSplit? at h
  split at h
  · next hk _ =>
    obtain ⟨rfl, rfl⟩ := Prod.mk.inj (Option.some.inj h)
    exact ⟨hk, rfl, rfl⟩
  · cases h

namespace Expression

/-- The tree of an expression: operands, and operators with two subtrees. -/
inductive Tree where
  | leaf (t : Token)
  | node (t : Token) (left right : Tree)
  deriving DecidableEq, Repr

/-- The tokens of a tree, every operator after its operands. -/
def Tree.postorder : Tree → List Token
  | leaf t => [t]
  | node t left right => left.postorder ++ right.postorder ++ [t]

/-- Tokens that form an expression, and its tree. -/
inductive Forms : Nat → List Token → Tree → Prop
  | operand {n t} : t.kind.isOperand = true → Forms n [t] (.leaf t)
  | group {n opening ts e closing} : opening.kind = .leftParen → closing.kind = .rightParen →
      Forms 0 ts e → Forms n (opening :: (ts ++ [closing])) e
  | binary {n o t ls l rs r} : t.kind = .operator o → n ≤ o.precedence →
      Forms o.precedence ls l → Forms (o.precedence + 1) rs r →
      Forms n (ls ++ t :: rs) (.node t l r)
  | signed {n t minus number ls l rs r} : t.signSplit? = some (minus, number) →
      n ≤ Operator.minus.precedence → Forms Operator.minus.precedence ls l →
      Forms (Operator.minus.precedence + 1) (number :: rs) r →
      Forms n (ls ++ t :: rs) (.node minus l r)

/-- The tokens after an expression that ends: none, or a first one that does not go on with it. -/
def Stops (rest : List Token) : Prop := ∀ t ∈ rest.head?, t.extends = false

theorem stops_nil : Stops [] := by
  intro t ht
  cases ht

/-! ## Operators on the stack -/

/-- Operators that bind at least as tightly as `n`, and no parenthesis. -/
def Binding (n : Nat) (stack : List Pending) : Prop :=
  ∀ p ∈ stack, ∃ o t, p = .operator o t ∧ n ≤ o.precedence

/-- An operator of precedence `n` releases nothing from this stack. -/
def Held (n : Nat) (stack : List Pending) : Prop :=
  ∀ o t, stack.head? = some (.operator o t) → o.precedence < n

theorem binding_nil (n : Nat) : Binding n [] := by
  intro p hp
  cases hp

theorem held_nil (n : Nat) : Held n [] := by
  intro o t hs
  cases hs

theorem held_opening (n : Nat) (t : Token) (stack : List Pending) :
    Held n (.opening t :: stack) := by
  intro o u hs
  cases hs

theorem Held.mono {m n : Nat} {stack : List Pending} (h : Held m stack) (hmn : m ≤ n) :
    Held n stack := fun o t hs => Nat.lt_of_lt_of_le (h o t hs) hmn

theorem release_held {o : Operator} {stack : List Pending} {out : List Token}
    (h : Held o.precedence stack) : release o stack out = (stack, out) := by
  cases stack with
  | nil => rfl
  | cons p stack =>
    cases p with
    | opening t => rfl
    | operator q t => rw [release, if_neg (Nat.not_le.2 (h q t rfl))]

theorem release_append {o : Operator} {inner stack : List Pending} {out : List Token}
    (hi : Binding o.precedence inner) (hs : Held o.precedence stack) :
    release o (inner ++ stack) out = (stack, (inner.map (·.token)).reverse ++ out) := by
  induction inner generalizing out with
  | nil => simp [release_held hs]
  | cons p inner ih =>
    obtain ⟨q, t, rfl, hq⟩ := hi p (by simp)
    simp [release, hq, ih fun p hp => hi p (by simp [hp]), Pending.token]

theorem closeGroup?_append {n : Nat} {inner stack : List Pending} {opening : Token}
    {out : List Token} (hi : Binding n inner) :
    closeGroup? (inner ++ .opening opening :: stack) out =
      some (stack, (inner.map (·.token)).reverse ++ out) := by
  induction inner generalizing out with
  | nil => rfl
  | cons p inner ih =>
    obtain ⟨q, t, rfl, -⟩ := hi p (by simp)
    simp [closeGroup?, ih fun p hp => hi p (by simp [hp]), Pending.token]

theorem closeGroup?_binding {n : Nat} {stack : List Pending} {out : List Token}
    (h : Binding n stack) : closeGroup? stack out = none := by
  induction stack generalizing out with
  | nil => rfl
  | cons p stack ih =>
    obtain ⟨q, t, rfl, -⟩ := h p (by simp)
    simp [closeGroup?, ih fun p hp => h p (by simp [hp])]

theorem finish_binding {n : Nat} {stack : List Pending} {out rest : List Token}
    (h : Binding n stack) :
    finish stack out rest = .ok (out.reverse ++ stack.map (·.token), rest) := by
  have hfind : stack.find? (·.isOpening) = none := by
    rw [List.find?_eq_none]
    intro p hp
    obtain ⟨o, t, rfl, -⟩ := h p hp
    simp [Pending.isOpening]
  rw [finish, hfind]

/-! ## Reading an expression -/

theorem shunt_last (stack : List Pending) (out : List Token) (last₁ last₂ : Option Token)
    (ts : List Token) : shunt stack out last₁ false ts = shunt stack out last₂ false ts := by
  cases ts <;> rfl

theorem finish_append {stack : List Pending} {out ts p rest : List Token}
    (h : finish stack out ts = .ok (p, rest)) (more : List Token) :
    finish stack out (ts ++ more) = .ok (p, rest ++ more) := by
  unfold finish at h ⊢
  split at h
  · cases h
  · obtain ⟨rfl, rfl⟩ := Prod.mk.inj (Except.ok.inj h)
    rfl

theorem closeGroup?_of_finish {stack : List Pending} {out ts : List Token}
    {result : List Token × List Token} (h : finish stack out ts = .ok result) :
    closeGroup? stack out = none := by
  refine closeGroup?_binding (n := 0) fun p hp => ?_
  unfold finish at h
  split at h
  · cases h
  · next hfind =>
    cases p with
    | opening t => exact absurd rfl (List.find?_eq_none.1 hfind _ hp)
    | operator o t => exact ⟨o, t, rfl, Nat.zero_le _⟩

theorem shunt_ends {stack : List Pending} {out p rest more : List Token} (last? : Option Token)
    (h : finish stack out [] = .ok (p, rest)) (hstop : Stops more) :
    shunt stack out last? false more = .ok (p, rest ++ more) := by
  have hend : ∀ ts, finish stack out ([] ++ ts) = .ok (p, rest ++ ts) := finish_append h
  cases more with
  | nil => simpa [shunt] using h
  | cons t more =>
    have ht : t.extends = false := hstop t rfl
    simp only [Token.extends, Bool.or_eq_false_iff, Option.isSome_eq_false_iff,
      Option.isNone_iff_eq_none] at ht
    simp only [shunt, Bool.false_eq_true, if_false]
    split
    · next ho => simp [ho] at ht
    · next hn => simp [ht.2] at hn
    · rw [closeGroup?_of_finish h]
      exact hend _
    · exact hend _

/-- **Reading an expression.** Over the tokens of an expression the reading goes on with some of its
    tokens put out and the others, all operators, left on the stack; together they are the postorder
    of its tree. -/
theorem Forms.shunt {n : Nat} {ts : List Token} {e : Tree} (h : Forms n ts e) :
    ∃ inner put, Binding n inner ∧ put.reverse ++ inner.map (·.token) = e.postorder ∧
      ∀ stack out last₁ last₂ rest, Held n stack →
        Expression.shunt stack out last₁ true (ts ++ rest) =
          Expression.shunt (inner ++ stack) (put ++ out) last₂ false rest := by
  induction h with
  | @operand n t ht =>
    refine ⟨[], [t], binding_nil n, rfl, fun stack out last₁ last₂ rest _ => ?_⟩
    simp only [List.cons_append, List.nil_append, Expression.shunt, if_true, ht]
    exact shunt_last ..
  | @group n opening ts e closing ho hc _ ih =>
    obtain ⟨inner, put, hi, hp, hrun⟩ := ih
    refine ⟨[], (inner.map (·.token)).reverse ++ put, binding_nil n, by simp [← hp],
      fun stack out last₁ last₂ rest _ => ?_⟩
    simp only [List.cons_append, List.append_assoc, List.nil_append, Expression.shunt, if_true, ho,
      TokenKind.isOperand, Bool.false_eq_true, if_false]
    rw [hrun _ _ _ none _ (held_opening 0 opening stack)]
    simp only [Expression.shunt, Bool.false_eq_true, if_false, hc, closeGroup?_append hi]
    exact shunt_last ..
  | @binary n o t ls l rs r ht hn _ _ ihl ihr =>
    obtain ⟨innerL, putL, hiL, hpL, hrunL⟩ := ihl
    obtain ⟨innerR, putR, hiR, hpR, hrunR⟩ := ihr
    refine ⟨innerR ++ [.operator o t], putR ++ ((innerL.map (·.token)).reverse ++ putL), ?_, ?_,
      fun stack out last₁ last₂ rest hheld => ?_⟩
    · intro p hp
      rcases List.mem_append.1 hp with hp | hp
      · obtain ⟨q, u, rfl, hq⟩ := hiR p hp
        exact ⟨q, u, rfl, by omega⟩
      · exact ⟨o, t, List.mem_singleton.1 hp, hn⟩
    · simp [Tree.postorder, ← hpL, ← hpR, Pending.token]
    · have hL : Held o.precedence stack := hheld.mono hn
      have hR : Held (o.precedence + 1) (.operator o t :: stack) := by
        rintro q u ⟨⟩
        omega
      rw [List.append_assoc, hrunL _ _ _ none _ hL]
      simp only [List.cons_append, Expression.shunt, Bool.false_eq_true, if_false, ht,
        release_append hiL hL]
      rw [hrunR _ _ _ last₂ _ hR]
      simp
  | @signed n t minus number ls l rs r ht hn _ _ ihl ihr =>
    obtain ⟨hk, -, hnum⟩ := Token.signSplit?_kinds ht
    obtain ⟨innerL, putL, hiL, hpL, hrunL⟩ := ihl
    obtain ⟨innerR, putR, hiR, hpR, hrunR⟩ := ihr
    refine ⟨innerR ++ [.operator .minus minus], putR ++ ((innerL.map (·.token)).reverse ++ putL),
      ?_, ?_, fun stack out last₁ last₂ rest hheld => ?_⟩
    · intro p hp
      rcases List.mem_append.1 hp with hp | hp
      · obtain ⟨q, u, rfl, hq⟩ := hiR p hp
        exact ⟨q, u, rfl, by omega⟩
      · exact ⟨.minus, minus, List.mem_singleton.1 hp, hn⟩
    · simp [Tree.postorder, ← hpL, ← hpR, Pending.token]
    · have hL : Held Operator.minus.precedence stack := hheld.mono hn
      have hR : Held (Operator.minus.precedence + 1) (.operator .minus minus :: stack) := by
        rintro q u ⟨⟩
        omega
      -- the number is read where the reading of the right operand begins
      have hnumber := hrunR (.operator .minus minus :: stack)
        ((innerL.map (·.token)).reverse ++ putL ++ out) none last₂ rest hR
      simp only [List.cons_append, Expression.shunt, if_true, hnum, TokenKind.isOperand]
        at hnumber
      rw [List.append_assoc, hrunL _ _ _ none _ hL]
      simp only [List.cons_append, Expression.shunt, Bool.false_eq_true, if_false, hk, ht,
        release_append hiL hL]
      rw [shunt_last _ _ (some t) (some number), ← List.append_assoc, hnumber]
      simp

/-- **An expression that ends is reordered as its tree says,** and what follows is left. -/
theorem toPostfix_of_forms {ts rest : List Token} {e : Tree} (h : Forms 0 ts e)
    (hr : Stops rest) : toPostfix (ts ++ rest) = .ok (e.postorder, rest) := by
  obtain ⟨inner, put, hi, hp, hrun⟩ := h.shunt
  rw [toPostfix, hrun [] [] none none rest (held_nil 0)]
  have hend : shunt inner put none false rest = .ok (_, [] ++ rest) :=
    shunt_ends none (finish_binding hi) hr
  simpa [hp] using hend

theorem Forms.toPostfix_self {ts : List Token} {e : Tree} (h : Forms 0 ts e) :
    toPostfix ts = .ok (e.postorder, []) := by
  have hread := toPostfix_of_forms h stops_nil
  rwa [List.append_nil] at hread

end Expression

end GridSketch
