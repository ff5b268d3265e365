import GridSketch.Proofs.Expression.Neighbours
import GridSketch.Proofs.Expression.TreeValue
import GridSketch.Proofs.Script.Scan

/-!
# Where the expression around a name begins

A run meets an expression at its first name, after its earlier tokens have been skipped.

* `around_of_forms`: the value around the first name of an expression is that of the expression.
* `dispatch_first_name`: hence the move at that name is the whole expression.
-/

namespace GridSketch

open Expression Statement

/-! ## The tokens of an expression -/

theorem Expression.Forms.kinds {n : Nat} {ts : List Token} {e : Tree} (h : Forms n ts e) :
    ∀ t ∈ ts, t.kind = .identifier ∨ mayLead t.kind = true := by
  intro t ht
  have hrole := h.role t ht
  cases hk : t.kind <;>
    simp_all [Token.closes, Token.opens, TokenKind.isOperand, mayLead]

theorem Expression.Forms.first {n : Nat} {ts : List Token} {e : Tree} (h : Forms n ts e) :
    ∃ t rest, ts = t :: rest ∧ (t.kind = .identifier ∨ mayOpen t.kind = true) := by
  obtain ⟨t, rest, rfl, ht⟩ := h.begins
  refine ⟨t, rest, rfl, ?_⟩
  cases hk : t.kind <;> simp_all [Token.begins, TokenKind.isOperand, mayOpen]

/-- A name stands after an operator or an open parenthesis. -/
def NameAfter (a b : Token) : Prop := b.kind = .identifier → mayPrecede a.kind = true

theorem Expression.Forms.names_after {n : Nat} {ts : List Token} {e : Tree} (h : Forms n ts e) :
    ts.IsChain NameAfter := by
  refine h.linked.imp fun a b hlink hk => ?_
  have hgoes : b.goesOn = false := by
    simp [Token.goesOn, Token.extends, Token.signSplit?, hk]
  rcases hlink with ⟨-, hb⟩ | ⟨ha, -⟩
  · rw [hgoes] at hb
    cases hb
  · cases hka : a.kind <;> simp_all [Token.opens, mayPrecede]

/-! ## The lead-in -/

/-- What is taken back: tokens that may lead, from one that may open an expression to one after which
    an operand is due. -/
theorem leadIn_reverse {ts : List Token} (hall : ∀ t ∈ ts, mayLead t.kind = true)
    (hopen : ts.head?.any (mayOpen ·.kind) = true)
    (hdue : ts.getLast?.any (mayPrecede ·.kind) = true) : leadIn ts.reverse = ts := by
  rw [leadIn, List.all_reverse, List.all_eq_true.2 hall, List.getLast?_reverse, hopen,
    List.head?_reverse, hdue]
  exact List.reverse_reverse ts

section
variable {e : Tree} {pre post : List Token} {name : Token}
  (h : Forms 0 (pre ++ name :: post) e) (hname : name.kind = .identifier)
  (hpre : ∀ t ∈ pre, t.kind ≠ .identifier)

include h hpre in
theorem mayLead_of_forms : ∀ t ∈ pre, mayLead t.kind = true := fun t ht =>
  (h.kinds t (List.mem_append_left _ ht)).resolve_left (hpre t ht)

include h hname in
theorem due_of_forms (hne : pre ≠ []) : pre.getLast?.any (mayPrecede ·.kind) = true := by
  obtain ⟨-, -, hlink⟩ := List.isChain_append.1 h.names_after
  rw [List.getLast?_eq_some_getLast hne]
  exact hlink _ (List.getLast?_eq_some_getLast hne) name rfl hname

include h hname hpre

/-- **The tokens skipped before the first name of an expression** are taken back, all of them. -/
theorem leadIn_of_forms : leadIn pre.reverse = pre := by
  by_cases hnil : pre = []
  · simp [hnil, leadIn]
  refine leadIn_reverse (mayLead_of_forms h hpre) ?_ (due_of_forms h hname hnil)
  obtain ⟨t, rest, heq, ht⟩ := h.first
  obtain ⟨u, pre', rfl⟩ := List.exists_cons_of_ne_nil hnil
  obtain rfl : u = t := (List.cons.inj heq).1
  simpa using ht.resolve_left (hpre u (by simp))

variable {rest : List Token}

theorem around_of_forms (hr : Stops rest) (vars : Variables) :
    around pre.reverse name (post ++ rest) vars = (e.value vars).map (·, rest) := by
  have heval : evaluate vars _ = _ := evaluate_of_forms h hr
  rw [List.append_assoc, List.cons_append] at heval
  have hlen : ¬ (name :: (post ++ rest)).length ≤ rest.length := by
    simp only [List.length_cons, List.length_append]
    omega
  simp only [around, leadIn_of_forms h hname hpre, heval, bind, Except.bind]
  cases e.value vars with
  | error fault => rfl
  | ok v => simp only [Except.map, if_neg hlen]

/-- **The move at the first name of an expression** says the value of the expression, unless it is
    the condition of a choice. -/
theorem dispatch_first_name (hr : Stops rest)
    (hsign : (post ++ rest).head?.any (·.kind = .assign) = false) :
    dispatch pre.reverse name (post ++ rest) =
      Action.consult e.value >>= fun v =>
        if rest.head?.any (·.kind = .question) then return .handOver rest
        else do
          Action.say v.display
          return .complete rest := by
  have haround : around pre.reverse name (post ++ rest) =
      fun vars => (e.value vars).map (·, rest) :=
    funext fun vars => around_of_forms h hname hpre hr vars
  simp only [dispatch, hname, dispatchName, hsign, Bool.false_eq_true, if_false, haround,
    Action.consult_map, map_eq_pure_bind, bind_assoc, pure_bind]

end

end GridSketch
