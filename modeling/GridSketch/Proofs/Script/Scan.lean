import GridSketch.Proofs.Expression.Grammar
import GridSketch.Script.Run

/-!
# One move after another

What a run does at its first token, as an equation between actions.

* `executeFrom_cons`: a run is its first move and the run from there; `run_induction` is the
  induction along a run.
* `executeFrom_skip`: tokens that lead no statement are skipped.
* `Token.joins`: whether a token may still belong to a statement that stands before it. Statements
  look at most one token ahead of what they take, and only for such a token.
-/

namespace GridSketch

/-- The kinds of tokens that lead a statement. -/
def TokenKind.leads : TokenKind → Bool
  | keyword _ | identifier | question => true
  | _ => false

theorem dispatch_of_not_leads {t : Token} (h : t.kind.leads = false) (skipped after : List Token) :
    dispatch skipped t after = pure .pass := by
  unfold dispatch
  cases hk : t.kind with
  | keyword k => simp [hk, TokenKind.leads] at h
  | identifier => simp [hk, TokenKind.leads] at h
  | question => simp [hk, TokenKind.leads] at h
  | _ => rfl

@[simp] theorem executeFrom_nil (skipped : List Token) : executeFrom skipped [] = pure skipped := by
  rw [executeFrom]

/-- What has been skipped since the last completed statement when a move at `t` has been made. -/
def Move.skipped (skipped : List Token) (t : Token) (after : List Token) : Move → List Token
  | pass => t :: skipped
  | complete _ => []
  | handOver rest => ((t :: after).take ((t :: after).length - rest.length)).reverse ++ skipped

theorem executeFrom_cons (skipped : List Token) (t : Token) (after : List Token) :
    executeFrom skipped (t :: after) =
      dispatch skipped t after >>= fun m =>
        executeFrom (m.skipped skipped t after) (m.rest after) := by
  funext s
  rw [executeFrom]
  show _ = (dispatch skipped t after >>= fun m =>
    executeFrom (m.skipped skipped t after) (m.rest after)).run s
  rw [EStateM.run_bind]
  dsimp only
  split
  all_goals
    next hmove => exact hmove ▸ rfl

/-- What holds where the tokens end, and at a token if it holds after every move there, holds
    everywhere along a run. -/
theorem run_induction {motive : List Token → List Token → Session → Prop}
    (nil : ∀ skipped s, motive skipped [] s)
    (cons : ∀ skipped t after s,
      (∀ m s', (dispatch skipped t after).run s = .ok m s' →
        motive (m.skipped skipped t after) (m.rest after) s') → motive skipped (t :: after) s)
    (skipped ts : List Token) (s : Session) : motive skipped ts s :=
  match ts with
  | [] => nil skipped s
  | t :: after => cons skipped t after s fun m s' _hmove =>
      run_induction nil cons (m.skipped skipped t after) (m.rest after) s'
  termination_by ts.length
  decreasing_by exact Nat.lt_succ_of_le (dispatch_rest_le _hmove)

theorem executeFrom_skip {pre : List Token} (h : ∀ t ∈ pre, t.kind.leads = false)
    (skipped ts : List Token) :
    executeFrom skipped (pre ++ ts) = executeFrom (pre.reverse ++ skipped) ts := by
  induction pre generalizing skipped with
  | nil => rfl
  | cons t pre ih =>
    rw [List.cons_append, executeFrom_cons, dispatch_of_not_leads (h t (by simp)), pure_bind]
    simp only [Move.skipped, Move.rest, ih fun u hu => h u (by simp [hu])]
    simp

theorem executeFrom_complete {skipped : List Token} {t : Token} {after rest : List Token}
    {a : Action Unit} (h : dispatch skipped t after = (do a; return .complete rest)) :
    executeFrom skipped (t :: after) = (do a; executeFrom [] rest) := by
  rw [executeFrom_cons, h]
  simp [Move.skipped, Move.rest]

/-- Whether a token may belong to a statement that stands before it: it goes on with an expression,
    makes an assignment of a name, or a condition of an expression. -/
def Token.joins (t : Token) : Bool := t.extends || t.kind == .assign || t.kind == .question

/-- The tokens after a statement that looks no further: none, or a first one that does not join. -/
def Apart (rest : List Token) : Prop := ∀ t ∈ rest.head?, t.joins = false

theorem apart_nil : Apart [] := by
  intro t ht
  cases ht

theorem Apart.stops {rest : List Token} (h : Apart rest) : Expression.Stops rest := by
  intro t ht
  have := h t ht
  simp only [Token.joins, Bool.or_eq_false_iff] at this
  exact this.1.1

theorem Apart.not_kind {rest : List Token} (h : Apart rest) {kind : TokenKind}
    (hkind : kind = .assign ∨ kind = .question) : rest.head?.any (·.kind = kind) = false := by
  cases rest with
  | nil => rfl
  | cons t rest =>
    have hjoins := h t rfl
    simp only [Token.joins, Bool.or_eq_false_iff, beq_eq_false_iff_ne] at hjoins
    rcases hkind with rfl | rfl
    · simpa using hjoins.1.2
    · simpa using hjoins.2

namespace Action

variable {α β : Type}

theorem consult_map (f : Variables → Except Fault α) (g : α → β) :
    (consult fun vars => (f vars).map g) = g <$> consult f := by
  funext s
  show (consult fun vars => (f vars).map g).run s = (g <$> consult f).run s
  rw [← bind_pure_comp, EStateM.run_bind, run_consult, run_consult]
  cases f s.state.bindings <;> rfl

theorem consult_const {f : Variables → Except Fault α} {a : α} (h : ∀ vars, f vars = .ok a) :
    consult f = pure a := by
  funext s
  show (consult f).run s = (pure a : Action α).run s
  rw [run_consult, h]
  rfl

theorem consult_twice (f : Variables → Except Fault α) (g : α → α → Action β) :
    (consult f >>= fun a => consult f >>= g a) = consult f >>= fun a => g a a := by
  funext s
  show (consult f >>= fun a => consult f >>= g a).run s = (consult f >>= fun a => g a a).run s
  simp only [EStateM.run_bind, run_consult]
  cases h : f s.state.bindings <;> simp [h]

end Action

end GridSketch
