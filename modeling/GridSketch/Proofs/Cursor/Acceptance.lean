import GridSketch.Proofs.Cursor.Reading
import GridSketch.Proofs.Expression.Spread

/-!
# What a reading with a cursor accepts

* `ExpressionAt`: the tokens between two indices are an expression that is not gone on with.
* `expressionAt_iff`: the same with the tokens before and after the second index.
* `toPostfix_exact`: a reading accepts an expression at its start and stops where that ends; if
  there is none, the script is at fault.
-/

namespace GridSketch.Cursor

open Expression

/-- The tokens with the indices from `start` up to below `stop` are an expression with the tree `e`,
    by the plain grammar with their numbers written out, and the token at `stop`, if there is one,
    does not go on with it. -/
structure ExpressionAt (ts : List Token) (start stop : Nat) (e : Tree) : Prop where
  start_le : start ≤ stop
  stop_le : stop ≤ ts.length
  plain : Plain 0 (spread false (ts.extract start stop)) e
  ends : ∀ t, ts[stop]? = some t → t.extends = false

variable {ts : List Token} {start stop : Nat} {e : Tree}

theorem expressionAt_iff : ExpressionAt ts start stop e ↔
    ∃ taken rest, ts.drop start = taken ++ rest ∧ Forms 0 taken e ∧ Stops rest ∧
      stop = ts.length - rest.length := by
  constructor
  · intro h
    refine ⟨ts.extract start stop, ts.drop stop, ?_, forms_iff_plain.2 h.plain, ?_, ?_⟩
    · have hdrop : ts.drop stop = (ts.drop start).drop (stop - start) := by
        rw [List.drop_drop, Nat.add_sub_cancel' h.start_le]
      rw [List.extract_eq_take_drop, hdrop, List.take_append_drop]
    · intro t ht
      rw [List.head?_drop] at ht
      exact h.ends t ht
    · have := h.stop_le
      rw [List.length_drop]
      omega
  · rintro ⟨taken, rest, hdrop, hforms, hstop, rfl⟩
    obtain ⟨t, more, htaken, -⟩ := hforms.begins
    have hlength := congrArg List.length hdrop
    simp only [List.length_drop, List.length_append, htaken, List.length_cons] at hlength
    have htake : ts.length - rest.length - start = taken.length := by
      rw [htaken, List.length_cons]
      omega
    have hrest : ts.drop (ts.length - rest.length) = rest := by
      have hend : ts.length - rest.length = start + taken.length := by omega
      rw [hend, ← List.drop_drop, hdrop, List.drop_left]
    refine ⟨by omega, Nat.sub_le _ _, ?_, fun t ht => ?_⟩
    · rw [List.extract_eq_take_drop, hdrop, htake, List.take_left]
      exact forms_iff_plain.1 hforms
    · rw [← List.head?_drop, hrest] at ht
      exact hstop t ht

/-- **A reading accepts exactly the expressions, stops where they end and builds their trees.** It
    comes out with the postorder of a tree and an index if and only if the tokens from its start up
    to this index are an expression with this tree that the next token does not go on with. There is
    one such index and one tree. If there is none, the tokens are refused as malformed, and no
    look-up finds nothing on the way. -/
theorem toPostfix_exact (ts : List Token) (start : Nat) :
    (∀ out stop, toPostfix ts start = .ok (out, stop) ↔
      ∃ e, ExpressionAt ts start stop e ∧ out = e.postorder) ∧
    (∀ stop stop' e e', ExpressionAt ts start stop e → ExpressionAt ts start stop' e' →
      stop = stop' ∧ e = e') ∧
    ((¬ ∃ stop e, ExpressionAt ts start stop e) →
      ∃ d, toPostfix ts start = .error (.fault (.script d)) ∧ d.cause.kind = .malformed) := by
  have haccepts : ∀ out stop, toPostfix ts start = .ok (out, stop) ↔
      ∃ e, ExpressionAt ts start stop e ∧ out = e.postorder := by
    intro out stop
    rw [toPostfix_eq]
    constructor
    · intro h
      cases hread : Expression.toPostfix (ts.drop start) with
      | error d => simp [hread] at h
      | ok result =>
        obtain ⟨p, rest⟩ := result
        rw [hread, placed_ok] at h
        obtain ⟨rfl, rfl⟩ := Prod.mk.inj (Except.ok.inj h)
        obtain ⟨taken, e, hdrop, hforms, hp, hstop⟩ := toPostfix_ok_iff.1 hread
        exact ⟨e, expressionAt_iff.2 ⟨taken, rest, hdrop, hforms, hstop, rfl⟩, hp⟩
    · rintro ⟨e, h, rfl⟩
      obtain ⟨taken, rest, hdrop, hforms, hstop, rfl⟩ := expressionAt_iff.1 h
      rw [hdrop, toPostfix_of_forms hforms hstop, placed_ok]
  refine ⟨haccepts, fun stop stop' e e' h h' => ?_, fun hnone => ?_⟩
  · obtain ⟨taken, rest, hdrop, hforms, hstop, rfl⟩ := expressionAt_iff.1 h
    obtain ⟨taken', rest', hdrop', hforms', hstop', rfl⟩ := expressionAt_iff.1 h'
    obtain ⟨rfl, htree⟩ := hforms.unique_append hstop hforms' hstop' (hdrop.symm.trans hdrop')
    rw [hdrop] at hdrop'
    rw [List.append_cancel_left hdrop']
    exact ⟨rfl, htree⟩
  · cases hread : Expression.toPostfix (ts.drop start) with
    | ok result =>
      refine absurd ?_ hnone
      have h := toPostfix_eq ts start
      rw [hread, placed_ok] at h
      obtain ⟨e, he, -⟩ := (haccepts _ _).1 h
      exact ⟨_, e, he⟩
    | error d =>
      exact ⟨d, by rw [toPostfix_eq, hread, placed_error], (toPostfix_refused hread).kind⟩

/-- In `(8 -2)` the reading from the second token takes a difference and stops at the parenthesis
    that is not open, and the reading from the last finds no expression. -/
theorem toPostfix_exact_difference :
    let opening : Token := ⟨.leftParen, "(", ⟨1, 1⟩⟩
    let eight : Token := ⟨.number, "8", ⟨1, 2⟩⟩
    let signed : Token := ⟨.number, "-2", ⟨1, 4⟩⟩
    let closing : Token := ⟨.rightParen, ")", ⟨1, 6⟩⟩
    let minus : Token := ⟨.operator .minus, "-", ⟨1, 4⟩⟩
    let two : Token := ⟨.number, "2", ⟨1, 5⟩⟩
    let ts := [opening, eight, signed, closing]
    ExpressionAt ts 1 3 (.node minus (.leaf eight) (.leaf two)) ∧
      toPostfix ts 1 = .ok ([eight, two, minus], 3) ∧
      (¬ ∃ stop e, ExpressionAt ts 3 stop e) ∧
      ∃ d, toPostfix ts 3 = .error (.fault (.script d)) ∧ d.cause.kind = .malformed := by
  intro opening eight signed closing minus two ts
  have hplain : Plain 0 ([eight] ++ minus :: [two]) (.node minus (.leaf eight) (.leaf two)) :=
    .binary (o := .minus) rfl (Nat.zero_le _) (.operand rfl) (.operand rfl)
  have hspread : spread false (ts.extract 1 3) = [eight] ++ minus :: [two] := by decide +kernel
  have hat : ExpressionAt ts 1 3 (.node minus (.leaf eight) (.leaf two)) :=
    ⟨by decide, by decide, hspread ▸ hplain, by simp [ts, closing, Token.extends, Token.signSplit?]⟩
  have hnone : ¬ ∃ stop e, ExpressionAt ts 3 stop e := by
    rintro ⟨stop, e, h⟩
    obtain ⟨out, hout⟩ : ∃ out, toPostfix ts 3 = .ok (out, stop) :=
      ⟨_, ((toPostfix_exact ts 3).1 _ _).2 ⟨e, h, rfl⟩⟩
    rw [toPostfix_eq] at hout
    cases hout
  exact ⟨hat, ((toPostfix_exact ts 1).1 _ _).2 ⟨_, hat, rfl⟩, hnone,
    (toPostfix_exact ts 3).2.2 hnone⟩

end GridSketch.Cursor
