import GridSketch.Expression.Evaluation
import GridSketch.Proofs.Expression.Grammar

/-!
# Where an expression ends

Reading an expression looks at one token after it at most. If that token does not go on with the
expression, what comes after does not matter.

* `toPostfix_append`, `evaluate_append`: more tokens after a list are left, whatever the list is, if
  an expression has been read from it.
-/

namespace GridSketch.Expression

variable {more : List Token}

theorem shunt_append {stack : List Pending} {out ts p rest : List Token} {last? : Option Token}
    {due : Bool} (h : shunt stack out last? due ts = .ok (p, rest)) (hstop : Stops more) :
    shunt stack out last? due (ts ++ more) = .ok (p, rest ++ more) := by
  induction ts generalizing stack out last? due with
  | nil =>
    cases due with
    | true => simp [shunt] at h
    | false => exact shunt_ends last? (by simpa [shunt] using h) hstop
  | cons t ts ih =>
    cases due with
    | true =>
      simp only [List.cons_append, shunt, if_true] at h ⊢
      split at h
      · next hoperand =>
        rw [if_pos hoperand]
        exact ih h
      · next hoperand =>
        rw [if_neg hoperand]
        split at h
        · next hopening =>
          rw [if_pos hopening]
          exact ih h
        · cases h
    | false =>
      simp only [List.cons_append, shunt, Bool.false_eq_true, if_false] at h ⊢
      split at h
      · exact ih h
      · exact ih h
      · split at h
        · exact ih h
        · exact finish_append h more
      · exact finish_append h more

/-- **What is left by the reading of an expression** may be followed by anything that does not go on
    with it. -/
theorem toPostfix_append {ts p rest : List Token} (h : toPostfix ts = .ok (p, rest))
    (hstop : Stops more) : toPostfix (ts ++ more) = .ok (p, rest ++ more) :=
  shunt_append h hstop

theorem evaluate_append {vars : Variables} {ts rest : List Token} {v : Value}
    (h : evaluate vars ts = .ok (v, rest)) (hstop : Stops more) :
    evaluate vars (ts ++ more) = .ok (v, rest ++ more) := by
  obtain ⟨p, hp, hv⟩ := evaluate_ok.1 h
  exact evaluate_ok.2 ⟨p, toPostfix_append hp hstop, hv⟩

end GridSketch.Expression
