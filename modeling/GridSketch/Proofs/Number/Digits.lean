import GridSketch.Number.Layout
import GridSketch.Proofs.Number.Literal
import Mathlib.Algebra.Order.Field.Power
import Mathlib.Data.Nat.Digits.Lemmas
import Mathlib.Data.Rat.Floor
import Mathlib.Tactic.FieldSimp
import Mathlib.Tactic.IntervalCases
import Mathlib.Tactic.Ring

/-!
# Decimal digits

Digits are written and read without loss: the text of a whole number has its value, and digits
around a written point have the value of the digits.

* `Digits.value`, `ofScaled_value`: a count in a power of ten, as digits without zeros at the ends,
  keeps its value; `ofScaled_lead` says where its first digit stands.
* `Reads`: a text that is a literal with a value; `Digits.positional_reads` is one.
-/

namespace GridSketch.Number

open Numeral

/-! ## Reading digits -/

theorem digitsValue_concat (cs : List Char) (c : Char) :
    digitsValue (cs ++ [c]) = 10 * digitsValue cs + (Text.decimalValue? c).getD 0 := by
  rw [digitsValue, List.foldl_append]
  rfl

theorem digitsValue_append (cs ds : List Char) :
    digitsValue (cs ++ ds) = digitsValue cs * 10 ^ ds.length + digitsValue ds := by
  induction ds using List.reverseRecOn with
  | nil => simp [digitsValue]
  | append_singleton ds d ih =>
    rw [← List.append_assoc, digitsValue_concat, digitsValue_concat, ih, List.length_append,
      List.length_singleton, pow_succ]
    ring

theorem digitsValue_zeros (k : ℕ) : digitsValue (List.replicate k '0') = 0 := by
  induction k with
  | zero => rfl
  | succ k ih =>
    rw [List.replicate_succ', digitsValue_concat, ih]
    rfl

theorem isDecimalDigit_zeros (k : ℕ) :
    ∀ c ∈ List.replicate k '0', Text.isDecimalDigit c = true := by
  intro c hc
  rw [List.eq_of_mem_replicate hc]
  decide

/-! ## Writing digits -/

theorem decimalValue?_digitChar {d : ℕ} (h : d < 10) : Text.decimalValue? d.digitChar = some d := by
  interval_cases d <;> decide

section Chars

variable {ds : List ℕ} (h : ∀ d ∈ ds, d < 10)

include h

theorem isDecimalDigit_digitChars : ∀ c ∈ digitChars ds, Text.isDecimalDigit c = true := by
  intro c hc
  obtain ⟨d, hd, rfl⟩ := List.mem_map.1 hc
  rw [Text.isDecimalDigit, decimalValue?_digitChar (h d hd)]
  rfl

theorem digitsValue_digitChars : digitsValue (digitChars ds) = Nat.ofDigits 10 ds.reverse := by
  induction ds using List.reverseRecOn with
  | nil => rfl
  | append_singleton ds d ih =>
    have hd : d < 10 := h d (by simp)
    have hmap : digitChars (ds ++ [d]) = digitChars ds ++ [d.digitChar] := List.map_append
    rw [hmap, digitsValue_concat, decimalValue?_digitChar hd, ih fun e he => h e (by simp [he]),
      List.reverse_append, List.reverse_singleton, List.singleton_append, Nat.ofDigits_cons]
    exact Nat.add_comm _ _

end Chars

theorem decimalDigits_eq (n : ℕ) : decimalDigits n = (Nat.digits 10 n).reverse := by
  induction n using Nat.strong_induction_on with
  | _ n ih =>
    rw [decimalDigits]
    by_cases hn : n = 0
    · rw [if_pos hn, hn, Nat.digits_zero]
      rfl
    · have hpos : 0 < n := Nat.pos_of_ne_zero hn
      rw [if_neg hn, ih _ (Nat.div_lt_self hpos (by decide)), Nat.digits_def' (by decide) hpos,
        List.reverse_cons]

theorem decimalDigits_lt (n : ℕ) : ∀ d ∈ decimalDigits n, d < 10 := by
  intro d hd
  rw [decimalDigits_eq, List.mem_reverse] at hd
  exact Nat.digits_lt_base (by decide) hd

theorem isDecimalDigit_natChars (n : ℕ) : ∀ c ∈ natChars n, Text.isDecimalDigit c = true := by
  unfold natChars
  split
  · exact isDecimalDigit_zeros 1
  · exact isDecimalDigit_digitChars (decimalDigits_lt n)

theorem natChars_ne_nil (n : ℕ) : natChars n ≠ [] := by
  unfold natChars
  split
  · exact List.cons_ne_nil _ _
  · next hn =>
    rw [digitChars, Ne, List.map_eq_nil_iff, decimalDigits_eq, List.reverse_eq_nil_iff,
      Nat.digits_eq_nil_iff_eq_zero]
    exact hn

theorem digitsValue_natChars (n : ℕ) : digitsValue (natChars n) = n := by
  unfold natChars
  split
  · next hn =>
    rw [hn]
    rfl
  · rw [digitsValue_digitChars (decimalDigits_lt n), decimalDigits_eq, List.reverse_reverse,
      Nat.ofDigits_digits]

/-! ## Digits and a power of ten -/

namespace Digits

/-- What digits and the place of the first one stand for. -/
def value (d : Digits) : ℚ :=
  (Nat.ofDigits 10 d.digits.reverse : ℕ) * 10 ^ (d.lead + 1 - d.digits.length)

/-- Digits of a number other than zero. -/
structure Proper (d : Digits) : Prop where
  ne_nil : d.digits ≠ []
  small : ∀ n ∈ d.digits, n < 10

section Scaled

variable (n : ℕ) (exponent : ℤ)

theorem ofScaled_zeros :
    ∃ k, Nat.digits 10 n = List.replicate k 0 ++ (ofScaled n exponent).digits.reverse := by
  refine ⟨((Nat.digits 10 n).takeWhile (· == 0)).length, ?_⟩
  have hzeros : (Nat.digits 10 n).takeWhile (· == 0) =
      List.replicate ((Nat.digits 10 n).takeWhile (· == 0)).length 0 :=
    List.eq_replicate_of_mem fun d hd => by simpa using List.mem_takeWhile_imp hd
  rw [← hzeros, ofScaled, List.reverse_reverse, decimalDigits_eq, List.reverse_reverse,
    List.takeWhile_append_dropWhile]

theorem ofScaled_lead_eq :
    (ofScaled n exponent).lead = exponent + (Nat.digits 10 n).length - 1 := by
  rw [ofScaled, decimalDigits_eq, List.length_reverse]

/-- **A count in a power of ten keeps its value.** -/
theorem ofScaled_value : (ofScaled n exponent).value = n * 10 ^ exponent := by
  obtain ⟨k, hk⟩ := ofScaled_zeros n exponent
  have hcount : n = 10 ^ k * Nat.ofDigits 10 (ofScaled n exponent).digits.reverse := by
    conv_lhs => rw [← Nat.ofDigits_digits 10 n, hk, Nat.ofDigits_append,
      Nat.ofDigits_replicate_zero, List.length_replicate, Nat.zero_add]
  have hlength := congrArg List.length hk
  rw [List.length_append, List.length_replicate, List.length_reverse] at hlength
  have hplace : (ofScaled n exponent).lead + 1 - (ofScaled n exponent).digits.length =
      k + exponent := by
    have hlead := ofScaled_lead_eq n exponent
    omega
  rw [value, hplace, zpow_add₀ (by norm_num), zpow_natCast]
  conv_rhs => rw [hcount]
  push_cast
  ring

variable {n} (hn : 0 < n)

include hn

theorem ofScaled_proper : (ofScaled n exponent).Proper := by
  obtain ⟨k, hk⟩ := ofScaled_zeros n exponent
  constructor
  · intro hnil
    have hzero : n = 0 := by
      rw [← Nat.ofDigits_digits 10 n, hk, hnil, List.reverse_nil, List.append_nil,
        Nat.ofDigits_replicate_zero]
    exact hn.ne' hzero
  · intro d hd
    refine Nat.digits_lt_base (b := 10) (m := n) (by decide) ?_
    rw [hk]
    exact List.mem_append_right _ (List.mem_reverse.2 hd)

theorem ofScaled_lead :
    (10 : ℚ) ^ (ofScaled n exponent).lead ≤ n * 10 ^ exponent ∧
      (n : ℚ) * 10 ^ exponent < 10 ^ ((ofScaled n exponent).lead + 1) := by
  have hlow : 10 ^ (Nat.digits 10 n).length ≤ 10 * n :=
    Nat.base_pow_length_digits_le 10 n (by decide) hn.ne'
  have hhigh : n < 10 ^ (Nat.digits 10 n).length := Nat.lt_base_pow_length_digits (by decide)
  rw [ofScaled_lead_eq]
  generalize (Nat.digits 10 n).length = length at hlow hhigh
  constructor
  · rw [add_sub_assoc, add_comm, zpow_add₀ (by norm_num), zpow_sub_one₀ (by norm_num), zpow_natCast]
    gcongr
    rw [← div_eq_mul_inv, div_le_iff₀ (by norm_num), mul_comm]
    exact_mod_cast hlow
  · rw [sub_add_cancel, add_comm, zpow_add₀ (by norm_num), zpow_natCast]
    gcongr
    exact_mod_cast hhigh

end Scaled

end Digits

/-! ## Texts and values -/

/-- A text is an unsigned literal of a given value. -/
def Reads (cs : List Char) (v : ℚ) : Prop :=
  Unsigned cs ∧ ∃ (n : ℕ) (exponent : ℤ), (n : ℚ) * 10 ^ exponent = v ∧
    ∀ negative, decimal? negative cs = some (.decimal negative n exponent)

theorem natChars_reads (n : ℕ) : Reads (natChars n) n := by
  refine ⟨.whole (natChars_ne_nil n) (isDecimalDigit_natChars n), n, 0, by simp, fun negative => ?_⟩
  rw [decimal?_whole negative (natChars_ne_nil n) (isDecimalDigit_natChars n), digitsValue_natChars]

theorem reads_fraction {ds fs : List Char} {v : ℚ} (hne : ds ≠ [])
    (hds : ∀ c ∈ ds, Text.isDecimalDigit c = true) (hnef : fs ≠ [])
    (hfs : ∀ c ∈ fs, Text.isDecimalDigit c = true)
    (hv : (digitsValue (ds ++ fs) : ℚ) * 10 ^ (-fs.length : ℤ) = v) : Reads (ds ++ '.' :: fs) v :=
  ⟨.fraction hne hds hnef hfs, _, _, hv, fun negative => decimal?_fraction negative hne hds hfs⟩

/-- **A text with a written point has the value of its digits.** -/
theorem Digits.positional_reads {d : Digits} (h : d.Proper) : Reads d.positional d.value := by
  have hchars := isDecimalDigit_digitChars h.small
  have hvalue := digitsValue_digitChars h.small
  have hlength : (digitChars d.digits).length = d.digits.length := List.length_map _
  have hnonempty : digitChars d.digits ≠ [] := mt List.map_eq_nil_iff.1 h.ne_nil
  unfold Digits.positional
  by_cases hlead : d.lead < 0
  · -- zeros up to the first digit
    rw [if_pos hlead]
    change Reads (['0'] ++ '.' :: (List.replicate (-d.lead - 1).toNat '0' ++ digitChars d.digits)) _
    refine reads_fraction (List.cons_ne_nil '0' []) (isDecimalDigit_zeros 1) (by simp [hnonempty])
      ?_ ?_
    · intro c hc
      exact (List.mem_append.1 hc).elim (isDecimalDigit_zeros _ c) (hchars c)
    · have hzeros : ['0'] ++ (List.replicate (-d.lead - 1).toNat '0' ++ digitChars d.digits) =
          List.replicate ((-d.lead - 1).toNat + 1) '0' ++ digitChars d.digits := rfl
      have hplace : (-((-d.lead - 1).toNat + d.digits.length : ℕ) : ℤ) =
          d.lead + 1 - d.digits.length := by omega
      rw [hzeros, digitsValue_append, digitsValue_zeros, hvalue, List.length_append,
        List.length_replicate, hlength, hplace, Nat.zero_mul, Nat.zero_add]
      rfl
  · rw [if_neg hlead]
    dsimp only
    by_cases hshort : d.digits.length ≤ d.lead.toNat + 1
    · -- the digits end before the point, and zeros go on
      rw [List.take_of_length_le hshort, List.drop_of_length_le hshort]
      change Reads ((digitChars d.digits ++
        List.replicate (d.lead.toNat + 1 - d.digits.length) '0') ++ '.' :: ['0']) _
      refine reads_fraction (by simp [hnonempty]) ?_ (List.cons_ne_nil '0' [])
        (isDecimalDigit_zeros 1) ?_
      · intro c hc
        exact (List.mem_append.1 hc).elim (hchars c) (isDecimalDigit_zeros _ c)
      · have hplace : d.lead + 1 - d.digits.length =
            ((d.lead.toNat + 1 - d.digits.length : ℕ) : ℤ) := by omega
        have hpoint : digitsValue ['0'] = 0 := rfl
        rw [digitsValue_append, digitsValue_append, digitsValue_zeros, hvalue, hpoint,
          List.length_replicate, Digits.value, hplace, zpow_natCast]
        push_cast
        simp
    · -- the point stands between two digits
      have htake : (d.digits.take (d.lead.toNat + 1)).length = d.lead.toNat + 1 :=
        List.length_take_of_le (by omega)
      have hdrop : d.digits.drop (d.lead.toNat + 1) ≠ [] := mt List.drop_eq_nil_iff.1 hshort
      rw [htake, Nat.sub_self, List.replicate_zero, List.append_nil,
        if_neg (mt List.isEmpty_iff.1 hdrop)]
      have hsplit : digitChars (d.digits.take (d.lead.toNat + 1)) ++
          digitChars (d.digits.drop (d.lead.toNat + 1)) = digitChars d.digits := by
        rw [digitChars, digitChars, ← List.map_append, List.take_append_drop]
        rfl
      refine reads_fraction ?_ ?_ (mt List.map_eq_nil_iff.1 hdrop) ?_ ?_
      · exact mt List.map_eq_nil_iff.1 (List.ne_nil_of_length_pos (by omega))
      · exact fun c hc => hchars c (hsplit ▸ List.mem_append_left _ hc)
      · exact fun c hc => hchars c (hsplit ▸ List.mem_append_right _ hc)
      · have hplace : -((d.digits.length - (d.lead.toNat + 1) : ℕ) : ℤ) =
            d.lead + 1 - d.digits.length := by omega
        rw [hsplit, hvalue, digitChars, List.length_map, List.length_drop, hplace]
        rfl

theorem Digits.scientific_form {d : Digits} (h : d.Proper) (hlead : d.lead < 0) (width : ℕ) :
    ∃ cs power, d.scientific width = cs ++ 'e' :: '-' :: power ∧ Unsigned cs ∧ Unsigned power := by
  have hpower : Unsigned (List.replicate (width - (natChars d.lead.natAbs).length) '0' ++
      natChars d.lead.natAbs) := by
    refine .whole (by simp [natChars_ne_nil]) fun c hc => ?_
    exact (List.mem_append.1 hc).elim (isDecimalDigit_zeros _ c) (isDecimalDigit_natChars _ c)
  refine ⟨digitChars (d.digits.take 1) ++
    (if (d.digits.drop 1).isEmpty then [] else '.' :: digitChars (d.digits.drop 1)), _, ?_, ?_,
    hpower⟩
  · rw [Digits.scientific, if_pos hlead]
    simp only [List.append_assoc, List.cons_append]
  · have hne : digitChars (d.digits.take 1) ≠ [] := by
      simpa [digitChars] using h.ne_nil
    have hfirst : ∀ c ∈ digitChars (d.digits.take 1), Text.isDecimalDigit c = true :=
      isDecimalDigit_digitChars fun n hn => h.small n (List.mem_of_mem_take hn)
    have hrest : ∀ c ∈ digitChars (d.digits.drop 1), Text.isDecimalDigit c = true :=
      isDecimalDigit_digitChars fun n hn => h.small n (List.mem_of_mem_drop hn)
    by_cases hdrop : d.digits.drop 1 = []
    · rw [hdrop]
      simpa using Unsigned.whole hne hfirst
    · rw [if_neg (mt List.isEmpty_iff.1 hdrop)]
      exact .fraction hne hfirst (mt List.map_eq_nil_iff.1 hdrop) hrest

end GridSketch.Number
