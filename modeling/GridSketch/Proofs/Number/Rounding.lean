import GridSketch.Number.Numeral
import Mathlib.Algebra.Order.Field.Power
import Mathlib.Algebra.Order.Floor.Semifield
import Mathlib.Data.Int.Log
import Mathlib.Data.Rat.Floor
import Mathlib.Tactic.FieldSimp
import Mathlib.Tactic.Linarith
import Mathlib.Tactic.Positivity
import Mathlib.Tactic.Ring

/-!
# Rounding to doubles

The double nearest to a fraction is found from its numerator and its denominator. It depends on the
value of the fraction only, so a number may be written in any way without becoming another double.

* `roundEven`, `unitOf`, `bitsOf`: rounding to a whole number, the unit in which a value is counted,
  and the pattern of the double nearest to it, each as a function of the value.
* `nearestBits_eq`, `decimalBits_eq`: the patterns that are worked out are these.
-/

namespace GridSketch.Number

theorem twoPow_eq (n : ℕ) : twoPow n = 2 ^ n := rfl

theorem tenPow_eq (n : ℕ) : tenPow n = 10 ^ n := rfl

/-! ## Rounding to a whole number -/

/-- The whole number nearest to a value, a tie to the even one. -/
def roundEven (v : ℚ) : ℕ :=
  if 1 < 2 * (v - ⌊v⌋₊) ∨ 2 * (v - ⌊v⌋₊) = 1 ∧ ⌊v⌋₊ % 2 = 1 then ⌊v⌋₊ + 1 else ⌊v⌋₊

theorem roundEven_natCast (n : ℕ) : roundEven n = n := by
  simp [roundEven]

theorem roundEven_cases (v : ℚ) : roundEven v = ⌊v⌋₊ ∨ roundEven v = ⌊v⌋₊ + 1 := by
  unfold roundEven
  split
  · exact Or.inr rfl
  · exact Or.inl rfl

theorem roundEven_mono {v w : ℚ} (h : v ≤ w) : roundEven v ≤ roundEven w := by
  have hfloor : ⌊v⌋₊ ≤ ⌊w⌋₊ := Nat.floor_le_floor h
  rcases hfloor.lt_or_eq with hlt | heq
  · rcases roundEven_cases v with hv | hv <;> rcases roundEven_cases w with hw | hw <;> omega
  · unfold roundEven
    rw [heq]
    by_cases hup : 1 < 2 * (v - ⌊w⌋₊) ∨ 2 * (v - ⌊w⌋₊) = 1 ∧ ⌊w⌋₊ % 2 = 1
    · have hrest : 2 * (v - ⌊w⌋₊) ≤ 2 * (w - ⌊w⌋₊) := by linarith
      have hup' : 1 < 2 * (w - ⌊w⌋₊) ∨ 2 * (w - ⌊w⌋₊) = 1 ∧ ⌊w⌋₊ % 2 = 1 := by
        rcases hup with habove | ⟨hhalf, hodd⟩
        · exact Or.inl (habove.trans_le hrest)
        · rw [hhalf] at hrest
          exact hrest.lt_or_eq.imp_right fun hhalf' => ⟨hhalf'.symm, hodd⟩
      rw [if_pos hup, if_pos hup']
    · rw [if_neg hup]
      split <;> omega

theorem roundDiv_eq (num : ℕ) {den : ℕ} (hden : 0 < den) :
    roundDiv num den = roundEven (num / den) := by
  have hpos : (0 : ℚ) < den := by exact_mod_cast hden
  have hfloor : ⌊(num : ℚ) / den⌋₊ = num / den := Nat.floor_div_eq_div num den
  have hrest : 2 * ((num : ℚ) / den - (num / den : ℕ)) = (2 * (num % den) : ℕ) / den := by
    have hsplit : (num : ℚ) = den * (num / den : ℕ) + (num % den : ℕ) := by
      exact_mod_cast (Nat.div_add_mod num den).symm
    rw [Nat.cast_mul, Nat.cast_two]
    field_simp
    linarith
  have habove : 1 < 2 * ((num : ℚ) / den - (num / den : ℕ)) ↔ den < 2 * (num % den) := by
    rw [hrest, one_lt_div hpos, Nat.cast_lt]
  have hhalf : 2 * ((num : ℚ) / den - (num / den : ℕ)) = 1 ↔ 2 * (num % den) = den := by
    rw [hrest, div_eq_one_iff_eq hpos.ne', Nat.cast_inj]
  simp only [roundDiv, roundEven, hfloor, habove, hhalf, Bool.or_eq_true, Bool.and_eq_true,
    decide_eq_true_eq, beq_iff_eq]

/-! ## The unit -/

theorem log_eq {v : ℚ} {k : ℤ} (hlow : 2 ^ k ≤ v) (hhigh : v < 2 ^ (k + 1)) : Int.log 2 v = k := by
  have hv : 0 < v := lt_of_lt_of_le (by positivity) hlow
  have hle : k ≤ Int.log 2 v := (Int.zpow_le_iff_le_log one_lt_two hv).1 (by exact_mod_cast hlow)
  have hlt : Int.log 2 v < k + 1 :=
    (Int.lt_zpow_iff_log_lt one_lt_two hv).1 (by exact_mod_cast hhigh)
  omega

/-- The exponent of the unit in which a value is counted: 53 bits before the point, but no finer
    than the smallest double. -/
def unitOf (v : ℚ) : ℤ := max Exact.leastExponent (Int.log 2 v - 52)

theorem div_unit_lt (v : ℚ) : v / 2 ^ unitOf v < (2 ^ 53 : ℕ) := by
  have hhigh : v < 2 ^ (Int.log 2 v + 1) := by
    exact_mod_cast Int.lt_zpow_succ_log_self one_lt_two v
  rw [div_lt_iff₀ (by positivity)]
  calc v < 2 ^ (Int.log 2 v + 1) := hhigh
    _ ≤ 2 ^ (53 + unitOf v) := zpow_le_zpow_right₀ one_le_two (by unfold unitOf; omega)
    _ = (2 ^ 53 : ℕ) * 2 ^ unitOf v := by
      rw [zpow_add₀ two_ne_zero]
      norm_cast

theorem le_div_unit {v : ℚ} (hv : 0 < v) (hunit : Exact.leastExponent < unitOf v) :
    (2 ^ 52 : ℕ) ≤ v / 2 ^ unitOf v := by
  have hlow : 2 ^ Int.log 2 v ≤ v := by exact_mod_cast Int.zpow_log_le_self one_lt_two hv
  rw [le_div_iff₀ (by positivity)]
  calc ((2 ^ 52 : ℕ) : ℚ) * 2 ^ unitOf v = 2 ^ (52 + unitOf v) := by
        rw [zpow_add₀ two_ne_zero]
        norm_cast
    _ ≤ 2 ^ Int.log 2 v := zpow_le_zpow_right₀ one_le_two (by unfold unitOf at *; omega)
    _ ≤ v := hlow

theorem unitOf_mono {v w : ℚ} (hv : 0 < v) (h : v ≤ w) : unitOf v ≤ unitOf w := by
  have hlog : Int.log 2 v ≤ Int.log 2 w := Int.log_mono_right hv h
  unfold unitOf
  omega

theorem log2_bounds {n : ℕ} (hn : 0 < n) :
    (2 : ℚ) ^ (n.log2 : ℤ) ≤ n ∧ (n : ℚ) < 2 ^ ((n.log2 : ℤ) + 1) := by
  constructor
  · rw [zpow_natCast]
    exact_mod_cast Nat.log2_self_le hn.ne'
  · have hnext : ((n.log2 : ℤ) + 1) = ((n.log2 + 1 : ℕ) : ℤ) := rfl
    rw [hnext, zpow_natCast]
    exact_mod_cast Nat.lt_log2_self

theorem twoPow_le_div {num den : ℕ} (hden : 0 < den) (k : ℤ) :
    (if 0 ≤ k then decide (den * twoPow k.toNat ≤ num)
      else decide (den ≤ num * twoPow (-k).toNat)) = true ↔ (2 : ℚ) ^ k ≤ num / den := by
  have hpos : (0 : ℚ) < den := by exact_mod_cast hden
  rw [le_div_iff₀ hpos]
  split
  · next hk =>
    obtain ⟨n, rfl⟩ := Int.eq_ofNat_of_zero_le hk
    rw [decide_eq_true_eq, Int.toNat_natCast, twoPow_eq, zpow_natCast, mul_comm]
    exact_mod_cast Iff.rfl
  · next hk =>
    obtain ⟨n, hn⟩ := Int.eq_ofNat_of_zero_le (show 0 ≤ -k by omega)
    obtain rfl : k = -n := by omega
    rw [decide_eq_true_eq, neg_neg, Int.toNat_natCast, twoPow_eq, zpow_neg, zpow_natCast,
      inv_mul_le_iff₀ (by positivity), mul_comm]
    exact_mod_cast Iff.rfl

theorem unitExponent_eq {num den : ℕ} (hnum : 0 < num) (hden : 0 < den) :
    unitExponent num den = unitOf (num / den) := by
  obtain ⟨hnumLow, hnumHigh⟩ := log2_bounds hnum
  obtain ⟨hdenLow, hdenHigh⟩ := log2_bounds hden
  have hdenPos : (0 : ℚ) < den := by exact_mod_cast hden
  have hlow : (2 : ℚ) ^ ((num.log2 : ℤ) - den.log2 - 1) ≤ num / den := by
    rw [le_div_iff₀ hdenPos, sub_sub, zpow_sub₀ two_ne_zero, div_mul_eq_mul_div,
      div_le_iff₀ (by positivity)]
    exact mul_le_mul hnumLow hdenHigh.le hdenPos.le (by positivity)
  have hhigh : (num : ℚ) / den < 2 ^ ((num.log2 : ℤ) - den.log2 + 1) := by
    rw [div_lt_iff₀ hdenPos, sub_add_eq_add_sub, zpow_sub₀ two_ne_zero, div_mul_eq_mul_div,
      lt_div_iff₀ (by positivity)]
    exact mul_lt_mul hnumHigh hdenLow (by positivity) (by positivity)
  unfold unitExponent unitOf
  dsimp only
  by_cases hreached : (2 : ℚ) ^ ((num.log2 : ℤ) - den.log2) ≤ num / den
  · rw [if_pos ((twoPow_le_div hden _).2 hreached), log_eq hreached hhigh]
  · rw [if_neg (mt (twoPow_le_div hden _).1 hreached),
      log_eq hlow (by rw [sub_add_cancel]; exact not_le.1 hreached)]
    omega

/-! ## The pattern -/

/-- The pattern of the double nearest to a positive value. -/
def bitsOf (v : ℚ) : ℕ :=
  min infinityBits ((unitOf v - Exact.leastExponent).toNat * twoPow 52 +
    roundEven (v / 2 ^ unitOf v))

/-- **The nearest double depends on the value of a fraction only.** -/
theorem nearestBits_eq {num den : ℕ} (hnum : 0 < num) (hden : 0 < den) :
    nearestBits num den = bitsOf (num / den) := by
  unfold nearestBits bitsOf
  rw [unitExponent_eq hnum hden]
  generalize unitOf ((num : ℚ) / den) = unit
  dsimp only
  have hcount : (if 0 ≤ unit then roundDiv num (den * twoPow unit.toNat)
      else roundDiv (num * twoPow (-unit).toNat) den) =
      roundEven ((num : ℚ) / den / 2 ^ unit) := by
    split
    · next hunit =>
      obtain ⟨n, rfl⟩ := Int.eq_ofNat_of_zero_le hunit
      rw [Int.toNat_natCast, twoPow_eq, roundDiv_eq num (by positivity), zpow_natCast, div_div]
      push_cast
      rfl
    · next hunit =>
      obtain ⟨n, hn⟩ := Int.eq_ofNat_of_zero_le (show 0 ≤ -unit by omega)
      obtain rfl : unit = -n := by omega
      rw [neg_neg, Int.toNat_natCast, twoPow_eq, roundDiv_eq _ hden, zpow_neg, zpow_natCast,
        div_inv_eq_mul, div_mul_eq_mul_div]
      push_cast
      rfl
  rw [hcount]

theorem count_bounds {v : ℚ} (hv : 0 < v) : roundEven (v / 2 ^ unitOf v) ≤ 2 ^ 53 ∧
    (Exact.leastExponent < unitOf v → 2 ^ 52 ≤ roundEven (v / 2 ^ unitOf v)) := by
  constructor
  · simpa only [roundEven_natCast] using roundEven_mono (div_unit_lt v).le
  · intro hunit
    simpa only [roundEven_natCast] using roundEven_mono (le_div_unit hv hunit)

theorem bitsOf_mono {v w : ℚ} (hv : 0 < v) (h : v ≤ w) : bitsOf v ≤ bitsOf w := by
  have hunit := unitOf_mono hv h
  refine min_le_min_left _ ?_
  rcases hunit.lt_or_eq with hlt | heq
  · -- a count that is rounded up ends where the next unit begins
    have hleast : Exact.leastExponent ≤ unitOf v := le_max_left _ _
    have hhigh := (count_bounds hv).1
    have hlow := (count_bounds (hv.trans_le h)).2 (hleast.trans_lt hlt)
    have hsteps : (unitOf v - Exact.leastExponent).toNat + 1 ≤
        (unitOf w - Exact.leastExponent).toNat := by omega
    have hscaled := Nat.mul_le_mul_right (2 ^ 52) hsteps
    rw [twoPow_eq]
    omega
  · rw [heq]
    exact Nat.add_le_add_left (roundEven_mono (by gcongr)) _

/-! ## Values that are doubles -/

namespace Exact

/-- The value, the sign aside. -/
def magnitude (e : Exact) : ℚ := e.mantissa * 2 ^ e.exponent

/-- The pattern of a double, the sign aside: the mantissa, and `2 ^ 52` for every step of the
    unit. -/
def pattern (e : Exact) : ℕ := (e.exponent - leastExponent).toNat * twoPow 52 + e.mantissa

/-- A value that is a double: it has at most 53 bits, all of them unless it is counted in the finest
    unit, and lies below infinity. -/
structure IsDouble (e : Exact) : Prop where
  least : leastExponent ≤ e.exponent
  short : e.mantissa < 2 ^ 53
  full : 2 ^ 52 ≤ e.mantissa ∨ e.exponent = leastExponent
  finite : e.pattern < infinityBits

theorem IsDouble.unitOf_magnitude {e : Exact} (h : e.IsDouble) (hpos : 0 < e.mantissa) :
    unitOf e.magnitude = e.exponent := by
  have hlog : Int.log 2 e.magnitude = e.mantissa.log2 + e.exponent := by
    obtain ⟨hlow, hhigh⟩ := log2_bounds hpos
    refine log_eq ?_ ?_
    · rw [magnitude, zpow_add₀ two_ne_zero]
      gcongr
    · rw [magnitude, add_right_comm, zpow_add₀ two_ne_zero]
      gcongr
  have hbits : e.mantissa.log2 < 53 := (Nat.log2_lt hpos.ne').2 h.short
  have hfull : 2 ^ 52 ≤ e.mantissa → 52 ≤ e.mantissa.log2 := (Nat.le_log2 hpos.ne').2
  have hleast := h.least
  have hcases := h.full
  rw [unitOf, hlog]
  omega

theorem IsDouble.bitsOf_magnitude {e : Exact} (h : e.IsDouble) (hpos : 0 < e.mantissa) :
    bitsOf e.magnitude = e.pattern := by
  rw [bitsOf, h.unitOf_magnitude hpos, magnitude, mul_div_cancel_right₀ _ (by positivity),
    roundEven_natCast]
  exact min_eq_right h.finite.le

end Exact

/-! ## Decimals -/

theorem bitsOf_le_infinity (v : ℚ) : bitsOf v ≤ infinityBits := min_le_left _ _

theorem bitsOf_large {v : ℚ} (h : 2 ^ 1024 ≤ v) : bitsOf v = infinityBits := by
  refine le_antisymm (bitsOf_le_infinity v) ?_
  have hbits : nearestBits (2 ^ 1024) 1 = infinityBits := by decide +kernel
  rw [← hbits, nearestBits_eq (by positivity) one_pos]
  refine bitsOf_mono (by positivity) ?_
  rw [Nat.cast_one, div_one]
  exact_mod_cast h

theorem bitsOf_small {v : ℚ} (hv : 0 < v) (h : v ≤ 1 / 2 ^ 1075) : bitsOf v = 0 := by
  refine Nat.le_zero.1 ?_
  have hbits : nearestBits 1 (2 ^ 1075) = 0 := by decide +kernel
  rw [← hbits, nearestBits_eq one_pos (by positivity)]
  refine bitsOf_mono hv ?_
  exact_mod_cast h

theorem twoPow_le_tenPow (n : ℕ) : 2 ^ (3 * n) ≤ 10 ^ n := by
  rw [pow_mul]
  exact Nat.pow_le_pow_left (by norm_num) n

/-- **The double nearest to a decimal depends on its value only.** The powers of ten that are not
    formed would make no difference. -/
theorem decimalBits_eq {d : ℕ} (hd : 0 < d) (e : ℤ) :
    Numeral.decimalBits d e = bitsOf (d * 10 ^ e) := by
  unfold Numeral.decimalBits
  rw [if_neg hd.ne']
  by_cases he : 0 ≤ e
  · obtain ⟨n, rfl⟩ := Int.eq_ofNat_of_zero_le he
    rw [if_pos he, Int.toNat_natCast, zpow_natCast, tenPow_eq]
    by_cases hlarge : 1024 ≤ d.log2 + 3 * n
    · have hsize : 2 ^ (d.log2 + 3 * n) ≤ d * 10 ^ n := by
        rw [pow_add]
        exact Nat.mul_le_mul (Nat.log2_self_le hd.ne') (twoPow_le_tenPow n)
      have hvalue : (2 : ℚ) ^ 1024 ≤ d * 10 ^ n :=
        (pow_le_pow_right₀ one_le_two hlarge).trans (by exact_mod_cast hsize)
      rw [if_pos hlarge, bitsOf_large hvalue]
    · rw [if_neg hlarge, nearestBits_eq (by positivity) one_pos]
      push_cast
      rw [div_one]
  · obtain ⟨n, hn⟩ := Int.eq_ofNat_of_zero_le (show 0 ≤ -e by omega)
    obtain rfl : e = -n := by omega
    rw [if_neg he, neg_neg, Int.toNat_natCast, zpow_neg, zpow_natCast, ← div_eq_mul_inv, tenPow_eq]
    by_cases hsmall : d.log2 + 1076 < 3 * n
    · have hsize : d * 2 ^ 1075 ≤ 10 ^ n :=
        calc d * 2 ^ 1075 ≤ 2 ^ (d.log2 + 1) * 2 ^ 1075 :=
              Nat.mul_le_mul_right _ Nat.lt_log2_self.le
          _ = 2 ^ (d.log2 + 1076) := by rw [← pow_add]
          _ ≤ 2 ^ (3 * n) := Nat.pow_le_pow_right two_pos hsmall.le
          _ ≤ 10 ^ n := twoPow_le_tenPow n
      have hvalue : (d : ℚ) / 10 ^ n ≤ 1 / 2 ^ 1075 := by
        rw [div_le_div_iff₀ (by positivity) (by positivity), one_mul]
        exact_mod_cast hsize
      rw [if_pos hsmall, bitsOf_small (by positivity) hvalue]
    · rw [if_neg hsmall, nearestBits_eq hd (by positivity)]
      push_cast
      rfl

end GridSketch.Number
