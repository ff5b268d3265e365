import GridSketch.Proofs.Number.Digits
import GridSketch.Proofs.Number.Pattern

/-!
# Displayed numbers

The digits that are shown for a finite double read back as it. They are a number literal unless the
double is smaller than `0.0001`, where a power of ten is written.

* `display_reads`, `display_scientific`: the two forms of a displayed number.
-/

namespace GridSketch.Number

open Numeral

theorem ofText?_reads {cs : List Char} {v : ℚ} (h : Reads cs v) (hv : 0 < v) (negative : Bool) :
    ofText? (String.ofList (if negative then '-' :: cs else cs)) =
      some (signed negative (bitsOf v)) := by
  obtain ⟨hunsigned, n, exponent, rfl, hdecimal⟩ := h
  have hn : 0 < n := by
    refine Nat.pos_of_ne_zero fun hzero => hv.ne' ?_
    rw [hzero, Nat.cast_zero, zero_mul]
  rw [ofText?, String.toList_ofList, ofChars?_signed negative hunsigned, hdecimal]
  rw [Option.map_some, toFloat, decimalBits_eq hn]

/-! ## The shortest digits -/

theorem ratio_spec (e : Exact) :
    0 < e.ratio.2 ∧ (e.ratio.1 : ℚ) / e.ratio.2 = e.magnitude ∧
      (0 < e.mantissa → 0 < e.ratio.1) := by
  unfold Exact.ratio Exact.magnitude
  simp only [twoPow_eq]
  by_cases he : 0 ≤ e.exponent
  · obtain ⟨k, hk⟩ := Int.eq_ofNat_of_zero_le he
    rw [if_pos he, hk]
    refine ⟨one_pos, ?_, fun hpos => ?_⟩
    · simp
    · positivity
  · obtain ⟨k, hk⟩ := Int.eq_ofNat_of_zero_le (show 0 ≤ -e.exponent by omega)
    rw [if_neg he, hk, show e.exponent = -k by omega]
    refine ⟨by positivity, ?_, id⟩
    rw [zpow_neg, ← div_eq_mul_inv]
    simp

theorem exactDecimal_spec (m : ℕ) (q : ℤ) :
    ((exactDecimal m q).1 : ℚ) * 10 ^ (exactDecimal m q).2 = m * 2 ^ q ∧
      (0 < m → 0 < (exactDecimal m q).1) := by
  unfold exactDecimal
  by_cases hq : 0 ≤ q
  · obtain ⟨k, rfl⟩ := Int.eq_ofNat_of_zero_le hq
    rw [if_pos hq]
    refine ⟨?_, fun hm => Nat.mul_pos hm (Nat.pow_pos two_pos)⟩
    simp [twoPow_eq]
  · obtain ⟨k, hk⟩ := Int.eq_ofNat_of_zero_le (show 0 ≤ -q by omega)
    obtain rfl : q = -k := by omega
    rw [if_neg hq, neg_neg, Int.toNat_natCast]
    refine ⟨?_, fun hm => Nat.mul_pos hm (Nat.pow_pos (by decide))⟩
    have hten : (10 : ℚ) ^ k = 5 ^ k * 2 ^ k := by rw [← mul_pow]; norm_num
    have hfive : Nat.pow 5 k = 5 ^ k := rfl
    dsimp only
    rw [zpow_neg, zpow_neg, zpow_natCast, zpow_natCast, hten, hfive]
    push_cast
    field_simp

theorem candidate?_reads {bits num den n : ℕ} {exponent : ℤ}
    (h : candidate? bits num den exponent = some n) : decimalBits n exponent = bits := by
  have hfound := List.find?_some h
  exact beq_iff_eq.1 hfound

/-- **The shortest digits read back.** -/
theorem shortest_reads {e : Exact} (h : e.IsDouble) (hpos : 0 < e.mantissa) :
    decimalBits (shortest e).1 (shortest e).2 = e.pattern := by
  obtain ⟨hden, hvalue, hnum⟩ := ratio_spec e
  obtain ⟨hexact, hexactPos⟩ := exactDecimal_spec e.mantissa e.exponent
  have hbits : nearestBits e.ratio.1 e.ratio.2 = e.pattern := by
    rw [nearestBits_eq (hnum hpos) hden, hvalue, h.bitsOf_magnitude hpos]
  unfold shortest
  dsimp only
  rw [if_neg (hnum hpos).ne', hbits]
  generalize hlead : decimalExponent e.ratio.1 e.ratio.2 = lead
  cases hfound : (List.range maxDigits).findSome? fun (n : ℕ) =>
      (candidate? e.pattern e.ratio.1 e.ratio.2 (lead - n)).map (·, lead - n) with
  | none => rw [Option.getD_none, decimalBits_eq (hexactPos hpos), hexact,
      ← h.bitsOf_magnitude hpos, Exact.magnitude]
  | some result =>
    obtain ⟨n, -, hn⟩ := List.exists_of_findSome?_eq_some hfound
    obtain ⟨count, hcount, rfl⟩ := Option.map_eq_some_iff.1 hn
    exact candidate?_reads hcount

theorem shortest_pos {e : Exact} (h : e.IsDouble) (hpos : 0 < e.mantissa) :
    0 < (shortest e).1 := by
  refine Nat.pos_of_ne_zero fun hzero => ?_
  have hreads := shortest_reads h hpos
  rw [hzero, decimalBits, if_pos rfl, eq_comm, h.pattern_eq_zero] at hreads
  exact hpos.ne' hreads

/-! ## Where a power of ten is written -/

theorem bitsOf_shortest {e : Exact} (h : e.IsDouble) (hpos : 0 < e.mantissa) :
    bitsOf (((shortest e).1 : ℚ) * 10 ^ (shortest e).2) = e.pattern := by
  rw [← shortest_reads h hpos, decimalBits_eq (shortest_pos h hpos)]

/-- The least double with a written point, `0.0001`. -/
def leastWritten : Exact := ⟨false, 7378697629483821, -66⟩

theorem leastWritten_eq : Exact.ofFloat? 0.0001 = some leastWritten := rfl

section Bound

variable {x : Float} {e : Exact} (hx : Exact.ofFloat? x = some e)

include hx

theorem leastWritten_le_abs : 0.0001 ≤ x.abs ↔ leastWritten.pattern ≤ e.pattern := by
  have habs : (0.0001 : Float).abs = 0.0001 := rfl
  rw [← abs_le_abs leastWritten_eq hx, habs]

theorem abs_lt_leastWritten : x.abs < 0.0001 ↔ e.pattern < leastWritten.pattern := by
  have habs : (0.0001 : Float).abs = 0.0001 := rfl
  rw [← abs_lt_abs hx leastWritten_eq, habs]

theorem zero_lt_abs : 0 < x.abs ↔ 0 < e.pattern := by
  have habs : (0 : Float).abs = 0 := rfl
  have hzero : Exact.ofFloat? 0 = some ⟨false, 0, Exact.leastExponent⟩ := rfl
  have hpattern : (⟨false, 0, Exact.leastExponent⟩ : Exact).pattern = 0 := rfl
  rw [← hpattern, ← abs_lt_abs hzero hx, habs]

end Bound

theorem bitsOf_leastWritten : bitsOf (10 ^ (-4 : ℤ)) = leastWritten.pattern := by
  have hbits : nearestBits 1 10000 = leastWritten.pattern := by decide +kernel
  rw [← hbits, nearestBits_eq one_pos (by decide)]
  norm_num

theorem shortest_leastWritten {e : Exact} (hm : e.mantissa = leastWritten.mantissa)
    (hq : e.exponent = leastWritten.exponent) : shortest e = (1, -4) := by
  obtain ⟨negative, m, q⟩ := e
  dsimp only at hm hq
  subst hm hq
  cases negative <;> decide +kernel

section Place

variable {e : Exact} (h : e.IsDouble) (hpos : 0 < e.mantissa)

include h hpos

/-- The digits of a double begin at the place of `0.0001` or before it from there on. -/
theorem leastPlace_le_lead_iff :
    -4 ≤ (Digits.ofScaled (shortest e).1 (shortest e).2).lead ↔
      leastWritten.pattern ≤ e.pattern := by
  obtain ⟨hlow, hhigh⟩ := Digits.ofScaled_lead (shortest e).2 (shortest_pos h hpos)
  have hvalue := bitsOf_shortest h hpos
  constructor
  · intro hlead
    rw [← bitsOf_leastWritten, ← hvalue]
    exact bitsOf_mono (by positivity)
      ((zpow_le_zpow_right₀ (by norm_num) hlead).trans hlow)
  · intro hpattern
    by_contra hlead
    have hbelow : ((shortest e).1 : ℚ) * 10 ^ (shortest e).2 ≤ 10 ^ (-4 : ℤ) :=
      hhigh.le.trans (zpow_le_zpow_right₀ (by norm_num) (by omega))
    have hn : (0 : ℚ) < (shortest e).1 := by exact_mod_cast shortest_pos h hpos
    have hle := bitsOf_mono (by positivity) hbelow
    rw [hvalue, bitsOf_leastWritten] at hle
    -- only `0.0001` itself is left, and its digits are known
    obtain ⟨hq, hm⟩ := h.pattern_inj (ofFloat?_isDouble leastWritten_eq) (le_antisymm hle hpattern)
    rw [shortest_leastWritten hm hq] at hlead
    exact hlead (by decide +kernel)

theorem isWhole_of_placeBound_le
    (hlead : 16 ≤ (Digits.ofScaled (shortest e).1 (shortest e).2).lead) : e.isWhole = true := by
  obtain ⟨hlow, -⟩ := Digits.ofScaled_lead (shortest e).2 (shortest_pos h hpos)
  have hlarge : ((2 ^ 52 : ℕ) : ℚ) / (1 : ℕ) ≤ (shortest e).1 * 10 ^ (shortest e).2 :=
    calc ((2 ^ 52 : ℕ) : ℚ) / (1 : ℕ) ≤ 10 ^ (16 : ℤ) := by norm_num
      _ ≤ 10 ^ (Digits.ofScaled (shortest e).1 (shortest e).2).lead :=
        zpow_le_zpow_right₀ (by norm_num) hlead
      _ ≤ _ := hlow
  have hbits : nearestBits (2 ^ 52) 1 = 1075 * 2 ^ 52 := by decide +kernel
  have hpattern : 1075 * 2 ^ 52 ≤ e.pattern := by
    rw [← bitsOf_shortest h hpos, ← hbits, nearestBits_eq (by decide) one_pos]
    exact bitsOf_mono (by norm_num) hlarge
  have hshort := h.short
  have hexponent : 0 ≤ e.exponent := by
    rw [Exact.pattern, twoPow_eq, Exact.leastExponent] at hpattern
    omega
  rw [Exact.isWhole, decide_eq_true hexponent, Bool.true_or]

/-- **Where a power of ten is written.** A double that is no whole number has a written point from
    `0.0001` on, and a power of ten below. -/
theorem chars_shortest (hfraction : e.isWhole = false) :
    (Digits.ofScaled (shortest e).1 (shortest e).2).chars layout =
      if leastWritten.pattern ≤ e.pattern then
        (Digits.ofScaled (shortest e).1 (shortest e).2).positional
      else (Digits.ofScaled (shortest e).1 (shortest e).2).scientific layout.exponentWidth := by
  have hproper := Digits.ofScaled_proper (shortest e).2 (shortest_pos h hpos)
  have hleast := leastPlace_le_lead_iff h hpos
  have hbound : (Digits.ofScaled (shortest e).1 (shortest e).2).lead < 16 := by
    by_contra hlead
    rw [isWhole_of_placeBound_le h hpos (not_lt.1 hlead)] at hfraction
    cases hfraction
  generalize Digits.ofScaled (shortest e).1 (shortest e).2 = d at hproper hleast hbound
  have hcondition : (decide (layout.leastPlace ≤ d.lead) && decide (d.lead < layout.placeBound)) =
      true ↔ leastWritten.pattern ≤ e.pattern := by
    rw [Bool.and_eq_true, decide_eq_true_eq, decide_eq_true_eq, ← hleast]
    exact and_iff_left hbound
  rw [Digits.chars, if_neg (mt List.isEmpty_iff.1 hproper.ne_nil)]
  exact if_congr hcondition rfl rfl

end Place

/-! ## Whole numbers -/

theorem floorScaled_whole {e : Exact} (hwhole : e.isWhole = true) :
    (Exact.floorScaled e.mantissa e.exponent : ℚ) = e.magnitude := by
  unfold Exact.floorScaled Exact.magnitude
  by_cases he : 0 ≤ e.exponent
  · obtain ⟨k, hk⟩ := Int.eq_ofNat_of_zero_le he
    rw [if_pos he, hk, Int.toNat_natCast, twoPow_eq, zpow_natCast]
    push_cast
    rfl
  · obtain ⟨k, hk⟩ := Int.eq_ofNat_of_zero_le (show 0 ≤ -e.exponent by omega)
    rw [Exact.isWhole, decide_eq_false he, Bool.false_or, beq_iff_eq, hk, Int.toNat_natCast,
      twoPow_eq] at hwhole
    rw [if_neg he, hk, Int.toNat_natCast, twoPow_eq, show e.exponent = -k by omega, zpow_neg,
      zpow_natCast, ← div_eq_mul_inv, Nat.cast_div (Nat.dvd_of_mod_eq_zero hwhole) (by positivity)]
    push_cast
    rfl

theorem one_le_magnitude {e : Exact} (hpos : 0 < e.mantissa) (hwhole : e.isWhole = true) :
    1 ≤ e.magnitude := by
  have hmagnitude : 0 < e.magnitude := by
    unfold Exact.magnitude
    positivity
  rw [← floorScaled_whole hwhole] at hmagnitude ⊢
  exact_mod_cast hmagnitude

theorem isWhole_eq_false {e : Exact} (h : e.IsDouble) (hpos : 0 < e.mantissa)
    (hlt : e.pattern < leastWritten.pattern) : e.isWhole = false := by
  rw [← Bool.not_eq_true]
  intro hwhole
  refine hlt.not_ge ?_
  rw [← bitsOf_leastWritten, ← h.bitsOf_magnitude hpos]
  exact bitsOf_mono (by norm_num) (le_trans (by norm_num) (one_le_magnitude hpos hwhole))

/-! ## What is displayed -/

section Display

variable {x : Float} {e : Exact} (hx : Exact.ofFloat? x = some e)

include hx

theorem display_whole (hpos : 0 < e.mantissa) (hwhole : e.isWhole = true) :
    display x = String.ofList (if e.negative then
      '-' :: natChars (Exact.floorScaled e.mantissa e.exponent)
      else natChars (Exact.floorScaled e.mantissa e.exponent)) := by
  have hone := one_le_magnitude hpos hwhole
  rw [← floorScaled_whole hwhole] at hone
  have hcount : 1 ≤ Exact.floorScaled e.mantissa e.exponent := by exact_mod_cast hone
  simp only [display, hx, Option.bind_some, Exact.whole?, hwhole, if_true, intText, intChars,
    Exact.trunc]
  generalize Exact.floorScaled e.mantissa e.exponent = count at hcount
  cases e.negative with
  | false => rw [if_neg Bool.false_ne_true, if_neg (by omega), if_neg Bool.false_ne_true,
      Int.natAbs_natCast]
  | true => rw [if_pos rfl, if_pos (by omega), if_pos rfl, Int.natAbs_neg, Int.natAbs_natCast]

theorem display_fraction (hwhole : e.isWhole = false) :
    display x = String.ofList (if e.negative then
      '-' :: (Digits.ofScaled (shortest e).1 (shortest e).2).chars layout
      else (Digits.ofScaled (shortest e).1 (shortest e).2).chars layout) := by
  simp [display, hx, Exact.whole?, hwhole, render]

/-- **From `0.0001` on, the text shown is a literal that reads back.** -/
theorem display_reads (hpos : 0 < e.mantissa) (hleast : leastWritten.pattern ≤ e.pattern) :
    ∃ cs, display x = String.ofList (if e.negative then '-' :: cs else cs) ∧ Unsigned cs ∧
      ofText? (display x) = some x := by
  have h := ofFloat?_isDouble hx
  -- on either way the text has a value that rounds to the double
  suffices hreads : ∃ cs v, display x = String.ofList (if e.negative then '-' :: cs else cs) ∧
      Reads cs v ∧ 0 < v ∧ bitsOf v = e.pattern by
    obtain ⟨cs, v, htext, hcs, hv, hbits⟩ := hreads
    refine ⟨cs, htext, hcs.1, ?_⟩
    rw [htext, ofText?_reads hcs hv, hbits, signed_pattern hx]
  cases hwhole : e.isWhole with
  | true =>
    refine ⟨_, _, display_whole hx hpos hwhole, natChars_reads _, ?_, ?_⟩
    · rw [floorScaled_whole hwhole]
      exact one_pos.trans_le (one_le_magnitude hpos hwhole)
    · rw [floorScaled_whole hwhole, h.bitsOf_magnitude hpos]
  | false =>
    have htext := display_fraction hx hwhole
    rw [chars_shortest h hpos hwhole, if_pos hleast] at htext
    have hn : (0 : ℚ) < (shortest e).1 := by exact_mod_cast shortest_pos h hpos
    refine ⟨_, _, htext, Digits.positional_reads (Digits.ofScaled_proper _ (shortest_pos h hpos)),
      ?_, ?_⟩
    · rw [Digits.ofScaled_value]
      positivity
    · rw [Digits.ofScaled_value, bitsOf_shortest h hpos]

/-- **Below `0.0001` the text shown has a power of ten**: a literal, the letter and a negative
    literal. -/
theorem display_scientific (hpos : 0 < e.mantissa) (hlt : e.pattern < leastWritten.pattern) :
    ∃ cs power, display x =
        String.ofList ((if e.negative then '-' :: cs else cs) ++ 'e' :: '-' :: power) ∧
      Unsigned cs ∧ Unsigned power := by
  have h := ofFloat?_isDouble hx
  have hwhole := isWhole_eq_false h hpos hlt
  have hlead : (Digits.ofScaled (shortest e).1 (shortest e).2).lead < 0 := by
    have hleast := mt (leastPlace_le_lead_iff h hpos).1 hlt.not_ge
    omega
  obtain ⟨cs, power, hform, hcs, hpower⟩ := Digits.scientific_form
    (Digits.ofScaled_proper (shortest e).2 (shortest_pos h hpos)) hlead layout.exponentWidth
  refine ⟨cs, power, ?_, hcs, hpower⟩
  rw [display_fraction hx hwhole, chars_shortest h hpos hwhole, if_neg hlt.not_ge, hform]
  cases e.negative <;> rfl

end Display

theorem display_zero {x : Float} (h : (x == 0) = true) : display x = "0" := by
  have hexact : ∃ negative, Exact.ofFloat? x = some ⟨negative, 0, Exact.leastExponent⟩ := by
    obtain ⟨-, -, rfl | ⟨rfl, -⟩ | ⟨rfl, -⟩⟩ := Float.beq_iff_ne_nan_and_eq.1 h
    · exact ⟨false, rfl⟩
    · exact ⟨false, rfl⟩
    · exact ⟨true, rfl⟩
  obtain ⟨negative, hx⟩ := hexact
  have hwhole : (⟨negative, 0, Exact.leastExponent⟩ : Exact).whole? = some 0 := by
    cases negative <;> decide +kernel
  rw [display, hx, Option.bind_some, hwhole]
  rfl

theorem beq_self_of_isFinite {x : Float} (h : x.isFinite = true) : (x == x) = true := by
  refine Float.beq_self_iff.2 ?_
  rintro rfl
  exact absurd h (by decide)

end GridSketch.Number
