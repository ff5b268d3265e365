import GridSketch.Proofs.Number.Finite
import GridSketch.Proofs.Number.Rounding
import Mathlib

/-!
# The patterns of the finite doubles

A finite double and the exact value taken from its bits determine each other, and doubles without
their sign are in the order of their patterns.

* `signed_pattern`, `ofFloat?_signed`: from a double to its value and back.
* `abs_le_abs`, `abs_lt_abs`: how two magnitudes compare.
-/

namespace GridSketch.Number

open Float.Model

/-! ## The bits -/

theorem fractionField_toNat (b : BitVec Format.binary64.numBits) :
    (UnpackedFloat.unpackMantissa b).toNat = b.toNat % 2 ^ 52 := by
  rw [UnpackedFloat.unpackMantissa_def, BitVec.extractLsb'_toNat, Nat.shiftRight_zero]

theorem signField_eq (b : BitVec Format.binary64.numBits) :
    UnpackedFloat.unpackSign b = 0#1 ↔ ¬ 2 ^ 63 ≤ b.toNat := by
  have hlt : b.toNat < 2 ^ 64 := b.isLt
  rw [← BitVec.toNat_inj, UnpackedFloat.unpackSign_def, BitVec.extractLsb'_toNat,
    Nat.shiftRight_eq_div_pow]
  change b.toNat / 2 ^ 63 % 2 = 0 ↔ _
  omega

theorem ofFloat?_eq (x : Float) :
    Exact.ofFloat? x =
      if x.toBits.toNat / 2 ^ 52 % 2 ^ 11 = 2047 then none
      else if x.toBits.toNat / 2 ^ 52 % 2 ^ 11 = 0 then
        some ⟨decide (2 ^ 63 ≤ x.toBits.toNat), x.toBits.toNat % 2 ^ 52, Exact.leastExponent⟩
      else
        some ⟨decide (2 ^ 63 ≤ x.toBits.toNat), 2 ^ 52 + x.toBits.toNat % 2 ^ 52,
          Exact.leastExponent + (x.toBits.toNat / 2 ^ 52 % 2 ^ 11 - 1 : ℕ)⟩ :=
  rfl

theorem ofFloat?_cases {x : Float} {e : Exact} (h : Exact.ofFloat? x = some e) :
    e.negative = decide (2 ^ 63 ≤ x.toBits.toNat) ∧
      (x.toBits.toNat / 2 ^ 52 % 2 ^ 11 = 0 ∧
          e.mantissa = x.toBits.toNat % 2 ^ 52 ∧ e.exponent = Exact.leastExponent ∨
        0 < x.toBits.toNat / 2 ^ 52 % 2 ^ 11 ∧ x.toBits.toNat / 2 ^ 52 % 2 ^ 11 < 2047 ∧
          e.mantissa = 2 ^ 52 + x.toBits.toNat % 2 ^ 52 ∧
          e.exponent = Exact.leastExponent + (x.toBits.toNat / 2 ^ 52 % 2 ^ 11 - 1 : ℕ)) := by
  have hfield : x.toBits.toNat / 2 ^ 52 % 2 ^ 11 < 2 ^ 11 := Nat.mod_lt _ (by decide)
  rw [ofFloat?_eq] at h
  split at h
  · cases h
  · next hfinite =>
    split at h
    · next hzero =>
      cases h
      exact ⟨rfl, Or.inl ⟨hzero, rfl, rfl⟩⟩
    · next hzero =>
      cases h
      exact ⟨rfl, Or.inr ⟨Nat.pos_of_ne_zero hzero, by omega, rfl, rfl⟩⟩

theorem ofFloat?_isDouble {x : Float} {e : Exact} (h : Exact.ofFloat? x = some e) :
    e.IsDouble := by
  obtain ⟨-, ⟨hfield, hm, hq⟩ | ⟨hfield, hfinite, hm, hq⟩⟩ := ofFloat?_cases h
  · refine ⟨hq.ge, by omega, Or.inr hq, ?_⟩
    rw [Exact.pattern, hq, hm, infinityBits, twoPow_eq]
    omega
  · refine ⟨by omega, by omega, Or.inl (by omega), ?_⟩
    rw [Exact.pattern, hq, hm, infinityBits, twoPow_eq]
    omega

theorem toBits_of_ofFloat? {x : Float} {e : Exact} (h : Exact.ofFloat? x = some e) :
    x.toBits.toNat = if e.negative then twoPow 63 + e.pattern else e.pattern := by
  have hbits : x.toBits.toNat < 2 ^ 64 := x.toBits.toNat_lt
  obtain ⟨hneg, ⟨hfield, hm, hq⟩ | ⟨hfield, hfinite, hm, hq⟩⟩ := ofFloat?_cases h <;>
  · simp only [Exact.pattern, hneg, hm, hq, twoPow_eq, decide_eq_true_eq]
    split <;> omega

theorem signed_pattern {x : Float} {e : Exact} (h : Exact.ofFloat? x = some e) :
    signed e.negative e.pattern = x := by
  rw [signed, ← toBits_of_ofFloat? h, UInt64.ofNat_toNat, Float.ofBits_toBits]

theorem toBits_signed (negative : Bool) {p : ℕ} (hp : p < infinityBits) :
    (signed negative p).toBits.toNat = if negative then twoPow 63 + p else p := by
  have hlt : (if negative then twoPow 63 + p else p) < 2 ^ 64 := by
    rw [infinityBits, twoPow_eq] at hp
    rw [twoPow_eq]
    split <;> omega
  generalize hbits : (if negative then twoPow 63 + p else p) = bits at hlt
  have hfield : bits / 2 ^ 52 % 2 ^ 11 ≠ 2047 := by
    rw [infinityBits, twoPow_eq] at hp
    rw [twoPow_eq] at hbits
    split at hbits <;> omega
  have hvector : (BitVec.ofNat Format.binary64.numBits bits).toNat = bits :=
    (BitVec.toNat_ofNat _ _).trans (Nat.mod_eq_of_lt hlt)
  have hnumber : ¬ UnpackedFloat.isNaNBits (BitVec.ofNat Format.binary64.numBits bits) = true := by
    rw [UnpackedFloat.isNaNBits, decide_eq_true_eq, ← BitVec.toNat_inj, exponentField_toNat,
      hvector]
    exact fun hnan => hfield hnan.1
  rw [signed, hbits]
  change (UnpackedFloat.pack Format.binary64 (UnpackedFloat.unpack Format.binary64
    (BitVec.ofNat Format.binary64.numBits bits))).toNat = bits
  rw [UnpackedFloat.pack_unpack, if_neg hnumber, hvector]

/-- **Every value that a double has is the exact value of a double.** -/
theorem ofFloat?_signed {e : Exact} (h : e.IsDouble) :
    Exact.ofFloat? (signed e.negative e.pattern) = some e := by
  have hbits := toBits_signed e.negative h.finite
  have hfinite : e.pattern < 2047 * 2 ^ 52 := h.finite
  have hsign : decide (2 ^ 63 ≤ (signed e.negative e.pattern).toBits.toNat) = e.negative := by
    rw [hbits, twoPow_eq]
    cases e.negative
    · simp only [Bool.false_eq_true, if_false, decide_eq_false_iff_not]
      omega
    · simp only [if_true, decide_eq_true_eq]
      omega
  have hrest : (signed e.negative e.pattern).toBits.toNat % 2 ^ 63 = e.pattern := by
    rw [hbits, twoPow_eq]
    split <;> omega
  have hpattern : e.pattern = (e.exponent - Exact.leastExponent).toNat * 2 ^ 52 + e.mantissa := rfl
  have hleast := h.least
  have hshort := h.short
  rw [ofFloat?_eq, hsign]
  generalize (signed e.negative e.pattern).toBits.toNat = bits at hrest
  by_cases hfull : 2 ^ 52 ≤ e.mantissa
  · have hm : 2 ^ 52 + bits % 2 ^ 52 = e.mantissa := by omega
    have hq : Exact.leastExponent + (bits / 2 ^ 52 % 2 ^ 11 - 1 : ℕ) = e.exponent := by omega
    rw [if_neg (by omega), if_neg (by omega), hm, hq]
  · have hq : e.exponent = Exact.leastExponent := h.full.resolve_left hfull
    have hm : bits % 2 ^ 52 = e.mantissa := by omega
    rw [if_neg (by omega), if_pos (by omega), hm, ← hq]

/-! ## The arithmetic's view -/

namespace Exact

/-- The sign as the arithmetic names it. -/
def sign (e : Exact) : UnpackedFloat.Sign := if e.negative then .negative else .positive

/-- A value in the form that comparisons look at. -/
def unpacked (e : Exact) : UnpackedFloat :=
  if hm : e.mantissa = 0 then .zero e.sign
  else .finite e.sign e.mantissa e.exponent (Nat.pos_of_ne_zero hm)

theorem unpacked_zero {e : Exact} (hm : e.mantissa = 0) : e.unpacked = .zero e.sign := dif_pos hm

theorem unpacked_finite {e : Exact} (hm : e.mantissa ≠ 0) :
    e.unpacked = .finite e.sign e.mantissa e.exponent (Nat.pos_of_ne_zero hm) :=
  dif_neg hm

end Exact

theorem finite_congr {sign : UnpackedFloat.Sign} {m m' : ℕ} {q q' : ℤ} (hm : m = m') (hq : q = q')
    (hpos : 0 < m) (hpos' : 0 < m') :
    UnpackedFloat.finite sign m q hpos = .finite sign m' q' hpos' := by
  subst hm hq
  rfl

/-- Comparisons look at the exact value. -/
theorem unpack_of_ofFloat? {x : Float} {e : Exact} (h : Exact.ofFloat? x = some e) :
    x.toModel.unpack = e.unpacked := by
  obtain ⟨hneg, hcases⟩ := ofFloat?_cases h
  have hbits : x.toBits.toNat = x.toModel.toBits.toBitVec.toNat := rfl
  rw [hbits] at hneg hcases
  unfold Float.Model.unpack
  generalize x.toModel.toBits.toBitVec = b at hneg hcases ⊢
  have hexponent := exponentField_toNat b
  have hfraction := fractionField_toNat b
  rw [twoPow_eq, twoPow_eq] at hexponent
  have hsign : UnpackedFloat.Sign.ofBitVec (@UnpackedFloat.unpackSign Format.binary64 b) =
      e.sign := by
    rw [UnpackedFloat.Sign.ofBitVec, Exact.sign, hneg]
    by_cases hlarge : 2 ^ 63 ≤ b.toNat
    · rw [if_neg (mt (signField_eq b).1 (not_not_intro hlarge)), if_pos (decide_eq_true hlarge)]
    · rw [if_pos ((signField_eq b).2 hlarge), if_neg (by simpa using hlarge)]
  have hfinite : @UnpackedFloat.unpackExponent Format.binary64 b ≠
      -BitVec.ofNat Format.binary64.exponentBits 1 := by
    rw [← BitVec.toNat_ne_iff_ne, hexponent]
    change b.toNat / 2 ^ 52 % 2 ^ 11 ≠ 2047
    omega
  unfold UnpackedFloat.unpack
  dsimp only
  rw [if_neg hfinite, hsign]
  rcases hcases with ⟨hfield, hm, hq⟩ | ⟨hfield, -, hm, hq⟩
  · have hzero : @UnpackedFloat.unpackExponent Format.binary64 b =
        BitVec.ofNat Format.binary64.exponentBits 0 := by
      rw [← BitVec.toNat_inj, hexponent, hfield]
      rfl
    have hvec : @UnpackedFloat.unpackMantissa Format.binary64 b =
        BitVec.ofNat Format.binary64.mantissaBitsWithoutImplicit 0 ↔ e.mantissa = 0 := by
      rw [← BitVec.toNat_inj, hfraction, ← hm]
      rfl
    rw [if_pos hzero]
    by_cases hm0 : e.mantissa = 0
    · rw [dif_pos (hvec.2 hm0), Exact.unpacked_zero hm0]
    · rw [dif_neg (mt hvec.1 hm0), Exact.unpacked_finite hm0]
      refine finite_congr (hfraction.trans hm.symm) ?_ _ _
      rw [hexponent, hfield, hq]
      rfl
  · have hzero : @UnpackedFloat.unpackExponent Format.binary64 b ≠
        BitVec.ofNat Format.binary64.exponentBits 0 := by
      rw [← BitVec.toNat_ne_iff_ne, hexponent]
      exact hfield.ne'
    rw [if_neg hzero, Exact.unpacked_finite (by omega)]
    refine finite_congr ?_ ?_ _ _
    · rw [hm, BitVec.toNat_append, ← Nat.shiftLeft_add_eq_or_of_lt (BitVec.isLt _), hfraction]
      rfl
    · rw [hexponent, hq]
      change ((_ : ℕ) : ℤ) - (1023 + 52) = -1074 + _
      omega

namespace Exact

/-- A value without its sign. -/
def abs (e : Exact) : Exact := ⟨false, e.mantissa, e.exponent⟩

theorem unpacked_abs (e : Exact) : e.abs.unpacked = e.unpacked.abs := by
  by_cases hm : e.mantissa = 0
  · rw [unpacked_zero hm, unpacked_zero (show e.abs.mantissa = 0 from hm)]
    rfl
  · rw [unpacked_finite hm, unpacked_finite (show e.abs.mantissa ≠ 0 from hm)]
    rfl

theorem IsDouble.abs {e : Exact} (h : e.IsDouble) : e.abs.IsDouble :=
  ⟨h.least, h.short, h.full, h.finite⟩

theorem IsDouble.pattern_eq_zero {e : Exact} (h : e.IsDouble) :
    e.pattern = 0 ↔ e.mantissa = 0 := by
  have hfull := h.full
  rw [pattern, twoPow_eq]
  omega

/-- The unit comes first in the order of the patterns, then the mantissa. -/
theorem IsDouble.pattern_lt {e f : Exact} (he : e.IsDouble) (hf : f.IsDouble)
    (hlt : e.exponent < f.exponent ∨ e.exponent = f.exponent ∧ e.mantissa < f.mantissa) :
    e.pattern < f.pattern := by
  have hleast := he.least
  have hshort := he.short
  have hfull := hf.full
  rw [pattern, pattern, twoPow_eq]
  omega

theorem IsDouble.pattern_inj {e f : Exact} (he : e.IsDouble) (hf : f.IsDouble)
    (h : e.pattern = f.pattern) : e.exponent = f.exponent ∧ e.mantissa = f.mantissa := by
  have heq : e.exponent = f.exponent := by
    rcases lt_trichotomy e.exponent f.exponent with hlt | heq | hgt
    · exact absurd h (he.pattern_lt hf (Or.inl hlt)).ne
    · exact heq
    · exact absurd h (hf.pattern_lt he (Or.inl hgt)).ne'
  refine ⟨heq, ?_⟩
  rw [pattern, pattern, heq] at h
  exact Nat.add_left_cancel h

theorem compare_unpacked {e f : Exact} (he : e.IsDouble) (hf : f.IsDouble) :
    e.abs.unpacked.compare f.abs.unpacked = some (compare e.pattern f.pattern) := by
  have hezero := he.pattern_eq_zero
  have hfzero := hf.pattern_eq_zero
  by_cases hem : e.mantissa = 0 <;> by_cases hfm : f.mantissa = 0
  · rw [unpacked_zero (show e.abs.mantissa = 0 from hem),
      unpacked_zero (show f.abs.mantissa = 0 from hfm), hezero.2 hem, hfzero.2 hfm]
    rfl
  · rw [unpacked_zero (show e.abs.mantissa = 0 from hem),
      unpacked_finite (show f.abs.mantissa ≠ 0 from hfm), compare_lt_iff_lt.2 (by omega)]
    rfl
  · rw [unpacked_finite (show e.abs.mantissa ≠ 0 from hem),
      unpacked_zero (show f.abs.mantissa = 0 from hfm), compare_gt_iff_gt.2 (by omega)]
    rfl
  · rw [unpacked_finite (show e.abs.mantissa ≠ 0 from hem),
      unpacked_finite (show f.abs.mantissa ≠ 0 from hfm)]
    change some ((compare e.exponent f.exponent).then (compare e.mantissa f.mantissa)) = _
    congr 1
    rcases lt_trichotomy e.exponent f.exponent with hlt | heq | hgt
    · rw [compare_lt_iff_lt.2 hlt, compare_lt_iff_lt.2 (he.pattern_lt hf (Or.inl hlt))]
      rfl
    · rw [compare_eq_iff_eq.2 heq]
      change compare e.mantissa f.mantissa = _
      rcases lt_trichotomy e.mantissa f.mantissa with hlt | hmeq | hgt
      · rw [compare_lt_iff_lt.2 hlt, compare_lt_iff_lt.2 (he.pattern_lt hf (Or.inr ⟨heq, hlt⟩))]
      · rw [compare_eq_iff_eq.2 hmeq, pattern, pattern, heq, hmeq, compare_eq_iff_eq.2 rfl]
      · rw [compare_gt_iff_gt.2 hgt,
          compare_gt_iff_gt.2 (hf.pattern_lt he (Or.inr ⟨heq.symm, hgt⟩))]
    · rw [compare_gt_iff_gt.2 hgt, compare_gt_iff_gt.2 (hf.pattern_lt he (Or.inl hgt))]
      rfl

end Exact

theorem ofFloat?_abs {x : Float} {e : Exact} (h : Exact.ofFloat? x = some e) :
    Exact.ofFloat? x.abs = some e.abs := by
  have hsigned := ofFloat?_signed (ofFloat?_isDouble h).abs
  have hunpack : (signed e.abs.negative e.abs.pattern).toModel.unpack = x.toModel.unpack.abs := by
    rw [unpack_of_ofFloat? hsigned, unpack_of_ofFloat? h, Exact.unpacked_abs]
  have habs : x.abs = signed e.abs.negative e.abs.pattern := by
    rw [← Float.ofBits_toBits (signed e.abs.negative e.abs.pattern)]
    change Float.ofModel (pack x.toModel.unpack.abs) =
      Float.ofModel (pack (signed e.abs.negative e.abs.pattern).toModel.unpack)
    rw [hunpack]
  rw [habs]
  exact hsigned

section Order

theorem lt_iff (a b : Float) : a < b ↔ a.toModel.unpack.lt b.toModel.unpack = true :=
  decide_eq_true_iff (p := a.toModel < b.toModel)

theorem le_iff (a b : Float) : a ≤ b ↔ a.toModel.unpack.le b.toModel.unpack = true :=
  decide_eq_true_iff (p := a.toModel ≤ b.toModel)

variable {x y : Float} {e f : Exact}

theorem abs_lt_abs (hx : Exact.ofFloat? x = some e) (hy : Exact.ofFloat? y = some f) :
    x.abs < y.abs ↔ e.pattern < f.pattern := by
  have hcompare := Exact.compare_unpacked (ofFloat?_isDouble hx) (ofFloat?_isDouble hy)
  rw [← unpack_of_ofFloat? (ofFloat?_abs hx), ← unpack_of_ofFloat? (ofFloat?_abs hy)] at hcompare
  rw [lt_iff, UnpackedFloat.lt, hcompare, beq_iff_eq, Option.some_inj,
    compare_lt_iff_lt]

theorem abs_le_abs (hx : Exact.ofFloat? x = some e) (hy : Exact.ofFloat? y = some f) :
    x.abs ≤ y.abs ↔ e.pattern ≤ f.pattern := by
  have hcompare := Exact.compare_unpacked (ofFloat?_isDouble hx) (ofFloat?_isDouble hy)
  rw [← unpack_of_ofFloat? (ofFloat?_abs hx), ← unpack_of_ofFloat? (ofFloat?_abs hy)] at hcompare
  rw [le_iff, UnpackedFloat.le, hcompare, Option.any_some, Nat.isLE_compare]

end Order

end GridSketch.Number
