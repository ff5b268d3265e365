import GridSketch.Number.Exact

/-!
# Finite doubles

The arithmetic of doubles tells a finite one from an infinity or a NaN, and so does the exponent
field of its bits. The two agree.

* `trunc?_isSome`: a double has a whole part if it is finite, and only then.
-/

namespace GridSketch.Number

open Float.Model

theorem exponentField_toNat (b : BitVec Format.binary64.numBits) :
    (UnpackedFloat.unpackExponent b).toNat = b.toNat / twoPow 52 % twoPow 11 := by
  simp [UnpackedFloat.unpackExponent, twoPow, Nat.shiftRight_eq_div_pow]

theorem unpack_isFinite (b : BitVec Format.binary64.numBits) :
    (UnpackedFloat.unpack Format.binary64 b).isFinite = true ↔
      (UnpackedFloat.unpackExponent b).toNat ≠ 2047 := by
  have hones : UnpackedFloat.unpackExponent b = -BitVec.ofNat Format.binary64.exponentBits 1 ↔
      (UnpackedFloat.unpackExponent b).toNat = 2047 := by
    rw [← BitVec.toNat_inj]
    rfl
  unfold UnpackedFloat.unpack
  dsimp only
  by_cases h : UnpackedFloat.unpackExponent b = -BitVec.ofNat Format.binary64.exponentBits 1
  · rw [if_pos h]
    refine iff_of_false ?_ (not_not_intro (hones.1 h))
    split <;> exact Bool.false_ne_true
  · rw [if_neg h]
    refine iff_of_true ?_ (mt hones.2 h)
    by_cases hfield : UnpackedFloat.unpackExponent b = BitVec.ofNat Format.binary64.exponentBits 0
    · rw [if_pos hfield]
      by_cases hmantissa : UnpackedFloat.unpackMantissa b = 0#52
      · rw [dif_pos hmantissa]
        rfl
      · rw [dif_neg hmantissa]
        rfl
    · rw [if_neg hfield]
      rfl

theorem ofFloat?_isSome (x : Float) : (Exact.ofFloat? x).isSome = x.isFinite := by
  have hbits : x.toBits.toNat = x.toModel.toBits.toBitVec.toNat := rfl
  have hfinite : x.isFinite = true ↔ x.toBits.toNat / twoPow 52 % twoPow 11 ≠ 2047 := by
    rw [hbits, ← exponentField_toNat, ← unpack_isFinite]
    rfl
  rw [Bool.eq_iff_iff, hfinite]
  unfold Exact.ofFloat?
  dsimp only
  split
  · next h => simp [h]
  · next h => split <;> simp [h]

/-- **A double has a whole part** if it is finite, and only then. -/
theorem trunc?_isSome (x : Float) : (trunc? x).isSome = x.isFinite := by
  rw [trunc?, Option.isSome_map, ofFloat?_isSome]

end GridSketch.Number
