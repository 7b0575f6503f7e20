import Mathlib.Algebra.Group.Int.Defs
import Mathlib.Algebra.Group.Nat.Defs
import Mathlib.Data.Nat.Log

/-!
# Large integers as floating-point numbers

An unsigned integer of 64 bits that is too large for a signed one is read as the nearest
floating-point number. That number is finite, so it can be written again.

The sizes are followed through the rounding of the format with 52 stored bits of a mantissa and 11
bits of an exponent: rounding never lengthens a mantissa by more than one, so the exponent stays far
below the one that stands for infinity.

## Main results

* `Workflow.isFinite_ofNat` — the number nearest to an unsigned integer of 64 bits is finite.
-/

namespace Workflow

open Float.Model Float.Model.UnpackedFloat

/-! ### Packing -/

/-- A number is finite unless its exponent has all bits set. -/
private theorem isFinite_unpack {bits : BitVec Format.binary64.numBits}
    (h : unpackExponent bits ≠ -1#_) :
    (UnpackedFloat.unpack .binary64 bits).isFinite = true := by
  unfold UnpackedFloat.unpack
  dsimp only
  rw [if_neg h]
  by_cases he : unpackExponent bits = 0#_
  · rw [if_pos he]
    by_cases hm : unpackMantissa bits = 0#_
    · rw [dif_pos hm]
      rfl
    · rw [dif_neg hm]
      rfl
  · rw [if_neg he]
    rfl

private theorem isFinite_packComponents (s : Sign) {e : BitVec 11} (m : BitVec 52)
    (he : e ≠ -1#_) :
    (UnpackedFloat.unpack .binary64 (packComponents .binary64 s e m)).isFinite = true := by
  refine isFinite_unpack ?_
  rw [unpackExponent_packComponents]
  exact he

private theorem isFinite_pack_zero (s : Sign) : (Float.Model.pack (.zero s)).isFinite = true :=
  isFinite_packComponents s 0 (by decide)

private theorem isFinite_pack_finite (s : Sign) {m : Nat} {e : Int} (hm : 0 < m) (he : e ≤ 970) :
    (Float.Model.pack (.finite s m e hm)).isFinite = true := by
  have hbias : Format.binary64.exponentBias = 1023 := rfl
  have hb : ¬ 2 ^ 11 ≤ (e + Format.binary64.exponentBias + (52 : Nat)).toNat + 1 := by omega
  change (UnpackedFloat.unpack .binary64
    (UnpackedFloat.pack .binary64 (.finite s m e hm))).isFinite = true
  unfold UnpackedFloat.pack
  dsimp only
  rw [if_neg hb]
  split
  · refine isFinite_packComponents s _ ?_
    intro h
    have hones : (-1#11).toNat = 2047 := by decide
    have hbits := congrArg BitVec.toNat h
    rw [BitVec.toNat_ofNat, Nat.mod_eq_of_lt (by omega), hones] at hbits
    omega
  · exact isFinite_packComponents s _ (by decide)

private theorem isFinite_pack_of_le (s : Sign) {m : Nat} {e : Int} (he : e ≤ 970) :
    (Float.Model.pack (if h : m = 0 then .zero s else
      .finite s m e (Nat.pos_of_ne_zero h))).isFinite = true := by
  by_cases hm : m = 0
  · rw [dif_pos hm]
    exact isFinite_pack_zero s
  · rw [dif_neg hm]
    exact isFinite_pack_finite s _ he

/-! ### Rounding -/

private theorem mantissa_repeat_le (n : Nat) (em : ExtendedMantissa) :
    (n.repeat ExtendedMantissa.shiftRightOne em).mantissa ≤ em.mantissa := by
  induction n with
  | zero => exact Nat.le_refl _
  | succ n ih => exact (Nat.div_le_self _ 2).trans ih

private theorem roundedMantissa_le (em : ExtendedMantissa) :
    em.roundedMantissa ≤ em.mantissa + 1 := by
  unfold ExtendedMantissa.roundedMantissa Accuracy.roundToNearestEven
  split <;> omega

private theorem mantissa_shiftToTargetExponent_le (m : Nat) (e : Int) (a : Accuracy) :
    (shiftToTargetExponent .binary64 m e a).1.mantissa ≤ m := by
  have hstart : (ExtendedMantissa.ofMantissaAndAccuracy m a).mantissa = m := by
    unfold ExtendedMantissa.ofMantissaAndAccuracy
    split <;> rfl
  have hshift := mantissa_repeat_le
    (Format.binary64.targetExponent (totalExponent m e) - e).toNat
    (ExtendedMantissa.ofMantissaAndAccuracy m a)
  rwa [hstart] at hshift

/-- The exponent that a mantissa is shifted to is its own, or makes its bits fit. -/
private theorem exponent_shiftToTargetExponent_le {k m : Nat} {e b : Int} (a : Accuracy)
    (hk : 0 < k) (hm : m < 2 ^ k) (he : e ≤ b) (hb : -1074 ≤ b) (h : k + e - 53 ≤ b) :
    (shiftToTargetExponent .binary64 m e a).2 ≤ b := by
  have hlog : m.log2 < k := by
    rcases Nat.eq_zero_or_pos m with rfl | hpos
    · exact hk
    · exact (Nat.log2_lt (by omega)).mpr hm
  change e + ((max ((m.log2 : Int) + 1 + e - (53 : Nat)) (-1074) - e).toNat : Int) ≤ b
  omega

private theorem isFinite_pack_roundWithAccuracy {k m : Nat} {e b : Int} (s : Sign) (a : Accuracy)
    (hk : 0 < k) (hm : m < 2 ^ k) (he : e ≤ b) (hb : -1074 ≤ b) (h : k + e - 53 ≤ b)
    (hkb : k + b ≤ 970) :
    (Float.Model.pack (roundWithAccuracy .binary64 s m e a)).isFinite = true := by
  have hexponent := exponent_shiftToTargetExponent_le a hk hm he hb h
  have hrounded : (shiftToTargetExponent .binary64 m e a).1.roundedMantissa < 2 ^ (k + 1) := by
    have hup := roundedMantissa_le (shiftToTargetExponent .binary64 m e a).1
    have hdown := mantissa_shiftToTargetExponent_le m e a
    have hpow := Nat.pow_succ 2 k
    omega
  have hfinal := exponent_shiftToTargetExponent_le (b := 970) .exact (Nat.succ_pos k) hrounded
    (hexponent.trans (by omega)) (by decide) (by omega)
  unfold roundWithAccuracy
  exact isFinite_pack_of_le s hfinal

/-- The number nearest to an unsigned integer of 64 bits beyond the signed ones is finite. -/
theorem isFinite_ofNat {n : Nat} (h : 2 ^ 63 ≤ n) (h' : n < 2 ^ 64) :
    (Float.ofNat n).isFinite = true := by
  have hslow : ¬ (n < 2 ^ 53 ∧ 0 ≤ 22) := by omega
  have hzero : n ≠ 0 := by omega
  have hsmall : ¬ (0 : Int) < -((2 ^ Format.binary64.exponentBits : Int) + n.log2) := by
    have hpow : (0 : Int) ≤ 2 ^ Format.binary64.exponentBits := by decide
    omega
  have hshift : n <<< 53 * 10 ^ 0 < 2 ^ 117 := by
    rw [Nat.shiftLeft_eq]
    omega
  have hround := isFinite_pack_roundWithAccuracy (e := -53) (b := 11) .positive .exact (by decide)
    hshift (by decide) (by decide) (by decide) (by decide)
  change (Float.ofScientific n false 0).isFinite = true
  unfold Float.ofScientific
  rw [dif_neg hslow]
  change (Float.Model.pack (UnpackedFloat.ofScientific .binary64 n 0)).isFinite = true
  unfold UnpackedFloat.ofScientific
  rw [dif_neg hzero, if_neg (by decide), if_neg hsmall, if_pos (Int.le_refl 0)]
  exact hround

end Workflow
