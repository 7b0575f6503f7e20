import Mathlib
import Workflow.Comparison
import Workflow.Proofs.Comparison.Rounding

/-!
# Integers as floating-point numbers

The floating-point number nearest to an integer of 64 bits is the integer rounded to 53 significant
bits, and two such numbers are in the order of these integers.

A number is followed in the form in which numbers are compared: a mantissa of 53 bits and the power
of two that it is multiplied with. The rounding of the format drops bits of a mantissa one by one
and remembers how what was dropped compares with one half, which is what rounding a quotient asks
for.

## Main definitions

* `Workflow.Decimal.Holds` — a floating-point number is an integer.

## Main results

* `Workflow.Decimal.holds_nearest` — the number nearest to an integer.
* `Workflow.Decimal.Holds.order` — the order of numbers that are integers.
-/

namespace Workflow.Decimal

open Float.Model Float.Model.UnpackedFloat

variable {em : ExtendedMantissa} {n m k r d : Nat} {e : Int} {s : Sign}

/-! ### Dropping bits -/

/-- The two bits that are kept of what is dropped tell how a remainder compares with half of its
divisor. -/
def Residue (roundBit stickyBit : Bool) (r d : Nat) : Prop :=
  match roundBit, stickyBit with
  | false, false => r = 0
  | false, true => 0 < r ∧ 2 * r < d
  | true, false => 2 * r = d
  | true, true => d < 2 * r

theorem Residue.shift {roundBit stickyBit : Bool} (h : Residue roundBit stickyBit r d)
    (hr : r < d) {bit : Nat} (hbit : bit = 0 ∨ bit = 1) :
    Residue (bit != 0) (roundBit || stickyBit) (r + d * bit) (d * 2) := by
  rcases hbit with rfl | rfl <;> cases roundBit <;> cases stickyBit <;>
    simp [Residue] at h ⊢ <;> omega

/-- The mantissa is what is left of a natural without its last bits, and the residual bits tell what
was dropped. -/
structure Tells (em : ExtendedMantissa) (n k : Nat) : Prop where
  mantissa : em.mantissa = n / 2 ^ k
  residue : Residue em.roundBit em.stickyBit (n % 2 ^ k) (2 ^ k)

theorem tells_self (n : Nat) : Tells ⟨n, false, false⟩ n 0 :=
  ⟨(Nat.div_one n).symm, Nat.mod_one n⟩

theorem Tells.shiftRightOne (h : Tells em n k) : Tells em.shiftRightOne n (k + 1) where
  mantissa := by
    rw [ExtendedMantissa.shiftRightOne, h.mantissa, Nat.div_div_eq_div_mul, Nat.pow_succ]
  residue := by
    rw [ExtendedMantissa.shiftRightOne, h.mantissa, Nat.mod_pow_succ, Nat.pow_succ]
    exact h.residue.shift (Nat.mod_lt n (Nat.two_pow_pos k)) (Nat.mod_two_eq_zero_or_one _)

theorem tells_shiftRight (n k : Nat) :
    Tells ((⟨n, false, false⟩ : ExtendedMantissa) >>> k) n k := by
  induction k with
  | zero => exact tells_self n
  | succ k ih => exact ih.shiftRightOne

/-- A mantissa is rounded as the quotient that it is what is left of. -/
theorem Tells.roundedMantissa (h : Tells em n k) : em.roundedMantissa = halfEven n (2 ^ k) := by
  obtain ⟨mantissa, roundBit, stickyBit⟩ := em
  obtain ⟨rfl, hresidue⟩ := h
  have hpos : 0 < 2 ^ k := Nat.two_pow_pos k
  unfold halfEven
  cases roundBit <;> cases stickyBit <;> simp only [Residue] at hresidue
  · rw [if_pos (by omega)]
    rfl
  · rw [if_pos hresidue.2]
    rfl
  · rw [if_neg (by omega), if_neg (by omega)]
    rfl
  · rw [if_neg (by omega), if_pos hresidue]
    rfl

/-! ### Rounding -/

theorem targetExponent_eq (m : Nat) (e : Int) :
    Format.binary64.targetExponent (totalExponent m e) = max (m.log2 + e - 52) (-1074) := by
  change max ((m.log2 : Int) + 1 + e - (53 : Nat)) (-1074) = _
  omega

/-- A mantissa of at least 53 bits is shifted until it has 53. -/
theorem shiftToTargetExponent_eq (hlog : m.log2 = 52 + k) (he : -1074 ≤ e) :
    shiftToTargetExponent .binary64 m e .exact =
      ((⟨m, false, false⟩ : ExtendedMantissa) >>> k, e + k) := by
  have hshift : (Format.binary64.targetExponent (totalExponent m e) - e).toNat = k := by
    rw [targetExponent_eq]
    omega
  unfold shiftToTargetExponent shiftToExponent
  dsimp only
  rw [hshift]
  rfl

theorem le_halfEven_two_pow (hm : m ≠ 0) (hlog : m.log2 = 52 + k) :
    2 ^ 52 ≤ halfEven m (2 ^ k) := by
  refine Nat.le_trans ?_ (div_le_halfEven m (2 ^ k))
  rw [Nat.le_div_iff_mul_le (Nat.two_pow_pos k), ← Nat.pow_add, ← hlog]
  exact Nat.log2_self_le hm

theorem halfEven_two_pow_le (hlog : m.log2 = 52 + k) : halfEven m (2 ^ k) ≤ 2 ^ 53 := by
  refine Nat.le_trans (halfEven_le m (2 ^ k)) ?_
  rw [Nat.add_one_le_iff, Nat.div_lt_iff_lt_mul (Nat.two_pow_pos k), ← Nat.pow_add]
  calc m
    _ < 2 ^ (m.log2 + 1) := Nat.lt_log2_self
    _ = 2 ^ (53 + k) := by rw [hlog, Nat.add_right_comm]

/-- A mantissa is rounded to 53 bits. If that gives it one bit more, its last bit is dropped, which
is zero. -/
theorem exists_roundWithAccuracy (s : Sign) (hm : m ≠ 0) (hlog : m.log2 = 52 + k) (he : -1074 ≤ e) :
    ∃ m' i, ∃ hpos : 0 < m',
      roundWithAccuracy .binary64 s m e .exact = .finite s m' (e + k + (i : Nat)) hpos ∧
        2 ^ 52 ≤ m' ∧ m' < 2 ^ 53 ∧ i ≤ 1 ∧ m' * 2 ^ i = halfEven m (2 ^ k) := by
  have hlower := le_halfEven_two_pow hm hlog
  have hrounded := (tells_shiftRight m k).roundedMantissa
  unfold roundWithAccuracy
  rw [shiftToTargetExponent_eq hlog he]
  dsimp only
  rw [hrounded]
  rcases Nat.lt_or_eq_of_le (halfEven_two_pow_le hlog) with hlt | heq
  · have hlog' : (halfEven m (2 ^ k)).log2 = 52 + 0 :=
      (Nat.log2_eq_iff (by omega)).mpr ⟨hlower, hlt⟩
    rw [shiftToTargetExponent_eq hlog' (by omega)]
    have hne : halfEven m (2 ^ k) ≠ 0 := by omega
    exact ⟨halfEven m (2 ^ k), 0, Nat.pos_of_ne_zero hne, dif_neg hne, hlower, hlt, Nat.zero_le 1,
      Nat.mul_one _⟩
  · have hlog' : (2 ^ 53).log2 = 52 + 1 := Nat.log2_two_pow
    rw [heq, shiftToTargetExponent_eq hlog' (by omega)]
    exact ⟨2 ^ 52, 1, by decide, rfl, Nat.le_refl _, by decide, Nat.le_refl 1, by decide⟩

/-! ### Numbers that are integers -/

/-- A number is an integer, and has a mantissa of 53 bits unless it is zero. -/
inductive IsInteger : UnpackedFloat → Int → Prop
  | zero (s : Sign) : IsInteger (.zero s) 0
  | finite (s : Sign) {m k : Nat} {e z : Int} (hpos : 0 < m) (lower : 2 ^ 52 ≤ m)
      (upper : m < 2 ^ 53) (he : e + 52 = k) (hk : k ≤ 64)
      (hz : z * 2 ^ 52 = s.apply (m * 2 ^ k : Nat)) : IsInteger (.finite s m e hpos) z

theorem log2_mul_two_pow (hn : n ≠ 0) (j : Nat) : (n * 2 ^ j).log2 = n.log2 + j := by
  refine (Nat.log2_eq_iff (Nat.mul_ne_zero hn (Nat.two_pow_pos j).ne')).mpr ⟨?_, ?_⟩
  · rw [Nat.pow_add]
    exact Nat.mul_le_mul_right _ (Nat.log2_self_le hn)
  · rw [Nat.add_right_comm, Nat.pow_add]
    exact Nat.mul_lt_mul_of_pos_right Nat.lt_log2_self (Nat.two_pow_pos j)

/-- A natural of too few bits is multiplied before it is rounded, one of too many is not. -/
theorem halfEven_mul_two_pow (n : Nat) :
    halfEven (n * 2 ^ (52 - n.log2)) (2 ^ (n.log2 - 52)) *
        2 ^ (52 - (52 - n.log2) + (n.log2 - 52)) =
      roundedNat n * 2 ^ 52 := by
  unfold roundedNat grid
  rcases Nat.le_total n.log2 52 with hle | hle
  · rw [Nat.sub_eq_zero_of_le hle, Nat.pow_zero, halfEven_one, halfEven_one, Nat.mul_one,
      Nat.add_zero, Nat.mul_assoc, ← Nat.pow_add, Nat.add_sub_cancel' (Nat.sub_le 52 _)]
  · rw [Nat.sub_eq_zero_of_le hle, Nat.pow_zero, Nat.mul_one, Nat.sub_zero, Nat.mul_assoc,
      ← Nat.pow_add, Nat.add_comm 52]

theorem round_eq (s : Sign) (n : Nat) : UnpackedFloat.round .binary64 s n 0 =
    roundWithAccuracy .binary64 s (n * 2 ^ (52 - n.log2)) (-(52 - n.log2 : Nat)) .exact := by
  have hshift : (0 - Format.binary64.targetExponent (totalExponent n 0)).toNat = 52 - n.log2 := by
    rw [targetExponent_eq]
    omega
  unfold UnpackedFloat.round decreaseExponent
  dsimp only
  rw [hshift, Nat.shiftLeft_eq, Int.zero_sub]

theorem isInteger_round (hn : n ≠ 0) (hlt : n < 2 ^ 64) :
    IsInteger (UnpackedFloat.round .binary64 .positive n 0) (roundedNat n) := by
  have hlog : (n * 2 ^ (52 - n.log2)).log2 = 52 + (n.log2 - 52) := by
    rw [log2_mul_two_pow hn]
    omega
  have hlog' : n.log2 < 64 := (Nat.log2_lt hn).mpr hlt
  have hne := Nat.mul_ne_zero hn (Nat.two_pow_pos (52 - n.log2)).ne'
  obtain ⟨m, i, hpos, heq, lower, upper, hi, hm⟩ :=
    exists_roundWithAccuracy (e := -(52 - n.log2 : Nat)) .positive hne hlog (by omega)
  rw [round_eq, heq]
  refine .finite .positive hpos lower upper (k := i + (52 - (52 - n.log2) + (n.log2 - 52)))
    (by omega) (by omega) ?_
  rw [Nat.pow_add, ← Nat.mul_assoc, hm, halfEven_mul_two_pow]
  exact (Int.natCast_mul ..).symm

theorem isInteger_ofNat (h : n < 2 ^ 64) :
    IsInteger (UnpackedFloat.ofNat .binary64 n) (roundedNat n) := by
  unfold UnpackedFloat.ofNat UnpackedFloat.ofInt UnpackedFloat.normalize
  rcases Nat.eq_zero_or_pos n with rfl | hpos
  · exact .zero .positive
  · have hcompare : Ord.compare (n : Int) 0 = .gt := compare_gt_iff_gt.mpr (by omega)
    rw [hcompare]
    exact isInteger_round hpos.ne' h

theorem IsInteger.neg {x : UnpackedFloat} {z : Int} (h : IsInteger x z) : IsInteger x.neg (-z) := by
  cases h with
  | zero s => exact .zero _
  | finite s hpos lower upper he hk hz =>
    refine .finite (-s) hpos lower upper he hk ?_
    rw [Int.neg_mul, hz]
    cases s with
    | negative => exact Int.neg_neg _
    | positive => rfl

/-! ### Packing -/

/-- The leading bit of a mantissa of 53 bits is not stored. -/
theorem toNat_one_append (lower : 2 ^ 52 ≤ m) (upper : m < 2 ^ 53) :
    (1#1 ++ BitVec.ofNat 52 m).toNat = m := by
  rw [BitVec.toNat_append, ← Nat.shiftLeft_add_eq_or_of_lt (BitVec.ofNat 52 m).isLt,
    BitVec.toNat_ofNat, Nat.shiftLeft_eq]
  change 1 * 2 ^ 52 + m % 2 ^ 52 = m
  omega

theorem ofBitVec_unpackSign {spec : Format} (s : Sign) (e : BitVec spec.exponentBits)
    (m : BitVec spec.mantissaBitsWithoutImplicit) :
    Sign.ofBitVec (unpackSign (packComponents spec s e m)) = s := by
  have hsign : unpackSign (packComponents spec s e m) = s.toBitVec := by
    refine BitVec.eq_of_getLsbD_eq fun i hi => ?_
    obtain rfl : i = 0 := by omega
    simp [unpackSign, packComponents, BitVec.getLsbD_append, BitVec.getElem_append]
  rw [hsign]
  cases s <;> rfl

theorem finite_congr {m' : Nat} {e' : Int} {hpos : 0 < m} {hpos' : 0 < m'} (hm : m = m')
    (he : e = e') : UnpackedFloat.finite s m e hpos = .finite s m' e' hpos' := by
  subst hm he
  rfl

theorem unpack_pack_finite (s : Sign) (hpos : 0 < m) (lower : 2 ^ 52 ≤ m) (upper : m < 2 ^ 53)
    (he : e + 52 = k) (hk : k ≤ 64) :
    (Float.Model.pack (.finite s m e hpos)).unpack = .finite s m e hpos := by
  have hbias : (e + (1023 : Nat) + (52 : Nat)).toNat = k + 1023 := by omega
  have hlog : m.log2 = 52 := (Nat.log2_eq_iff hpos.ne').mpr ⟨lower, upper⟩
  have hpack : UnpackedFloat.pack .binary64 (.finite s m e hpos) =
      packComponents .binary64 s (BitVec.ofNat 11 (k + 1023)) (BitVec.ofNat 52 m) := by
    unfold UnpackedFloat.pack
    change (if 2 ^ 11 ≤ (e + (1023 : Nat) + (52 : Nat)).toNat + 1 then _ else
      if m.log2 + 1 = 53 then packComponents .binary64 s
        (BitVec.ofNat 11 (e + (1023 : Nat) + (52 : Nat)).toNat) (BitVec.ofNat 52 m) else _) = _
    rw [hbias, hlog, if_neg (by omega), if_pos rfl]
  have hexponent : (BitVec.ofNat 11 (k + 1023)).toNat = k + 1023 :=
    Nat.mod_eq_of_lt (by omega)
  have hinfinite : BitVec.ofNat 11 (k + 1023) ≠ -1#11 := fun h => by
    have htoNat := congrArg BitVec.toNat h
    rw [hexponent] at htoNat
    change k + 1023 = 2047 at htoNat
    omega
  have hzero : BitVec.ofNat 11 (k + 1023) ≠ 0#11 := fun h => by
    have htoNat := congrArg BitVec.toNat h
    rw [hexponent] at htoNat
    exact nomatch htoNat
  change UnpackedFloat.unpack .binary64 (UnpackedFloat.pack .binary64 (.finite s m e hpos)) = _
  rw [hpack]
  unfold UnpackedFloat.unpack
  simp only [unpackMantissa_packComponents, unpackExponent_packComponents, ofBitVec_unpackSign]
  rw [if_neg hinfinite, if_neg hzero]
  refine finite_congr (toNat_one_append lower upper) ?_
  rw [hexponent]
  change ((k + 1023 : Nat) : Int) - ((1023 : Nat) + (52 : Nat)) = e
  omega

theorem IsInteger.unpack_pack {x : UnpackedFloat} {z : Int} (h : IsInteger x z) :
    (Float.Model.pack x).unpack = x := by
  cases h with
  | zero s => cases s <;> rfl
  | finite s hpos lower upper he hk hz => exact unpack_pack_finite s hpos lower upper he hk

theorem IsInteger.pack {x : UnpackedFloat} {z : Int} (h : IsInteger x z) :
    IsInteger (Float.Model.pack x).unpack z := by
  rw [h.unpack_pack]
  exact h

/-! ### Comparing -/

theorem mul_two_pow_lt {m₁ m₂ k₁ k₂ : Nat} (upper : m₁ < 2 ^ 53) (lower : 2 ^ 52 ≤ m₂)
    (hk : k₁ < k₂) : m₁ * 2 ^ k₁ < m₂ * 2 ^ k₂ :=
  calc m₁ * 2 ^ k₁
    _ < 2 ^ 53 * 2 ^ k₁ := Nat.mul_lt_mul_of_pos_right upper (Nat.two_pow_pos k₁)
    _ = 2 ^ 52 * 2 ^ (k₁ + 1) := by rw [Nat.pow_succ 2 k₁]; omega
    _ ≤ m₂ * 2 ^ k₂ := Nat.mul_le_mul lower (Nat.pow_le_pow_right (by decide) hk)

/-- Numbers are compared by their exponents first, and by their mantissas if these are equal. -/
theorem compare_scaled {m₁ m₂ k₁ k₂ : Nat} {e₁ e₂ : Int} (lower₁ : 2 ^ 52 ≤ m₁)
    (upper₁ : m₁ < 2 ^ 53) (lower₂ : 2 ^ 52 ≤ m₂) (upper₂ : m₂ < 2 ^ 53) (he₁ : e₁ + 52 = k₁)
    (he₂ : e₂ + 52 = k₂) :
    (Ord.compare e₁ e₂).then (Ord.compare m₁ m₂) = Ord.compare (m₁ * 2 ^ k₁) (m₂ * 2 ^ k₂) := by
  rcases Nat.lt_trichotomy k₁ k₂ with hlt | rfl | hgt
  · rw [compare_lt_iff_lt.mpr (show e₁ < e₂ by omega),
      compare_lt_iff_lt.mpr (mul_two_pow_lt upper₁ lower₂ hlt)]
    rfl
  · rw [compare_eq_iff_eq.mpr (show e₁ = e₂ by omega)]
    have hpow := Nat.two_pow_pos k₁
    change Ord.compare m₁ m₂ = _
    rcases Nat.lt_trichotomy m₁ m₂ with hlt | rfl | hgt
    · rw [compare_lt_iff_lt.mpr hlt,
        compare_lt_iff_lt.mpr (Nat.mul_lt_mul_of_pos_right hlt hpow)]
    · rw [compare_eq_iff_eq.mpr rfl, compare_eq_iff_eq.mpr rfl]
    · rw [compare_gt_iff_gt.mpr hgt,
        compare_gt_iff_gt.mpr (Nat.mul_lt_mul_of_pos_right hgt hpow)]
  · rw [compare_gt_iff_gt.mpr (show e₁ > e₂ by omega),
      compare_gt_iff_gt.mpr (mul_two_pow_lt upper₂ lower₁ hgt)]
    rfl

/-- Two pairs that are in the same order compare alike. -/
theorem compare_congr {α β : Type} [LinearOrder α] [LinearOrder β] {a b : α} {c d : β}
    (hlt : a < b ↔ c < d) (hgt : b < a ↔ d < c) : Ord.compare a b = Ord.compare c d := by
  rcases lt_trichotomy a b with h | h | h
  · rw [compare_lt_iff_lt.mpr h, compare_lt_iff_lt.mpr (hlt.mp h)]
  · have heq : c = d :=
      le_antisymm (not_lt.mp (mt hgt.mpr h.not_gt)) (not_lt.mp (mt hlt.mpr h.not_lt))
    rw [compare_eq_iff_eq.mpr h, compare_eq_iff_eq.mpr heq]
  · rw [compare_gt_iff_gt.mpr h, compare_gt_iff_gt.mpr (hgt.mp h)]

theorem IsInteger.pos {hpos : 0 < m} {z : Int} (h : IsInteger (.finite .positive m e hpos) z) :
    0 < z := by
  obtain _ | @⟨_, _, k, _, _, _, _, _, _, _, hz⟩ := h
  have hscaled := Nat.mul_pos hpos (Nat.two_pow_pos k)
  simp only [Sign.apply] at hz
  omega

theorem IsInteger.lt_zero {hpos : 0 < m} {z : Int} (h : IsInteger (.finite .negative m e hpos) z) :
    z < 0 := Int.neg_pos.mp (IsInteger.pos h.neg)

theorem IsInteger.compare_positive {m₁ m₂ : Nat} {e₁ e₂ a b : Int} {h₁ : 0 < m₁} {h₂ : 0 < m₂}
    (ha : IsInteger (.finite .positive m₁ e₁ h₁) a)
    (hb : IsInteger (.finite .positive m₂ e₂ h₂) b) :
    (Ord.compare e₁ e₂).then (Ord.compare m₁ m₂) = Ord.compare a b := by
  obtain _ | @⟨_, _, k₁, _, _, _, lower₁, upper₁, he₁, _, hz₁⟩ := ha
  obtain _ | @⟨_, _, k₂, _, _, _, lower₂, upper₂, he₂, _, hz₂⟩ := hb
  rw [compare_scaled lower₁ upper₁ lower₂ upper₂ he₁ he₂]
  simp only [Sign.apply] at hz₁ hz₂
  refine compare_congr ?_ ?_ <;> omega

theorem IsInteger.compare_negative {m₁ m₂ : Nat} {e₁ e₂ a b : Int} {h₁ : 0 < m₁} {h₂ : 0 < m₂}
    (ha : IsInteger (.finite .negative m₁ e₁ h₁) a)
    (hb : IsInteger (.finite .negative m₂ e₂ h₂) b) :
    ((Ord.compare e₁ e₂).then (Ord.compare m₁ m₂)).swap = Ord.compare a b := by
  have hpositive := IsInteger.compare_positive ha.neg hb.neg
  calc ((Ord.compare e₁ e₂).then (Ord.compare m₁ m₂)).swap
    _ = (Ord.compare (-a) (-b)).swap := congrArg Ordering.swap hpositive
    _ = Ord.compare (-b) (-a) := Std.OrientedOrd.eq_swap.symm
    _ = Ord.compare a b := compare_congr (by omega) (by omega)

/-- Numbers that are integers compare as the integers. -/
theorem IsInteger.compare {x y : UnpackedFloat} {a b : Int} (hx : IsInteger x a)
    (hy : IsInteger y b) : x.compare y = some (Ord.compare a b) := by
  rcases x with s | - | s | ⟨_ | _, m, e, hm⟩
  · cases hx
  · cases hx
  · obtain ⟨⟩ := hx
    rcases y with s' | - | s' | ⟨_ | _, m', e', hm'⟩
    · cases hy
    · cases hy
    · obtain ⟨⟩ := hy
      rfl
    · exact congrArg some (compare_gt_iff_gt.mpr hy.lt_zero).symm
    · exact congrArg some (compare_lt_iff_lt.mpr hy.pos).symm
  · rcases y with s' | - | s' | ⟨_ | _, m', e', hm'⟩
    · cases hy
    · cases hy
    · obtain ⟨⟩ := hy
      exact congrArg some (compare_lt_iff_lt.mpr hx.lt_zero).symm
    · exact congrArg some (hx.compare_negative hy)
    · exact congrArg some (compare_lt_iff_lt.mpr (hx.lt_zero.trans hy.pos)).symm
  · rcases y with s' | - | s' | ⟨_ | _, m', e', hm'⟩
    · cases hy
    · cases hy
    · obtain ⟨⟩ := hy
      exact congrArg some (compare_gt_iff_gt.mpr hx.pos).symm
    · exact congrArg some (compare_gt_iff_gt.mpr (hy.lt_zero.trans hx.pos)).symm
    · exact congrArg some (hx.compare_positive hy)

/-! ### Floating-point numbers -/

/-- A floating-point number is an integer. -/
def Holds (x : Float) (z : Int) : Prop := IsInteger x.toModel.unpack z

variable {x y : Float} {a b : Int}

theorem holds_toFloat (n : UInt64) : Holds n.toFloat (roundedNat n.toNat) :=
  (isInteger_ofNat n.toNat_lt).pack

theorem Holds.neg (h : Holds x a) : Holds (-x) (-a) := (IsInteger.neg h).pack

/-- The number nearest to an integer is the integer rounded to 53 significant bits. -/
theorem holds_nearest (n : Int64) : Holds (nearest n) (rounded n.toInt) := by
  have hlt : n.toInt.natAbs < 2 ^ 64 := by
    have hlower := n.le_toInt
    have hupper := n.toInt_lt
    omega
  have h := holds_toFloat (UInt64.ofNat n.toInt.natAbs)
  rw [UInt64.toNat_ofNat', Nat.mod_eq_of_lt hlt] at h
  unfold nearest rounded
  dsimp only
  split
  · exact h.neg
  · exact h

theorem Holds.lt_iff (hx : Holds x a) (hy : Holds y b) : x < y ↔ a < b := by
  refine decide_eq_true_iff.trans ?_
  change ((x.toModel.unpack.compare y.toModel.unpack == some .lt) = true) ↔ a < b
  rw [IsInteger.compare hx hy, beq_iff_eq, Option.some_inj, compare_lt_iff_lt]

theorem Holds.beq_iff (hx : Holds x a) (hy : Holds y b) : (x == y) = true ↔ a = b := by
  change ((x.toModel.unpack.compare y.toModel.unpack == some .eq) = true) ↔ a = b
  rw [IsInteger.compare hx hy, beq_iff_eq, Option.some_inj, compare_eq_iff_eq]

/-- Numbers that are integers are in the order of the integers. -/
theorem Holds.order (hx : Holds x a) (hy : Holds y b) :
    Value.floatOrder? x y = some (Ord.compare a b) := by
  unfold Value.floatOrder?
  rcases lt_trichotomy a b with h | h | h
  · rw [if_pos ((hx.lt_iff hy).mpr h), compare_lt_iff_lt.mpr h]
  · rw [if_neg (mt (hx.lt_iff hy).mp h.not_lt), if_neg (mt (hy.lt_iff hx).mp h.not_gt),
      if_pos ((hx.beq_iff hy).mpr h), compare_eq_iff_eq.mpr h]
  · rw [if_neg (mt (hx.lt_iff hy).mp h.not_gt), if_pos ((hy.lt_iff hx).mpr h),
      compare_gt_iff_gt.mpr h]

end Workflow.Decimal
