import Mathlib.Algebra.Group.Int.Defs
import Mathlib.Algebra.Group.Nat.Defs
import Mathlib.Tactic.SplitIfs
import Workflow.Decimal.Reading

/-!
# Integers with 53 significant bits

An integer that is taken as a floating-point number keeps 53 significant bits. It becomes the
nearest multiple of a power of two, and of two that are equally near the one whose quotient is even.
Integers with no more bits than these stay as they are, and the order of two integers is never
turned round, but distinct integers may become one.

## Main definitions

* `Workflow.Decimal.halfEven` — a quotient rounded to nearest.
* `Workflow.Decimal.rounded` — an integer rounded to 53 significant bits.

## Main results

* `Workflow.Decimal.rounded_mono` — rounding keeps the order of integers.
* `Workflow.Decimal.rounded_of_natAbs_le` — integers that are not rounded.
* `Workflow.Decimal.two_mul_natAbs_rounded_sub_le` — how far rounding goes.
-/

namespace Workflow.Decimal

/-! ### Quotients -/

/-- The quotient of two naturals rounded to nearest; of two that are equally near the even one. -/
def halfEven (n d : Nat) : Nat :=
  if 2 * (n % d) < d then n / d else if d < 2 * (n % d) then n / d + 1 else n / d + n / d % 2

variable {n d a b : Nat}

theorem div_le_halfEven (n d : Nat) : n / d ≤ halfEven n d := by
  unfold halfEven
  split
  · exact Nat.le_refl _
  · split
    · exact Nat.le_succ _
    · exact Nat.le_add_right _ _

theorem halfEven_le (n d : Nat) : halfEven n d ≤ n / d + 1 := by
  unfold halfEven
  split
  · exact Nat.le_succ _
  · split
    · exact Nat.le_refl _
    · omega

@[simp]
theorem halfEven_mul (k : Nat) (h : 0 < d) : halfEven (k * d) d = k := by
  rw [halfEven, Nat.mul_mod_left, if_pos h, Nat.mul_div_cancel k h]

@[simp]
theorem halfEven_one (n : Nat) : halfEven n 1 = n := by
  have h := halfEven_mul n Nat.one_pos
  rwa [Nat.mul_one] at h

theorem halfEven_mono (hle : a ≤ b) : halfEven a d ≤ halfEven b d := by
  rcases Nat.lt_or_eq_of_le (Nat.div_le_div_right (c := d) hle) with hlt | heq
  · calc halfEven a d
      _ ≤ a / d + 1 := halfEven_le a d
      _ ≤ b / d := hlt
      _ ≤ halfEven b d := div_le_halfEven b d
  · have hmod : a % d ≤ b % d := by
      have ha := Nat.div_add_mod a d
      have hb := Nat.div_add_mod b d
      rw [heq] at ha
      omega
    unfold halfEven
    rw [heq]
    split_ifs <;> omega

/-- Rounding moves by half of the divisor at most. -/
theorem two_mul_halfEven_mul (h : 0 < d) :
    2 * (halfEven n d * d) ≤ 2 * n + d ∧ 2 * n ≤ 2 * (halfEven n d * d) + d := by
  have hdiv := Nat.div_add_mod' n d
  have hmod := Nat.mod_lt n h
  unfold halfEven
  split_ifs
  · omega
  · rw [Nat.add_mul]
    omega
  · rcases Nat.mod_two_eq_zero_or_one (n / d) with h2 | h2 <;> rw [h2, Nat.add_mul] <;> omega

/-! ### Naturals -/

/-- The distance between the numbers with 53 significant bits that are next to a natural. -/
def grid (n : Nat) : Nat := 2 ^ (n.log2 - 52)

/-- A natural rounded to 53 significant bits. -/
def roundedNat (n : Nat) : Nat := halfEven n (grid n) * grid n

theorem grid_pos (n : Nat) : 0 < grid n := Nat.two_pow_pos _

theorem exists_mul_grid {k : Nat} (h : n.log2 ≤ k) : ∃ q, q * grid n = 2 ^ k :=
  ⟨2 ^ (k - (n.log2 - 52)), by rw [grid, ← Nat.pow_add, Nat.sub_add_cancel (by omega)]⟩

theorem two_pow_le_roundedNat (h : n ≠ 0) : 2 ^ n.log2 ≤ roundedNat n := by
  obtain ⟨q, hq⟩ := exists_mul_grid (Nat.le_refl n.log2)
  rw [roundedNat, ← hq]
  refine Nat.mul_le_mul_right _ ?_
  calc q
    _ = halfEven (q * grid n) (grid n) := (halfEven_mul q (grid_pos n)).symm
    _ ≤ halfEven n (grid n) := halfEven_mono (hq ▸ Nat.log2_self_le h)

theorem roundedNat_le_two_pow (n : Nat) : roundedNat n ≤ 2 ^ (n.log2 + 1) := by
  obtain ⟨q, hq⟩ := exists_mul_grid (Nat.le_succ n.log2)
  rw [roundedNat, ← hq]
  refine Nat.mul_le_mul_right _ ?_
  calc halfEven n (grid n)
    _ ≤ halfEven (q * grid n) (grid n) := halfEven_mono (hq ▸ Nat.le_of_lt Nat.lt_log2_self)
    _ = q := halfEven_mul q (grid_pos n)

/-- Naturals between the same powers of two are rounded to multiples of the same number; a power of
two that lies between two naturals lies between what they are rounded to. -/
theorem roundedNat_mono (hle : a ≤ b) : roundedNat a ≤ roundedNat b := by
  rcases Nat.lt_trichotomy a.log2 b.log2 with hlt | heq | hgt
  · have hb : b ≠ 0 := by
      rintro rfl
      exact Nat.not_lt_zero _ hlt
    calc roundedNat a
      _ ≤ 2 ^ (a.log2 + 1) := roundedNat_le_two_pow a
      _ ≤ 2 ^ b.log2 := Nat.pow_le_pow_right (by decide) hlt
      _ ≤ roundedNat b := two_pow_le_roundedNat hb
  · have hgrid : grid a = grid b := by rw [grid, heq, grid]
    rw [roundedNat, roundedNat, hgrid]
    exact Nat.mul_le_mul_right _ (halfEven_mono hle)
  · have ha : a ≠ 0 := by
      rintro rfl
      exact Nat.not_lt_zero _ hgt
    have hab : b < a := by
      calc b
        _ < 2 ^ (b.log2 + 1) := Nat.lt_log2_self
        _ ≤ 2 ^ a.log2 := Nat.pow_le_pow_right (by decide) hgt
        _ ≤ a := Nat.log2_self_le ha
    omega

theorem roundedNat_of_le (h : n ≤ 2 ^ 53) : roundedNat n = n := by
  rcases Nat.lt_or_eq_of_le h with hlt | rfl
  · have hlog : n.log2 ≤ 52 := by
      rcases Nat.eq_zero_or_pos n with rfl | hpos
      · decide
      · exact Nat.le_of_lt_succ ((Nat.log2_lt (by omega)).mpr hlt)
    have hgrid : grid n = 1 := by rw [grid, Nat.sub_eq_zero_of_le hlog, Nat.pow_zero]
    rw [roundedNat, hgrid, halfEven_one, Nat.mul_one]
  · decide

/-! ### Integers -/

/-- An integer rounded to 53 significant bits, to nearest. -/
def rounded (z : Int) : Int := if z < 0 then -roundedNat z.natAbs else roundedNat z.natAbs

/-- Rounding keeps the order of integers, if not strictly. -/
theorem rounded_mono {y z : Int} (h : y ≤ z) : rounded y ≤ rounded z := by
  unfold rounded
  split_ifs with hy hz hz
  · have hmono := roundedNat_mono (show z.natAbs ≤ y.natAbs by omega)
    omega
  · omega
  · omega
  · have hmono := roundedNat_mono (show y.natAbs ≤ z.natAbs by omega)
    omega

/-- An integer of no more than 53 bits, or two to the power of 53, is not rounded. -/
theorem rounded_of_natAbs_le {z : Int} (h : z.natAbs ≤ 2 ^ 53) : rounded z = z := by
  unfold rounded
  rw [roundedNat_of_le h]
  split_ifs <;> omega

/-- Rounding moves by half of the distance between the numbers around an integer at most. -/
theorem two_mul_natAbs_rounded_sub_le (z : Int) :
    2 * (rounded z - z).natAbs ≤ grid z.natAbs := by
  obtain ⟨hle, hge⟩ := two_mul_halfEven_mul (n := z.natAbs) (grid_pos z.natAbs)
  change 2 * roundedNat z.natAbs ≤ _ at hle
  change _ ≤ 2 * roundedNat z.natAbs + _ at hge
  unfold rounded
  split_ifs <;> omega

/-- Rounding moves an integer of 64 bits by 512 at most. -/
theorem natAbs_rounded_sub_le {z : Int} (h : z.natAbs ≤ 2 ^ 63) : (rounded z - z).natAbs ≤ 512 := by
  rcases Nat.lt_or_eq_of_le h with hlt | heq
  · have hgrid : grid z.natAbs ≤ 2 ^ 10 := by
      refine Nat.pow_le_pow_right (by decide) ?_
      rcases Nat.eq_zero_or_pos z.natAbs with hzero | hpos
      · rw [hzero]
        decide
      · have hlog := (Nat.log2_lt (by omega)).mpr hlt
        omega
    have hmove := two_mul_natAbs_rounded_sub_le z
    omega
  · have hself : roundedNat (2 ^ 63) = 2 ^ 63 := by decide +kernel
    unfold rounded
    rw [heq, hself]
    split_ifs <;> omega

/-- Distinct integers that are rounded to the same one have more than 53 bits, or are two to the
power of 53. -/
theorem two_pow_le_natAbs {y z : Int} (hne : y ≠ z) (h : rounded y = rounded z) :
    2 ^ 53 ≤ y.natAbs := by
  refine Nat.le_of_not_lt fun hlt => ?_
  have hy := rounded_of_natAbs_le (z := y) (by omega)
  rcases Nat.lt_or_ge (2 ^ 53) z.natAbs with hz | hz
  · have hpower : rounded (2 ^ 53) = 2 ^ 53 := rounded_of_natAbs_le (by decide)
    have hpower' : rounded (-2 ^ 53) = -2 ^ 53 := rounded_of_natAbs_le (by decide)
    rcases Int.le_total 0 z with hnonneg | hneg
    · have hmono := rounded_mono (show 2 ^ 53 ≤ z by omega)
      omega
    · have hmono := rounded_mono (show z ≤ -2 ^ 53 by omega)
      omega
  · exact hne (hy.symm.trans (h.trans (rounded_of_natAbs_le hz)))

end Workflow.Decimal
