import Reckoner.Proofs.Decimal.Exact

/-!
How large decimals are.

The order of decimals is that of the numbers, and the place of the leading digit gives the power
of ten below a number, whatever the scale.

* `Decimal.cmp_eq_compare`: the order of two decimals;
* `Decimal.toRat_abs`: the magnitude of a decimal;
* `Decimal.le_abs_toRat`, `Decimal.abs_toRat_lt`: the powers of ten around a number;
* `Decimal.leadingPlace_le_iff`: the numbers below a power of ten.
-/

namespace Reckoner.Decimal

variable {a b : Decimal}

/-! ### Order -/

lemma compare_mul_right {m n : ℤ} {p : ℚ} (hp : 0 < p) :
    compare (m * p) (n * p) = compare m n := by
  rcases lt_trichotomy m n with hlt | rfl | hgt
  · have hmul : (m : ℚ) * p < n * p := mul_lt_mul_of_pos_right (by exact_mod_cast hlt) hp
    rw [compare_lt_iff_lt.mpr hmul, compare_lt_iff_lt.mpr hlt]
  · rw [compare_eq_iff_eq.mpr rfl, compare_eq_iff_eq.mpr rfl]
  · have hmul : (n : ℚ) * p < m * p := mul_lt_mul_of_pos_right (by exact_mod_cast hgt) hp
    rw [compare_gt_iff_gt.mpr hmul, compare_gt_iff_gt.mpr hgt]

/-- **The order of decimals** is the order of the numbers, whatever the scales. -/
theorem cmp_eq_compare (a b : Decimal) : a.cmp b = compare a.toRat b.toRat := by
  have hpower : (0 : ℚ) < 10 ^ (-(commonScale a b).toInt) := by positivity
  rw [cmp_eq, cmpAligned, toRat_eq_unscaledAt (scale_le_commonScale_left a b),
    toRat_eq_unscaledAt (scale_le_commonScale_right a b), compare_mul_right hpower]

lemma toRat_abs (a : Decimal) : a.abs.toRat = |a.toRat| := by
  have hpower : (0 : ℚ) < 10 ^ (-a.scale.toInt) := by positivity
  rw [toRat, abs, toRat, abs_mul, abs_of_pos hpower, ← Int.cast_abs, Int.abs_eq_natAbs]

/-! ### The leading place -/

lemma abs_toRat (a : Decimal) : |a.toRat| = a.unscaled.natAbs * 10 ^ (-a.scale.toInt) := by
  rw [← toRat_abs, toRat, abs, Int.cast_natCast]

/-- A number is below the power of ten at its leading place. -/
lemma abs_toRat_lt (a : Decimal) : |a.toRat| < 10 ^ a.leadingPlace := by
  have hpower : (0 : ℚ) < 10 ^ (-a.scale.toInt) := by positivity
  have hdigits : (a.unscaled.natAbs : ℚ) < 10 ^ digitCount a.unscaled.natAbs := by
    exact_mod_cast lt_ten_pow_digitCount a.unscaled.natAbs
  calc |a.toRat| = a.unscaled.natAbs * 10 ^ (-a.scale.toInt) := abs_toRat a
    _ < 10 ^ digitCount a.unscaled.natAbs * 10 ^ (-a.scale.toInt) :=
        mul_lt_mul_of_pos_right hdigits hpower
    _ = 10 ^ a.leadingPlace := by
        rw [← zpow_natCast, ← zpow_add₀ (by norm_num), leadingPlace, sub_eq_add_neg]

/-- A number other than zero reaches the power of ten below its leading place. -/
lemma le_abs_toRat (h : a.unscaled ≠ 0) : 10 ^ (a.leadingPlace - 1) ≤ |a.toRat| := by
  have hcount := digitCount_pos a.unscaled.natAbs
  have hpower : (0 : ℚ) ≤ 10 ^ (-a.scale.toInt) := by positivity
  have hdigits : (10 : ℚ) ^ (digitCount a.unscaled.natAbs - 1) ≤ a.unscaled.natAbs := by
    exact_mod_cast ten_pow_le_of_lt_digitCount (by omega) (by omega)
  calc (10 : ℚ) ^ (a.leadingPlace - 1)
      = 10 ^ (digitCount a.unscaled.natAbs - 1) * 10 ^ (-a.scale.toInt) := by
        rw [← zpow_natCast, ← zpow_add₀ (by norm_num), leadingPlace]
        congr 1
        omega
    _ ≤ a.unscaled.natAbs * 10 ^ (-a.scale.toInt) := mul_le_mul_of_nonneg_right hdigits hpower
    _ = |a.toRat| := (abs_toRat a).symm

/-- A number other than zero is below a power of ten if its leading digit stands below it. -/
lemma leadingPlace_le_iff (h : a.unscaled ≠ 0) (k : ℤ) :
    a.leadingPlace ≤ k ↔ |a.toRat| < 10 ^ k := by
  constructor
  · intro hle
    exact (abs_toRat_lt a).trans_le (zpow_le_zpow_right₀ (by norm_num) hle)
  · intro hlt
    have hpower : (10 : ℚ) ^ (a.leadingPlace - 1) < 10 ^ k := (le_abs_toRat h).trans_lt hlt
    have := (zpow_lt_zpow_iff_right₀ (by norm_num)).mp hpower
    omega

end Reckoner.Decimal
