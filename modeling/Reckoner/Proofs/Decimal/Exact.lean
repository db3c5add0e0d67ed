import Reckoner.Decimal.Division
import Reckoner.Proofs.Decimal.Order

/-!
The numbers that decimals are.

Sums and differences of decimals are exact. Products are exact as long as the scales of the
factors add up to a scale; where they do not, the scale of the product wraps around.

* `Decimal.toRat`: the number that a decimal is;
* `Decimal.toRat_add`, `Decimal.toRat_sub`: sums and differences are exact;
* `Decimal.FittingFactors`, `Decimal.toRat_mul_iff`: when products are;
* `Decimal.ScaleRules`, `Decimal.scaleRules`: the scales of the results;
* `Decimal.scale_mul_nonneg_iff` and its kin: which scales are not negative.
-/

namespace Reckoner.Decimal

variable {a b : Decimal}

/-! ### Numbers -/

/-- The number that a decimal is. -/
def toRat (a : Decimal) : ℚ := a.unscaled * 10 ^ (-a.scale.toInt)

@[simp] lemma toRat_ofInt (n : ℤ) : (ofInt n).toRat = n := by
  rw [toRat, ofInt, Int64.toInt_zero, neg_zero, zpow_zero, mul_one]

/-- A decimal without places is a whole number. -/
lemma toRat_of_whole (h : a.scale.toInt ≤ 0) :
    a.toRat = (a.unscaled * 10 ^ (-a.scale.toInt).toNat : ℤ) := by
  have hpower : ((-a.scale.toInt).toNat : ℤ) = -a.scale.toInt := Int.toNat_of_nonneg (by omega)
  rw [toRat, ← hpower, zpow_natCast]
  push_cast
  rfl

lemma toRat_eq_zero : a.toRat = 0 ↔ a.unscaled = 0 := by
  have hten : (10 : ℚ) ^ (-a.scale.toInt) ≠ 0 := zpow_ne_zero _ (by norm_num)
  rw [toRat, mul_eq_zero_iff_right hten, Int.cast_eq_zero]

/-- A decimal may be written at any larger scale. -/
lemma toRat_eq_unscaledAt {s : Int64} (h : a.scale.toInt ≤ s.toInt) :
    a.toRat = a.unscaledAt s * 10 ^ (-s.toInt) := by
  have hplaces : ((s.toInt - a.scale.toInt).toNat : ℤ) = s.toInt - a.scale.toInt :=
    Int.toNat_of_nonneg (by omega)
  have hpower : (10 : ℚ) ^ (s.toInt - a.scale.toInt).toNat * 10 ^ (-s.toInt)
      = 10 ^ (-a.scale.toInt) := by
    rw [← zpow_natCast, hplaces, ← zpow_add₀ (by norm_num)]
    congr 1
    omega
  rw [unscaledAt_eq, toRat]
  push_cast
  rw [mul_assoc, hpower]

lemma toRat_neg (a : Decimal) : a.neg.toRat = -a.toRat := by
  simp [toRat, neg]

/-- A decimal is recognised as one if it is one, at one of the scales that are tried. -/
lemma isOne_iff : a.isOne = true ↔ a.toRat = 1 ∧ 0 ≤ a.scale.toInt ∧ a.scale.toInt ≤ 38 := by
  have hpower (h : 0 ≤ a.scale.toInt) :
      a.unscaled = 10 ^ a.scale.toInt.toNat ↔ a.toRat = 1 := by
    have hten : (10 : ℚ) ^ a.scale.toInt ≠ 0 := zpow_ne_zero _ (by norm_num)
    rw [toRat, zpow_neg, mul_inv_eq_one₀ hten, ← Int.toNat_of_nonneg h, zpow_natCast]
    norm_cast
  have hlimit : oneScaleLimit.toInt = 38 := rfl
  rw [isOne, Bool.and_eq_true, Bool.and_eq_true, decide_eq_true_iff, decide_eq_true_iff,
    beq_iff_eq, Int64.le_iff_toInt_le, Int64.le_iff_toInt_le, Int64.toInt_zero, hlimit,
    Int.pow_eq]
  constructor
  · rintro ⟨⟨h, hle⟩, hone⟩
    exact ⟨(hpower h).mp hone, h, hle⟩
  · rintro ⟨hone, h, hle⟩
    exact ⟨⟨h, hle⟩, (hpower h).mpr hone⟩

/-! ### Sums and differences -/

/-- The sum of two decimals is the sum of the numbers. -/
theorem toRat_add (a b : Decimal) : (a.add b).toRat = a.toRat + b.toRat := by
  rw [toRat_eq_unscaledAt (scale_le_commonScale_left a b),
    toRat_eq_unscaledAt (scale_le_commonScale_right a b), ← add_mul, ← Int.cast_add]
  rfl

/-- Their difference is the difference of the numbers, also where one of them is zero. -/
theorem toRat_sub (a b : Decimal) : (a.sub b).toRat = a.toRat - b.toRat := by
  unfold sub
  split
  · next hb => rw [toRat_eq_zero.mpr hb, sub_zero]
  · split
    · next ha => rw [toRat_eq_zero.mpr ha, zero_sub, toRat_neg]
    · rw [toRat_eq_unscaledAt (scale_le_commonScale_left a b),
        toRat_eq_unscaledAt (scale_le_commonScale_right a b), ← sub_mul, ← Int.cast_sub]
      rfl

/-! ### Products -/

/-- The scales of two decimals add up to a scale. -/
def ScalesAdd (a b : Decimal) : Prop :=
  -2 ^ 63 ≤ a.scale.toInt + b.scale.toInt ∧ a.scale.toInt + b.scale.toInt < 2 ^ 63

lemma toInt_scale_add_iff :
    (a.scale + b.scale).toInt = a.scale.toInt + b.scale.toInt ↔ a.ScalesAdd b := by
  have hlow := (a.scale + b.scale).le_toInt
  have hhigh := (a.scale + b.scale).toInt_lt
  constructor
  · intro h
    rw [h] at hlow hhigh
    exact ⟨hlow, hhigh⟩
  · rintro ⟨hle, hlt⟩
    rw [Int64.toInt_add]
    exact Int.bmod_eq_of_le (by omega) (by omega)

/-- Two factors whose product does not wrap around: one of them is recognised as one, or their
scales add up to a scale. -/
def FittingFactors (a b : Decimal) : Prop := a.isOne ∨ b.isOne ∨ a.ScalesAdd b

/-- Two factors whose product is exact: they fit, or one of them is zero. -/
def ExactFactors (a b : Decimal) : Prop :=
  a.unscaled = 0 ∨ b.unscaled = 0 ∨ a.FittingFactors b

/-- **Products are exact** for these factors and for no others. -/
theorem toRat_mul_iff : (a.mul b).toRat = a.toRat * b.toRat ↔ a.ExactFactors b := by
  rw [ExactFactors, FittingFactors, mul]
  split
  · next ha => simp [ha, (isOne_iff.mp ha).1]
  · next ha =>
    split
    · next hb => simp [hb, (isOne_iff.mp hb).1]
    · next hb =>
      have hscale : (10 : ℚ) ^ (-(a.scale + b.scale).toInt)
          = 10 ^ (-a.scale.toInt) * 10 ^ (-b.scale.toInt) ↔ a.ScalesAdd b := by
        rw [← zpow_add₀ (by norm_num), ← toInt_scale_add_iff,
          zpow_right_inj₀ (by norm_num) (by norm_num)]
        omega
      rw [toRat, toRat, toRat, mul_mul_mul_comm, ← Int.cast_mul, mul_eq_mul_left_iff, hscale,
        Int.cast_eq_zero, mul_eq_zero]
      simp [ha, hb]
      tauto

/-! ### Scales -/

/-- The magnitude of a scale. -/
def places (a : Decimal) : ℕ := a.scale.toInt.natAbs

/-- The scales of sums, differences and products. Zero and one are special. -/
structure ScaleRules (a b : Decimal) : Prop where
  add : (a.add b).scale.toInt = max a.scale.toInt b.scale.toInt
  sub_zero : b.toRat = 0 → a.sub b = a
  zero_sub : b.toRat ≠ 0 → a.toRat = 0 → a.sub b = b.neg
  sub : a.toRat ≠ 0 → b.toRat ≠ 0 → (a.sub b).scale.toInt = max a.scale.toInt b.scale.toInt
  isOne : a.isOne ↔ a.toRat = 1 ∧ 0 ≤ a.scale.toInt ∧ a.scale.toInt ≤ 38
  one_mul : a.isOne → a.mul b = b
  mul_one : b.isOne → ¬ a.isOne → a.mul b = a
  mul : ¬ a.isOne → ¬ b.isOne → a.ScalesAdd b →
    (a.mul b).scale.toInt = a.scale.toInt + b.scale.toInt

lemma toInt_commonScale (a b : Decimal) :
    (commonScale a b).toInt = max a.scale.toInt b.scale.toInt := by
  unfold commonScale
  split
  · next h =>
    rw [Int64.lt_iff_toInt_lt] at h
    omega
  · next h =>
    rw [Int64.lt_iff_toInt_lt] at h
    omega

lemma scaleRules (a b : Decimal) : ScaleRules a b where
  add := toInt_commonScale a b
  sub_zero hb := by rw [Decimal.sub, if_pos (toRat_eq_zero.mp hb)]
  zero_sub hb ha := by
    rw [Decimal.sub, if_neg (mt toRat_eq_zero.mpr hb), if_pos (toRat_eq_zero.mp ha)]
  sub ha hb := by
    rw [Decimal.sub, if_neg (mt toRat_eq_zero.mpr hb), if_neg (mt toRat_eq_zero.mpr ha)]
    exact toInt_commonScale a b
  isOne := isOne_iff
  one_mul ha := by rw [Decimal.mul, if_pos ha]
  mul_one hb ha := by rw [Decimal.mul, if_neg ha, if_pos hb]
  mul ha hb hscales := by
    rw [Decimal.mul, if_neg ha, if_neg hb]
    exact toInt_scale_add_iff.mpr hscales

/-! ### Scales that are not negative -/

section

variable (ha : 0 ≤ a.scale.toInt) (hb : 0 ≤ b.scale.toInt)

include ha hb

lemma scale_add_nonneg : 0 ≤ (a.add b).scale.toInt := by
  have hscale := (scaleRules a b).add
  omega

lemma scale_sub_nonneg : 0 ≤ (a.sub b).scale.toInt := by
  have hscale := toInt_commonScale a b
  unfold sub
  split
  · exact ha
  · split
    · exact hb
    · show 0 ≤ (commonScale a b).toInt
      omega

/-- The scale of a product is negative where it wraps around, and nowhere else. -/
lemma scale_mul_nonneg_iff : 0 ≤ (a.mul b).scale.toInt ↔ a.FittingFactors b := by
  rw [FittingFactors, mul]
  split
  · next h => simpa [h] using hb
  · next h =>
    split
    · next h' => simpa [h'] using ha
    · next h' =>
      have halt := a.scale.toInt_lt
      have hblt := b.scale.toInt_lt
      have hwrapped : 0 ≤ (a.scale + b.scale).toInt ↔ a.ScalesAdd b := by
        rw [← toInt_scale_add_iff, Int64.toInt_add, Int.bmod_def]
        split <;> omega
      simpa [h, h'] using hwrapped

end

/-- Quotients are trimmed, which leaves no negative scale. -/
lemma scale_div_nonneg (a b : Decimal) (precision : UInt64) :
    0 ≤ (a.div b precision).scale.toInt := by
  have htrimmed (c : Decimal) : 0 ≤ c.trimmed.scale.toInt := by
    simp only [trimmed]
    split
    · exact Int.le_refl 0
    · next h =>
      rw [Int64.lt_iff_toInt_lt, Int64.toInt_zero] at h
      omega
  exact htrimmed _

end Reckoner.Decimal
