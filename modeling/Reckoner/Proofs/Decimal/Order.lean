import Reckoner.Decimal.Basic
import Reckoner.Proofs.Decimal.Digits

/-!
The order of decimals.

* `Decimal.unscaledAt_eq`: the unscaled integer at a larger scale;
* `Decimal.natAbs_lt_of_leadingPlace_lt`: what the places of the leading digits decide;
* `Decimal.cmp_eq`: the order of two decimals is that of their unscaled integers at the
  larger scale.
-/

namespace Reckoner.Decimal

lemma unscaledAt_eq (a : Decimal) (s : Int64) :
    a.unscaledAt s = a.unscaled * 10 ^ (s.toInt - a.scale.toInt).toNat := by
  unfold unscaledAt
  split
  · next h => rw [h, Int.zero_mul]
  · rw [Int.pow_eq]

lemma scale_le_commonScale_left (a b : Decimal) :
    a.scale.toInt ≤ (commonScale a b).toInt := by
  unfold commonScale
  split
  · next h => exact Int.le_of_lt (Int64.lt_iff_toInt_lt.1 h)
  · exact Int.le_refl _

lemma scale_le_commonScale_right (a b : Decimal) :
    b.scale.toInt ≤ (commonScale a b).toInt := by
  unfold commonScale
  split
  · exact Int.le_refl _
  · next h =>
    rw [Int64.lt_iff_toInt_lt] at h
    omega

lemma natAbs_unscaledAt (a : Decimal) (s : Int64) :
    (a.unscaledAt s).natAbs =
      a.unscaled.natAbs * 10 ^ (s.toInt - a.scale.toInt).toNat := by
  rw [unscaledAt_eq, Int.natAbs_mul, Int.natAbs_pow]
  rfl

lemma sign_unscaledAt (a : Decimal) (s : Int64) :
    (a.unscaledAt s).sign = a.unscaled.sign := by
  have h : (0 : Int) < 10 ^ (s.toInt - a.scale.toInt).toNat :=
    Int.pow_pos (by decide)
  rw [unscaledAt_eq, Int.sign_mul, Int.sign_eq_one_of_pos h, Int.mul_one]

/-- At a common scale, the number whose leading digit stands further left has
the larger magnitude. -/
lemma natAbs_lt_of_leadingPlace_lt {a b : Decimal} {s : Int64}
    (ha : a.scale.toInt ≤ s.toInt) (hb : b.scale.toInt ≤ s.toInt)
    (hb₀ : b.unscaled ≠ 0) (h : a.leadingPlace < b.leadingPlace) :
    (a.unscaledAt s).natAbs < (b.unscaledAt s).natAbs := by
  have hn := digitCount_pos b.unscaled.natAbs
  have hlow : 10 ^ (digitCount b.unscaled.natAbs - 1) ≤ b.unscaled.natAbs :=
    ten_pow_le_of_lt_digitCount (by omega) (by omega)
  have hhigh := lt_ten_pow_digitCount a.unscaled.natAbs
  unfold leadingPlace at h
  rw [natAbs_unscaledAt, natAbs_unscaledAt]
  calc a.unscaled.natAbs * 10 ^ (s.toInt - a.scale.toInt).toNat
      < 10 ^ digitCount a.unscaled.natAbs *
          10 ^ (s.toInt - a.scale.toInt).toNat :=
        Nat.mul_lt_mul_of_pos_right hhigh (Nat.pow_pos (by decide))
    _ = 10 ^ (digitCount a.unscaled.natAbs + (s.toInt - a.scale.toInt).toNat) :=
        (Nat.pow_add ..).symm
    _ ≤ 10 ^ (digitCount b.unscaled.natAbs - 1 +
          (s.toInt - b.scale.toInt).toNat) :=
        Nat.pow_le_pow_right (by decide) (by omega)
    _ = 10 ^ (digitCount b.unscaled.natAbs - 1) *
          10 ^ (s.toInt - b.scale.toInt).toNat := Nat.pow_add ..
    _ ≤ b.unscaled.natAbs * 10 ^ (s.toInt - b.scale.toInt).toNat :=
        Nat.mul_le_mul_right _ hlow

lemma sign_le_sign {m n : Int} (h : m ≤ n) : m.sign ≤ n.sign := by
  rcases Int.lt_trichotomy m 0 with hm | rfl | hm
  · rw [Int.sign_eq_neg_one_of_neg hm]
    rcases Int.lt_trichotomy n 0 with hn | rfl | hn
    · exact Int.le_of_eq (Int.sign_eq_neg_one_of_neg hn).symm
    · decide
    · rw [Int.sign_eq_one_of_pos hn]
      decide
  · rw [Int.sign_zero]
    exact Int.sign_nonneg_iff.2 h
  · exact Int.le_of_eq
      ((Int.sign_eq_one_of_pos hm).trans (Int.sign_eq_one_of_pos (by omega)).symm)

/-- Numbers of different signs, and zero and any number, are ordered as their
signs are. -/
lemma compare_sign {m n : Int} (h : m = 0 ∨ m.sign ≠ n.sign) :
    compare m.sign n.sign = compare m n := by
  rcases Int.lt_trichotomy m n with hmn | rfl | hmn
  · have hle := sign_le_sign (Int.le_of_lt hmn)
    have hne : m.sign ≠ n.sign := by
      rcases h with rfl | h
      · rw [Int.sign_eq_one_of_pos hmn]
        decide
      · exact h
    rw [Int.compare_eq_lt.2 hmn, Int.compare_eq_lt]
    omega
  · simp
  · have hle := sign_le_sign (Int.le_of_lt hmn)
    have hne : m.sign ≠ n.sign := by
      rcases h with rfl | h
      · rw [Int.sign_eq_neg_one_of_neg hmn]
        decide
      · exact h
    rw [Int.compare_eq_gt.2 hmn, Int.compare_eq_gt]
    omega

/-- **The order of two numbers** is the order of their unscaled integers at the larger
scale. -/
theorem cmp_eq (a b : Decimal) : a.cmp b = a.cmpAligned b := by
  have ha := scale_le_commonScale_left a b
  have hb := scale_le_commonScale_right a b
  have hsa := sign_unscaledAt a (commonScale a b)
  have hsb := sign_unscaledAt b (commonScale a b)
  unfold cmp
  split
  · next h =>
    have h₀ : a.unscaledAt (commonScale a b) = 0 ∨
        (a.unscaledAt (commonScale a b)).sign ≠
          (b.unscaledAt (commonScale a b)).sign := by
      rw [hsa, hsb]
      exact h.imp_left fun h => by rw [unscaledAt, if_pos h]
    rw [← hsa, ← hsb]
    exact compare_sign h₀
  · next h =>
    have hpa : 0 < a.unscaled ↔ 0 < a.unscaledAt (commonScale a b) := by
      rw [← Int.sign_eq_one_iff_pos, ← Int.sign_eq_one_iff_pos, hsa]
    have hpb : 0 < b.unscaled ↔ 0 < b.unscaledAt (commonScale a b) := by
      rw [← Int.sign_eq_one_iff_pos, ← Int.sign_eq_one_iff_pos, hsb]
    have hab : 0 < a.unscaled ↔ 0 < b.unscaled := by
      rw [← Int.sign_eq_one_iff_pos, ← Int.sign_eq_one_iff_pos]
      have : a.unscaled.sign = b.unscaled.sign := by
        simpa using fun h' => h (.inr h')
      rw [this]
    have ha₀ : a.unscaled ≠ 0 := fun h' => h (.inl h')
    have hb₀ : b.unscaled ≠ 0 := by
      intro h'
      rw [h', Int.sign_zero] at h
      exact h (.inr (by simpa using ha₀))
    unfold cmpAligned
    split
    · rfl
    · next hne =>
      rcases Int.lt_or_gt_of_ne hne with hlt | hlt
      · have := natAbs_lt_of_leadingPlace_lt ha hb hb₀ hlt
        split
        · rw [Int.compare_eq_lt.2 hlt, eq_comm, Int.compare_eq_lt]
          omega
        · rw [Int.compare_eq_gt.2 hlt, eq_comm, Int.compare_eq_gt]
          omega
      · have := natAbs_lt_of_leadingPlace_lt hb ha ha₀ hlt
        split
        · rw [Int.compare_eq_gt.2 hlt, eq_comm, Int.compare_eq_gt]
          omega
        · rw [Int.compare_eq_lt.2 hlt, eq_comm, Int.compare_eq_lt]
          omega

end Reckoner.Decimal
