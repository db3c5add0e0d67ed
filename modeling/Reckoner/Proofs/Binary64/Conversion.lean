import Reckoner.Proofs.Binary64.Scientific
import Reckoner.Proofs.Decimal.Magnitude

/-!
The signs of the doubles that stand for decimals.

The digits that are cut off before the conversion are fewer than those that are left, so the
magnitude that is converted is more than half of the number. The double is zero if and only if
this magnitude is at most half of the least double, and otherwise has the sign of the number.

* `Decimal.keptMagnitude`, `Decimal.Vanishes`: what is converted, and when it becomes zero;
* `Decimal.keptMagnitude_le`, `Decimal.abs_toRat_lt_keptMagnitude`: how near it is to the number;
* `Decimal.flushed`, `Decimal.sign_toFloat`: the number whose sign the double has.
-/

namespace Reckoner

open Binary64

namespace Binary64

/-- The least positive double. -/
def least : ℚ := 2 ^ (-1074 : ℤ)

lemma least_pos : 0 < least := by
  rw [least]
  positivity

lemma least_lt_one : least < 1 := zpow_lt_one_of_neg₀ (by norm_num) (by norm_num)

/-- Half of the least double, as a bound of fractions of whole numbers. -/
lemma two_mul_le_least_iff (n s : ℕ) :
    2 * ((n : ℚ) * 10 ^ (-(s : ℤ))) ≤ least ↔ 2 * (n * 2 ^ 1074) ≤ 10 ^ s := by
  have hleast : least = 1 / (2 ^ 1074 : ℕ) := by
    rw [least, zpow_neg, one_div, Nat.cast_pow]
    rfl
  have hten : (10 : ℚ) ^ (-(s : ℤ)) = 1 / (10 ^ s : ℕ) := by
    rw [zpow_neg, zpow_natCast, one_div, Nat.cast_pow]
    rfl
  have hpos : 0 < 2 ^ 1074 := by positivity
  have hpos' : 0 < 10 ^ s := by positivity
  rw [hleast, hten]
  generalize 2 ^ 1074 = l at hpos
  generalize 10 ^ s = t at hpos'
  rw [mul_one_div, ← mul_div_assoc, div_le_div_iff₀ (by exact_mod_cast hpos')
    (by exact_mod_cast hpos), mul_assoc, one_mul]
  exact_mod_cast Iff.rfl

end Binary64

/-! ### What is converted -/

namespace Decimal

variable {a : Decimal}

/-- The number of digits that are cut off. -/
def digitsToCut (a : Decimal) : ℕ := blockDigits * blocksToCut a.unscaled.natAbs

/-- The digits that are left. -/
def keptPart (a : Decimal) : ℕ := a.unscaled.natAbs / 10 ^ a.digitsToCut

/-- The magnitude that is converted. -/
def keptMagnitude (a : Decimal) : ℚ := a.keptPart * 10 ^ (-(a.scale.toInt - a.digitsToCut))

/-- Whether the double of a decimal is zero: what is converted is at most half of the least
double. -/
def Vanishes (a : Decimal) : Prop := 2 * a.keptMagnitude ≤ least

instance : Decidable a.Vanishes := inferInstanceAs (Decidable (_ ≤ _))

/-- The number of which a double keeps the sign: zero if the decimal vanishes. -/
def flushed (a : Decimal) : ℚ := if a.Vanishes then 0 else a.toRat

/-- Digits are left over: the estimate of their number is at most one too large. -/
lemma ten_pow_digitsToCut_le (ha : a.unscaled ≠ 0) :
    10 ^ a.digitsToCut ≤ a.unscaled.natAbs := by
  set n := a.unscaled.natAbs with hn
  have hpos : n ≠ 0 := Int.natAbs_ne_zero.mpr ha
  have hcut : a.digitsToCut ≤ digitCount (2 ^ (n.log2 + 2)) - 1 - 25 := by
    have hbits : bitLength n + 1 = n.log2 + 2 := by rw [bitLength, if_neg hpos]
    rw [digitsToCut, ← hn, blocksToCut, approximateDigits, hbits, blockDigits, keptDigits,
      Nat.pow_eq]
    omega
  obtain hzero | hsome := Nat.eq_zero_or_pos a.digitsToCut
  · rw [hzero, pow_zero]
    omega
  · have hcount : a.digitsToCut + 25 < digitCount (2 ^ (n.log2 + 2)) := by omega
    have hpower := ten_pow_le_of_lt_digitCount (by positivity) hcount
    have hlog := Nat.log2_self_le hpos
    rw [pow_add, pow_add 2] at hpower
    omega

lemma keptPart_pos (ha : a.unscaled ≠ 0) : 0 < a.keptPart :=
  Nat.div_pos (ten_pow_digitsToCut_le ha) (by positivity)

lemma keptMagnitude_eq (a : Decimal) :
    a.keptMagnitude = (a.keptPart * 10 ^ a.digitsToCut : ℕ) * 10 ^ (-a.scale.toInt) := by
  rw [keptMagnitude, neg_sub, sub_eq_add_neg, zpow_add₀ (by norm_num), zpow_natCast, ← mul_assoc]
  push_cast
  rfl

/-- What is converted is no larger than the number. -/
lemma keptMagnitude_le (a : Decimal) : a.keptMagnitude ≤ |a.toRat| := by
  have hkept : a.keptPart * 10 ^ a.digitsToCut ≤ a.unscaled.natAbs := Nat.div_mul_le_self _ _
  rw [keptMagnitude_eq, abs_toRat]
  exact mul_le_mul_of_nonneg_right (by exact_mod_cast hkept) (by positivity)

/-- What is converted is more than half of the number. -/
lemma abs_toRat_lt_keptMagnitude (ha : a.unscaled ≠ 0) : |a.toRat| < 2 * a.keptMagnitude := by
  have hkept : a.unscaled.natAbs < 2 * (a.keptPart * 10 ^ a.digitsToCut) := by
    calc a.unscaled.natAbs < 10 ^ a.digitsToCut * (a.keptPart + 1) :=
          Nat.lt_mul_div_succ _ (by positivity)
      _ ≤ 10 ^ a.digitsToCut * (a.keptPart + a.keptPart) :=
          Nat.mul_le_mul_left _ (Nat.add_le_add_left (keptPart_pos ha) _)
      _ = 2 * (a.keptPart * 10 ^ a.digitsToCut) := by ring
  rw [keptMagnitude_eq, abs_toRat, ← mul_assoc]
  exact mul_lt_mul_of_pos_right (by exact_mod_cast hkept) (by positivity)

/-- A number of at most half of the least double vanishes. -/
lemma vanishes_of_abs_le (h : 2 * |a.toRat| ≤ least) : a.Vanishes :=
  (mul_le_mul_of_nonneg_left (keptMagnitude_le a) zero_le_two).trans h

/-- A number that reaches the least double does not vanish. -/
lemma not_vanishes_of_le_abs (h : least ≤ |a.toRat|) : ¬ a.Vanishes := by
  have ha : a.unscaled ≠ 0 := by
    intro hzero
    rw [toRat_eq_zero.mpr hzero, abs_zero] at h
    exact absurd h least_pos.not_ge
  exact (h.trans_lt (abs_toRat_lt_keptMagnitude ha)).not_ge

/-! ### Signs -/

lemma sign_magnitudeToFloat {n : ℕ} {s : ℤ} (hn : 0 < n) (hs : isExponent s = true) :
    sign (magnitudeToFloat n s) = if 2 * ((n : ℚ) * 10 ^ (-s)) ≤ least then 0 else 1 := by
  rw [magnitudeToFloat, hs, Bool.not_true, if_neg Bool.false_ne_true]
  split
  · next hpos =>
    obtain ⟨k, rfl⟩ : ∃ k : ℕ, s = k := ⟨s.toNat, by omega⟩
    rw [Int.toNat_natCast, sign_ofScientific hn (by omega)]
    simp only [two_mul_le_least_iff]
  · next hneg =>
    obtain ⟨k, hk⟩ : ∃ k : ℕ, -s = k := ⟨(-s).toNat, by omega⟩
    have hlarge : ¬ 2 * ((n : ℚ) * 10 ^ (-s)) ≤ least := by
      have hone : (1 : ℚ) ≤ n * 10 ^ (-s) := by
        rw [hk, zpow_natCast]
        exact_mod_cast Nat.mul_pos hn (by positivity)
      have := least_lt_one
      rw [not_le]
      linarith
    rw [if_neg hlarge]
    exact ((atLeastOne_ofNat hn).mul (atLeastOne_pow_ten _)).sign_eq

lemma sign_ofInt (n : ℤ) : sign (Float.ofInt n) = SignType.sign n := by
  obtain hneg | rfl | hpos := lt_trichotomy n 0
  · obtain ⟨m, rfl⟩ : ∃ m : ℕ, n = Int.negSucc m := ⟨(-n - 1).toNat, by omega⟩
    show sign (-Float.ofNat (m + 1)) = _
    rw [sign_opposite, (atLeastOne_ofNat m.succ_pos).sign_eq, sign_neg hneg]
  · rw [sign_zero]
    rfl
  · obtain ⟨m, rfl⟩ : ∃ m : ℕ, n = m := ⟨n.toNat, by omega⟩
    show sign (Float.ofNat m) = _
    rw [(atLeastOne_ofNat (by omega)).sign_eq, sign_pos hpos]

/-- Whole numbers do not vanish. -/
lemma flushed_ofInt (n : ℤ) : (ofInt n).flushed = n := by
  rw [flushed, toRat_ofInt]
  split
  · next h =>
    by_contra hn
    have hwhole : (1 : ℚ) ≤ |(ofInt n).toRat| := by
      rw [toRat_ofInt]
      exact_mod_cast Int.one_le_abs fun hzero => hn (by rw [hzero, Int.cast_zero])
    exact not_vanishes_of_le_abs (least_lt_one.le.trans hwhole) h
  · rfl

lemma sign_flushed (a : Decimal) :
    SignType.sign a.flushed = if a.Vanishes then 0 else SignType.sign a.unscaled := by
  have hpower : (0 : ℚ) < 10 ^ (-a.scale.toInt) := by positivity
  rw [flushed]
  split
  · exact sign_zero
  · rw [toRat, sign_mul, sign_pos hpower, mul_one, sign_intCast]

/-- **The sign of the double of a decimal** is that of the number, unless it vanishes. -/
theorem sign_toFloat (h : a.toFloat.isFinite = true) :
    sign a.toFloat = SignType.sign a.flushed := by
  by_cases ha : a.unscaled = 0
  · rw [toFloat, if_pos ha, sign_flushed, ha, sign_zero, ite_self]
    rfl
  by_cases hscale : a.scale = 0
  · have hwhole : a = ofInt a.unscaled := by rw [ofInt, ← hscale]
    rw [toFloat, if_neg ha, if_pos hscale, sign_ofInt, hwhole, flushed_ofInt, sign_intCast, ofInt]
  set magnitude := magnitudeToFloat a.keptPart (a.scale.toInt - a.digitsToCut) with hmagnitude
  have htoFloat : a.toFloat = if a.unscaled < 0 then -magnitude else magnitude := by
    rw [toFloat, if_neg ha, if_neg hscale, hmagnitude, keptPart, digitsToCut]
    rfl
  have hexponent : isExponent (a.scale.toInt - a.digitsToCut) = true := by
    by_contra hlarge
    have hinfinite : magnitude = infinity := by
      rw [hmagnitude, magnitudeToFloat, Bool.eq_false_of_not_eq_true hlarge]
      rfl
    rw [htoFloat, hinfinite] at h
    have hcontra : (-infinity).isFinite = false ∧ infinity.isFinite = false := by decide +kernel
    split at h
    · exact absurd h (by rw [hcontra.1]; exact Bool.false_ne_true)
    · exact absurd h (by rw [hcontra.2]; exact Bool.false_ne_true)
  have hsign : sign magnitude = if a.Vanishes then 0 else 1 :=
    sign_magnitudeToFloat (keptPart_pos ha) hexponent
  rw [htoFloat, sign_flushed]
  obtain hneg | hpos := lt_or_gt_of_ne ha
  · rw [if_pos hneg, sign_opposite, hsign, sign_neg hneg]
    split <;> rfl
  · rw [if_neg hpos.not_gt, hsign, sign_pos hpos]

end Decimal

end Reckoner
