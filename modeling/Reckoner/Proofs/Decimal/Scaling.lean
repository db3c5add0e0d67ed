import Reckoner.Proofs.Decimal.Division

/-!
How far the numerator of a quotient is scaled up.

The places that are added to the scale of a quotient are counted in 64 bits, and the power of ten
that the numerator is multiplied with has only 32 bits for them. Beyond these the quotient is
smaller than it should be, by the power of ten that has been lost.

* `Decimal.cutQuotient`, `Decimal.div_eq_cutQuotient`: the quotient, from these two numbers;
* `Decimal.scalingPlaces_honoured_iff`: when they agree;
* `Decimal.wantedPlaces_ten_pow`, `Decimal.withDigits_ten_pow`, `Decimal.trimmed_ten_pow`: powers
  of ten;
* `Decimal.div_self_eq`: a number divided by itself;
* `Decimal.div_eq_remainder`: a proper fraction whose numerator is not scaled up.
-/

namespace Reckoner

namespace Decimal

/-! ### The places of a quotient -/

/-- The quotient that is rounded: its numerator is scaled up by `scaling` places, and `recorded`
places are added to its scale. -/
def cutQuotient (a b : Decimal) (scaling : ℕ) (recorded : Int64) : Decimal :=
  let scaled := a.unscaled * 10 ^ scaling
  if scaled.tmod b.unscaled = 0 then ⟨scaled.tdiv b.unscaled, a.scale - b.scale + recorded⟩
  else ⟨scaled.tdiv b.unscaled * 10 + sticky a.unscaled b.unscaled,
    a.scale - b.scale + recorded + 1⟩

/-- The places that go into the scale of a quotient. -/
def recordedPlaces (a b : Decimal) (precision : UInt64) : Int64 :=
  shift (max precision 1) a.unscaled b.unscaled

lemma div_eq_cutQuotient (a b : Decimal) (precision : UInt64) :
    a.div b precision
      = (withDigits (a.cutQuotient b (scalingPlaces (recordedPlaces a b precision))
          (recordedPlaces a b precision)) (quotientDigits precision)).trimmed := by
  rw [div_eq]
  rfl

variable {a b : Decimal} {precision : UInt64}

lemma toInt_recordedPlaces (a b : Decimal) (precision : UInt64) :
    (recordedPlaces a b precision).toInt
      = max 0 ((wantedPlaces (quotientDigits precision) a.unscaled b.unscaled).bmod (2 ^ 64)) := by
  rw [recordedPlaces, toInt_shift_eq_bmod, toNat_max_one]

/-- The numerator is scaled up by the places that are recorded, as far as they fit in 32 bits. -/
lemma scalingPlaces_recordedPlaces (a b : Decimal) (precision : UInt64) :
    (scalingPlaces (recordedPlaces a b precision) : ℤ)
      = (recordedPlaces a b precision).toInt % 2 ^ 32 := by
  have hnonneg : 0 ≤ (recordedPlaces a b precision).toInt := by
    rw [toInt_recordedPlaces]
    exact le_max_left 0 _
  rw [scalingPlaces, Int.natCast_mod, Int.toNat_of_nonneg hnonneg]
  rfl

/-- Only places that fit in 32 bits are honoured. -/
lemma scalingPlaces_honoured_iff (hlength : digitCount a.unscaled.natAbs < 2 ^ 63) :
    (scalingPlaces (recordedPlaces a b precision) = (recordedPlaces a b precision).toInt
      ∧ wantedPlaces (quotientDigits precision) a.unscaled b.unscaled
        ≤ scalingPlaces (recordedPlaces a b precision))
    ↔ wantedPlaces (quotientDigits precision) a.unscaled b.unscaled < 2 ^ 32 := by
  have hscaling := scalingPlaces_recordedPlaces a b precision
  constructor
  · rintro ⟨-, hle⟩
    have hword := Int.emod_lt_of_pos (recordedPlaces a b precision).toInt
      (show (0 : ℤ) < 2 ^ 32 by norm_num)
    omega
  · intro hwanted
    have hlow : -2 ^ 63 ≤ wantedPlaces (quotientDigits precision) a.unscaled b.unscaled := by
      rw [wantedPlaces]
      omega
    have hrecorded := toInt_recordedPlaces a b precision
    rw [Int.bmod_eq_of_le (by omega) (by omega)] at hrecorded
    omega

/-! ### Powers of ten -/

lemma digitCount_ten_pow (k : ℕ) : digitCount (10 ^ k) = k + 1 := by
  have hlength := digitCount_mul_ten_pow_add (n := 1) (r := 0) (k := k) Nat.one_pos (by positivity)
  rw [one_mul, add_zero] at hlength
  rw [hlength, add_comm]
  rfl

/-- A quotient by a power of ten wants as many places as the power has, and one for its one. -/
lemma wantedPlaces_ten_pow (p k : ℕ) (num : ℤ) :
    wantedPlaces p num (10 ^ k) = p + (k + 1) - digitCount num.natAbs + 2 := by
  rw [wantedPlaces, Int.natAbs_pow, show (10 : ℤ).natAbs = 10 from rfl, digitCount_ten_pow]
  push_cast
  rfl

lemma leadingPlace_ten_pow (k : ℕ) : (ofInt (10 ^ k)).leadingPlace = k + 1 := by
  rw [leadingPlace, ofInt, Int.natAbs_pow, show (10 : ℤ).natAbs = 10 from rfl, digitCount_ten_pow]
  push_cast
  exact sub_zero _

/-- The first digits of a power of ten are one of a smaller one. -/
lemma shortened_ten_pow (n : ℕ) {j : ℕ} (hj : 0 < j) :
    shortened false (10 ^ (n + j)) j = 10 ^ n := by
  have hround := add_half_div (10 ^ (n + j)) (h := 5 * 10 ^ (j - 1)) (by positivity)
  have hpos : 0 < 10 ^ j := Nat.pow_pos (by norm_num)
  rw [← ten_pow_eq hj, pow_add, Nat.mul_mod_left, if_neg (by omega), Nat.mul_div_cancel _ hpos,
    add_zero] at hround
  rw [shortened, if_neg Bool.false_ne_true, pow_add, hround]
  push_cast
  rfl

/-- To `p` digits, a power of ten has `p - 1` zeros, at the scale that keeps it the same number. -/
lemma withDigits_ten_pow {p : ℕ} (hp : 0 < p) (k : ℕ) (s : ℤ) :
    withDigits (atScale (10 ^ k) s) p = atScale (10 ^ (p - 1)) (s - k + (p - 1 : ℕ)) := by
  have hcount := digitCount_ten_pow k
  have habs : ((10 : ℤ) ^ k).natAbs = 10 ^ k := Int.natAbs_pow 10 k
  obtain hlt | heq | hgt := lt_trichotomy p (k + 1)
  · -- digits are taken off
    obtain ⟨j, hj⟩ : ∃ j, k = p - 1 + j := ⟨k - (p - 1), by omega⟩
    have hlength : digitCount (10 ^ (p - 1 + j)) = p + j := by
      rw [← hj, hcount]
      omega
    have hshort := withDigits_withSign false hlength (by omega) s
    rw [shortened_ten_pow _ (by omega)] at hshort
    rw [hj]
    convert hshort using 2
    · simp [withSign]
    · push_cast
      ring
  · rw [withDigits]
    simp only [unscaled_atScale, habs, hcount, heq, lt_irrefl, if_false]
    congr 1
    push_cast
    ring
  · -- zeros are appended
    have hzeros : k + (p - (k + 1)) = p - 1 := by omega
    have hscale : Int64.ofInt s + .ofNat (p - (k + 1)) = .ofInt (s - k + (p - 1 : ℕ)) := by
      rw [← Int64.ofInt_eq_ofNat, ← Int64.ofInt_add]
      congr 1
      omega
    rw [withDigits]
    simp only [unscaled_atScale, scale_atScale, habs, hcount]
    rw [if_neg (by omega), if_pos hgt, Int.pow_eq, ← pow_add, hzeros, hscale]
    rfl

lemma stripZeros_ten_pow (n : ℕ) (s : ℤ) : stripZeros (10 ^ n) (.ofInt s) = atScale 1 (s - n) := by
  have hne : (10 : ℤ) ^ n ≠ 0 := by positivity
  obtain ⟨v, z, hstrip, hv, hnot⟩ := exists_stripZeros hne (.ofInt s)
  have hz : z ≤ n := by
    have hdvd : 10 ^ z ∣ 10 ^ n := by
      refine Int.natCast_dvd_natCast.mp ⟨v, ?_⟩
      push_cast
      rw [hv, mul_comm]
    exact (Nat.pow_dvd_pow_iff_le_right (by norm_num)).mp hdvd
  obtain ⟨j, rfl⟩ : ∃ j, n = j + z := ⟨n - z, by omega⟩
  have hvalue : v = 10 ^ j := by
    rw [pow_add] at hv
    exact (mul_right_cancel₀ (by positivity) hv).symm
  obtain rfl : j = 0 := by
    by_contra hj
    rw [hvalue] at hnot
    exact hnot (dvd_pow_self 10 hj)
  rw [hstrip, hvalue, pow_zero, atScale, zero_add, Int64.ofInt_sub, Int64.ofInt_eq_ofNat]

/-- Of a power of ten that is not below one nothing but the scale is left when it is trimmed. -/
lemma trimmed_ten_pow {s : ℤ} (n : ℕ) (hlow : n ≤ s) (hhigh : s - n < 2 ^ 63) :
    (atScale (10 ^ n) s).trimmed = atScale 1 (s - n) := by
  have hne : (10 : ℤ) ^ n ≠ 0 := by positivity
  have hscale : ¬ Int64.ofInt (s - n) < 0 := by
    rw [Int64.lt_iff_toInt_lt, Int64.toInt_ofInt_of_le (by omega) hhigh, Int64.toInt_zero]
    omega
  have hstripped : (atScale (10 ^ n) s).stripped = atScale 1 (s - n) := by
    rw [stripped, unscaled_atScale, scale_atScale, if_neg hne, stripZeros_ten_pow]
  simp only [trimmed]
  rw [hstripped, scale_atScale, if_neg hscale]

/-! ### Quotients beyond 32 bits -/

/-- **A number divided by itself** is one only as long as the places that are wanted fit in 32 bits.
Beyond that it is smaller by as many places as the power of ten has lost. -/
theorem div_self_eq (ha : a.unscaled ≠ 0) (hp : quotientDigits precision + 2 < 2 ^ 63) :
    a.div a precision
      = atScale 1 (2 ^ 32 * ((quotientDigits precision + 2 : ℕ) / 2 ^ 32 : ℕ)) := by
  have hwanted : wantedPlaces (quotientDigits precision) a.unscaled a.unscaled
      = (quotientDigits precision + 2 : ℕ) := by
    rw [wantedPlaces]
    push_cast
    ring
  have hrecorded := toInt_recordedPlaces a a precision
  rw [hwanted, Int.bmod_eq_of_le (by omega) (by omega), max_eq_right (by omega)] at hrecorded
  have hscaling := scalingPlaces_recordedPlaces a a precision
  rw [hrecorded] at hscaling
  obtain ⟨k, hk⟩ : ∃ k, scalingPlaces (recordedPlaces a a precision) = k := ⟨_, rfl⟩
  rw [hk] at hscaling
  have hscale : a.scale - a.scale + recordedPlaces a a precision
      = .ofInt (quotientDigits precision + 2 : ℕ) := by
    rw [← hrecorded, Int64.ofInt_toInt, Int64.sub_self, Int64.zero_add]
  have hcut : a.cutQuotient a k (recordedPlaces a a precision)
      = atScale (10 ^ k) (quotientDigits precision + 2 : ℕ) := by
    simp only [cutQuotient]
    rw [Int.mul_tmod_right, if_pos rfl, Int.mul_tdiv_cancel_left _ ha, hscale, atScale]
  -- the places that are recorded, but not scaled up by, are a multiple of a word
  have hplaces : ((quotientDigits precision + 2 : ℕ) : ℤ) - k
      = 2 ^ 32 * ((quotientDigits precision + 2) / 2 ^ 32 : ℕ) := by
    omega
  rw [div_eq_cutQuotient, hk, hcut, withDigits_ten_pow (quotientDigits_pos precision), hplaces,
    trimmed_ten_pow (quotientDigits precision - 1) (by omega) (by omega), add_sub_cancel_right]

/-- **A proper fraction of positive numbers**, for which all 32 bits of the wanted places are zero:
its numerator is not scaled up, and all that is left of the quotient is the digit that stands for
the remainder. -/
theorem div_eq_remainder {n : ℕ} (ha : 0 < a.unscaled) (hab : a.unscaled < b.unscaled)
    (hwanted : wantedPlaces (quotientDigits precision) a.unscaled b.unscaled = 2 ^ 32 * n)
    (hn : 2 ^ 32 * n < 2 ^ 63)
    (hlow : 0 ≤ a.scale.toInt - b.scale.toInt + 2 ^ 32 * n + 1)
    (hhigh : a.scale.toInt - b.scale.toInt + 2 ^ 32 * n + 1 < 2 ^ 63) :
    a.div b precision = atScale 1 (a.scale.toInt - b.scale.toInt + 2 ^ 32 * n + 1) := by
  have hrecorded := toInt_recordedPlaces a b precision
  rw [hwanted, Int.bmod_eq_of_le (by omega) (by omega), max_eq_right (by omega)] at hrecorded
  have hscaling : scalingPlaces (recordedPlaces a b precision) = 0 := by
    have hmod := scalingPlaces_recordedPlaces a b precision
    rw [hrecorded, Int.mul_emod_right] at hmod
    exact Int.ofNat_eq_zero.mp hmod
  have hscale : a.scale - b.scale + recordedPlaces a b precision + 1
      = .ofInt (a.scale.toInt - b.scale.toInt + 2 ^ 32 * n + 1) := by
    rw [← hrecorded, Int64.ofInt_add, Int64.ofInt_add, Int64.ofInt_sub, Int64.ofInt_toInt,
      Int64.ofInt_toInt, Int64.ofInt_toInt]
    rfl
  have hsticky : sticky a.unscaled b.unscaled = 1 := by
    rw [sticky, decide_eq_false ha.not_gt, decide_eq_false (ha.trans hab).not_gt]
    rfl
  have hcut : a.cutQuotient b 0 (recordedPlaces a b precision)
      = atScale (10 ^ 0) (a.scale.toInt - b.scale.toInt + 2 ^ 32 * n + 1) := by
    simp only [cutQuotient, pow_zero, mul_one]
    rw [Int.tmod_eq_of_lt ha.le hab, if_neg ha.ne', Int.tdiv_eq_zero_of_lt ha.le hab, hsticky,
      hscale]
    rfl
  rw [div_eq_cutQuotient, hscaling, hcut, withDigits_ten_pow (quotientDigits_pos precision),
    trimmed_ten_pow (quotientDigits precision - 1) (by omega) (by omega), Nat.cast_zero, sub_zero,
    add_sub_cancel_right]

end Decimal

end Reckoner
