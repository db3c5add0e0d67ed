import Mathlib

/-!
Rounding to doubles.

The magnitude `m * 2 ^ e` of a double has at most 53 binary digits, and fewer only at the least
exponent. To round a longer one, its mantissa is shifted to the right, and once more if rounding up
has made it longer again. A mantissa that is not zero never becomes zero in this way, as long as
its leading digit does not stand below the least exponent, and its leading place never falls.

* `Canonical`: the mantissas and exponents of doubles;
* `excess`, `canonical_shift`: the digits that are shifted out, and what is left;
* `exists_rounded_finite`: magnitudes that do not become zero;
* `rounded_below_half`, `rounded_above_half`: magnitudes below the least double;
* `exists_quotient_finite`, `quotient_zero_or_finite`: quotients, which are rounded only once.
-/

namespace Reckoner.Binary64

open Float.Model Float.Model.UnpackedFloat

/-- The mantissa and the exponent of a double: at most 53 binary digits, and fewer only at the
least exponent. -/
structure Canonical (m : ℕ) (e : ℤ) : Prop where
  lt : m < 2 ^ 53
  exponent_ge : -1074 ≤ e
  normal : 2 ^ 52 ≤ m ∨ e = -1074

lemma targetExponent_eq (t : ℤ) : Format.binary64.targetExponent t = max (t - 53) (-1074) := rfl

/-! ### Digits that are shifted out -/

/-- The number of digits that are shifted out of a mantissa. -/
def excess (m : ℕ) (e : ℤ) : ℕ :=
  (Format.binary64.targetExponent (totalExponent m e) - e).toNat

variable {m : ℕ} {e : ℤ}

lemma excess_eq (m : ℕ) (e : ℤ) : excess m e = (max ((m.log2 : ℤ) - 52) (-1074 - e)).toNat := by
  rw [excess, targetExponent_eq, totalExponent]
  omega

lemma mantissa_shiftRight (em : ExtendedMantissa) (k : ℕ) :
    (em >>> k).mantissa = em.mantissa / 2 ^ k := by
  induction k with
  | zero => rw [pow_zero, Nat.div_one]; rfl
  | succ k ih =>
      show (ExtendedMantissa.shiftRightOne (em >>> k)).mantissa = _
      rw [ExtendedMantissa.shiftRightOne, ih, Nat.div_div_eq_div_mul, pow_succ]

lemma mantissa_ofMantissaAndAccuracy (m : ℕ) (accuracy : Accuracy) :
    (ExtendedMantissa.ofMantissaAndAccuracy m accuracy).mantissa = m := by
  cases accuracy with
  | exact => rfl
  | inexact order => cases order <;> rfl

lemma mantissa_le_roundedMantissa (em : ExtendedMantissa) :
    em.mantissa ≤ em.roundedMantissa := by
  rw [ExtendedMantissa.roundedMantissa]
  cases em.accuracy with
  | exact => exact le_rfl
  | inexact order => cases order <;> simp only [Accuracy.roundToNearestEven] <;> omega

/-- Shifting to the right leaves the leading place of a mantissa where it is. -/
lemma log2_div_two_pow {k : ℕ} (hm : 0 < m) (hk : k ≤ m.log2) :
    0 < m / 2 ^ k ∧ (m / 2 ^ k).log2 = m.log2 - k := by
  have hlow : 2 ^ (m.log2 - k) ≤ m / 2 ^ k := by
    rw [Nat.le_div_iff_mul_le (by positivity), ← pow_add, Nat.sub_add_cancel hk]
    exact Nat.log2_self_le hm.ne'
  have hhigh : m / 2 ^ k < 2 ^ (m.log2 - k + 1) := by
    rw [Nat.div_lt_iff_lt_mul (by positivity), ← pow_add]
    calc m < 2 ^ (m.log2 + 1) := Nat.lt_log2_self
      _ = 2 ^ (m.log2 - k + 1 + k) := by congr 1; omega
  have hpos : 0 < m / 2 ^ k := lt_of_lt_of_le (by positivity) hlow
  exact ⟨hpos, (Nat.log2_eq_iff hpos.ne').mpr ⟨hlow, hhigh⟩⟩

/-- **What is left of a mantissa** that does not stand below the least exponent: a double with the
same leading place. -/
lemma canonical_shift (hm : 0 < m) (hplace : -1074 ≤ m.log2 + e)
    (hlong : 2 ^ 52 ≤ m ∨ e ≤ -1074) :
    0 < m / 2 ^ excess m e
      ∧ Canonical (m / 2 ^ excess m e) (e + excess m e)
      ∧ (m / 2 ^ excess m e).log2 + (e + excess m e) = m.log2 + e := by
  have hlog : 2 ^ 52 ≤ m ↔ 52 ≤ m.log2 := (Nat.le_log2 hm.ne').symm
  have hexcess := excess_eq m e
  have hk : excess m e ≤ m.log2 := by omega
  obtain ⟨hpos, hshifted⟩ := log2_div_two_pow hm hk
  have hlt : m / 2 ^ excess m e < 2 ^ 53 ↔ (m / 2 ^ excess m e).log2 < 53 :=
    (Nat.log2_lt hpos.ne').symm
  have hge : 2 ^ 52 ≤ m / 2 ^ excess m e ↔ 52 ≤ (m / 2 ^ excess m e).log2 :=
    (Nat.le_log2 hpos.ne').symm
  refine ⟨hpos, ⟨hlt.mpr ?_, ?_, ?_⟩, ?_⟩
  · omega
  · omega
  · rw [hge]
    omega
  · omega

/-! ### Rounded magnitudes -/

/-- **A magnitude that does not become zero.** If the leading digit of a mantissa does not stand
below the least exponent, then the mantissa is rounded to one whose leading digit stands no
lower. -/
lemma exists_rounded_finite (sign : Sign) (accuracy : Accuracy) (hm : 0 < m)
    (hplace : -1074 ≤ m.log2 + e) (hlong : 2 ^ 52 ≤ m ∨ e ≤ -1074) :
    ∃ (n : ℕ) (d : ℤ) (hn : 0 < n),
      roundWithAccuracy .binary64 sign m e accuracy = .finite sign n d hn
      ∧ Canonical n d ∧ m.log2 + e ≤ n.log2 + d := by
  obtain ⟨hpos, hcanonical, hleading⟩ := canonical_shift hm hplace hlong
  set k := excess m e with hk
  set em := ExtendedMantissa.ofMantissaAndAccuracy m accuracy >>> k with hem
  -- rounding up may take the mantissa to `2 ^ 53`
  have hmantissa : em.mantissa = m / 2 ^ k := by
    rw [hem, mantissa_shiftRight, mantissa_ofMantissaAndAccuracy]
  have hle : m / 2 ^ k ≤ em.roundedMantissa := hmantissa ▸ mantissa_le_roundedMantissa em
  have hroundedPos : 0 < em.roundedMantissa := hpos.trans_le hle
  have hlogLe : (m / 2 ^ k).log2 ≤ em.roundedMantissa.log2 :=
    (Nat.le_log2 hroundedPos.ne').mpr ((Nat.log2_self_le hpos.ne').trans hle)
  have hexponent := hcanonical.exponent_ge
  obtain ⟨hpos', hcanonical', hleading'⟩ := canonical_shift (m := em.roundedMantissa)
    (e := e + k) hroundedPos (by omega) (by have := hcanonical.normal; omega)
  have hrounded : roundWithAccuracy .binary64 sign m e accuracy
      = .finite sign (em.roundedMantissa / 2 ^ excess em.roundedMantissa (e + k))
          (e + k + excess em.roundedMantissa (e + k)) hpos' := by
    have hshift (em' : ExtendedMantissa) (n : ℕ) (h : em'.mantissa = n) (hn : 0 < n) (d : ℤ) :
        (if h : em'.mantissa = 0 then UnpackedFloat.zero sign
          else .finite sign em'.mantissa d (Nat.pos_of_ne_zero h)) = .finite sign n d hn := by
      subst h
      exact dif_neg hn.ne'
    refine hshift _ _ ?_ hpos' _
    rw [mantissa_shiftRight]
    rfl
  exact ⟨_, _, hpos', hrounded, hcanonical', by omega⟩

/-- A magnitude of at most half of the least double is rounded to zero. -/
lemma rounded_below_half (sign : Sign) {order : Ordering} (h : order ≠ .gt) :
    roundWithAccuracy .binary64 sign 0 (-1074) (.inexact order) = .zero sign := by
  cases order with
  | gt => exact absurd rfl h
  | lt => rfl
  | eq => rfl

/-- A magnitude of more than half of the least double is rounded to this. -/
lemma rounded_above_half (sign : Sign) :
    roundWithAccuracy .binary64 sign 0 (-1074) (.inexact .gt)
      = .finite sign 1 (-1074) Nat.one_pos := rfl

/-! ### Quotients -/

section Quotients

variable {m₁ m₂ : ℕ} {e₁ e₂ : ℤ}

/-- The exponent to which the numerator of a quotient is brought first. -/
def quotientExponent (m₁ : ℕ) (e₁ : ℤ) (m₂ : ℕ) (e₂ : ℤ) : ℤ :=
  min (e₁ - e₂) (max (m₁.log2 + e₁ - (m₂.log2 + e₂) - 53) (-1074))

/-- The numerator at this exponent. -/
def numerator (m₁ : ℕ) (e₁ : ℤ) (m₂ : ℕ) (e₂ : ℤ) : ℕ :=
  m₁ * 2 ^ (e₁ - e₂ - quotientExponent m₁ e₁ m₂ e₂).toNat

lemma div_finite (s₁ s₂ : Sign) (h₁ : 0 < m₁) (h₂ : 0 < m₂) :
    UnpackedFloat.div .binary64 (.finite s₁ m₁ e₁ h₁) (.finite s₂ m₂ e₂ h₂)
      = roundWithAccuracy .binary64 (s₁ / s₂) (numerator m₁ e₁ m₂ e₂ / m₂)
          (quotientExponent m₁ e₁ m₂ e₂) (accuracyOfFraction (numerator m₁ e₁ m₂ e₂ % m₂) m₂) := by
  have hexponent : min (e₁ - e₂) (Format.binary64.targetExponent
      (totalExponent m₁ e₁ - totalExponent m₂ e₂)) = quotientExponent m₁ e₁ m₂ e₂ := by
    rw [targetExponent_eq, totalExponent, totalExponent, quotientExponent]
    omega
  simp only [UnpackedFloat.div, divCore, hexponent, Nat.shiftLeft_eq, numerator]

/-- **A quotient that does not become zero**, because its leading digit stands well above the least
exponent. -/
lemma exists_quotient_finite (s₁ s₂ : Sign) (h₁ : 0 < m₁) (h₂ : 0 < m₂)
    (hplace : -1021 ≤ m₁.log2 + e₁ - (m₂.log2 + e₂)) :
    ∃ (n : ℕ) (d : ℤ) (hn : 0 < n),
      UnpackedFloat.div .binary64 (.finite s₁ m₁ e₁ h₁) (.finite s₂ m₂ e₂ h₂)
        = .finite (s₁ / s₂) n d hn
      ∧ Canonical n d := by
  set k := (e₁ - e₂ - quotientExponent m₁ e₁ m₂ e₂).toNat with hk
  rw [quotientExponent] at hk
  have hlong : 2 ^ 52 ≤ numerator m₁ e₁ m₂ e₂ / m₂ := by
    rw [Nat.le_div_iff_mul_le h₂]
    calc 2 ^ 52 * m₂ ≤ 2 ^ 52 * 2 ^ (m₂.log2 + 1) :=
          Nat.mul_le_mul_left _ Nat.lt_log2_self.le
      _ ≤ 2 ^ m₁.log2 * 2 ^ k := by
          rw [← pow_add, ← pow_add]
          exact Nat.pow_le_pow_right (by norm_num) (by omega)
      _ ≤ m₁ * 2 ^ k := Nat.mul_le_mul_right _ (Nat.log2_self_le h₁.ne')
  have hpos : 0 < numerator m₁ e₁ m₂ e₂ / m₂ := lt_of_lt_of_le (by norm_num) hlong
  have hleading : m₁.log2 + k < (numerator m₁ e₁ m₂ e₂ / m₂).log2 + m₂.log2 + 2 := by
    rw [← Nat.pow_lt_pow_iff_right (a := 2) (by norm_num)]
    calc 2 ^ (m₁.log2 + k) ≤ m₁ * 2 ^ k := by
          rw [pow_add]
          exact Nat.mul_le_mul_right _ (Nat.log2_self_le h₁.ne')
      _ < (numerator m₁ e₁ m₂ e₂ / m₂ + 1) * m₂ := by
          rw [mul_comm _ m₂]
          exact Nat.lt_mul_div_succ _ h₂
      _ ≤ 2 ^ ((numerator m₁ e₁ m₂ e₂ / m₂).log2 + 1) * 2 ^ (m₂.log2 + 1) :=
          Nat.mul_le_mul Nat.lt_log2_self Nat.lt_log2_self.le
      _ = 2 ^ ((numerator m₁ e₁ m₂ e₂ / m₂).log2 + m₂.log2 + 2) := by
          rw [← pow_add]
          congr 1
          omega
  obtain ⟨n, d, hn, hrounded, hcanonical, -⟩ := exists_rounded_finite (s₁ / s₂)
    (accuracyOfFraction (numerator m₁ e₁ m₂ e₂ % m₂) m₂) (e := quotientExponent m₁ e₁ m₂ e₂) hpos
    (by rw [quotientExponent]; omega) (.inl hlong)
  exact ⟨n, d, hn, by rw [div_finite, hrounded], hcanonical⟩

/-- **When a quotient of whole numbers becomes zero**: if it is at most half of the least
double. -/
lemma quotient_zero_or_finite (h₁ : 0 < m₁) (h₂ : 0 < m₂) :
    (2 * (m₁ * 2 ^ 1074) ≤ m₂ →
      UnpackedFloat.div .binary64 (.finite .positive m₁ 0 h₁) (.finite .positive m₂ 0 h₂)
        = .zero .positive)
    ∧ (m₂ < 2 * (m₁ * 2 ^ 1074) → ∃ (n : ℕ) (d : ℤ) (hn : 0 < n),
        UnpackedFloat.div .binary64 (.finite .positive m₁ 0 h₁) (.finite .positive m₂ 0 h₂)
          = .finite .positive n d hn
        ∧ Canonical n d) := by
  obtain hplace | hplace := le_or_gt (-1021) ((m₁.log2 : ℤ) - m₂.log2)
  · -- the leading digit of the quotient does not even stand near the least exponent
    refine ⟨?_, fun _ => exists_quotient_finite _ _ h₁ h₂ (by omega)⟩
    intro hle
    have hlt : m₂ < m₁ * 2 ^ 1074 := by
      calc m₂ < 2 ^ (m₂.log2 + 1) := Nat.lt_log2_self
        _ ≤ 2 ^ (m₁.log2 + 1074) := Nat.pow_le_pow_right (by norm_num) (by omega)
        _ = 2 ^ m₁.log2 * 2 ^ 1074 := pow_add 2 _ _
        _ ≤ m₁ * 2 ^ 1074 := Nat.mul_le_mul_right _ (Nat.log2_self_le h₁.ne')
    omega
  have hexponent : quotientExponent m₁ 0 m₂ 0 = -1074 := by
    rw [quotientExponent]
    omega
  have hnumerator : numerator m₁ 0 m₂ 0 = m₁ * 2 ^ 1074 := by
    rw [numerator, hexponent, show ((0 : ℤ) - 0 - -1074).toNat = 1074 from rfl]
  rw [div_finite, hexponent, hnumerator]
  obtain hzero | hpos := Nat.eq_zero_or_pos (m₁ * 2 ^ 1074 / m₂)
  · have hlt : m₁ * 2 ^ 1074 < m₂ := (Nat.div_eq_zero_iff_lt h₂).mp hzero
    have haccuracy : accuracyOfFraction (m₁ * 2 ^ 1074 % m₂) m₂
        = .inexact (compare (2 * (m₁ * 2 ^ 1074)) m₂) := by
      rw [Nat.mod_eq_of_lt hlt, accuracyOfFraction, if_neg (by positivity)]
    rw [hzero, haccuracy]
    refine ⟨?_, ?_⟩
    · intro hle
      exact rounded_below_half _ (Nat.compare_ne_gt.mpr hle)
    · intro hgt
      rw [Nat.compare_eq_gt.mpr hgt]
      exact ⟨1, -1074, Nat.one_pos, rounded_above_half _, by norm_num, le_rfl, .inr rfl⟩
  · have hge : m₂ ≤ m₁ * 2 ^ 1074 := (Nat.div_pos_iff.mp hpos).2
    obtain ⟨n, d, hn, hrounded, hcanonical, -⟩ := exists_rounded_finite .positive
      (accuracyOfFraction (m₁ * 2 ^ 1074 % m₂) m₂) hpos (e := -1074) (by omega) (.inr le_rfl)
    exact ⟨fun hle => by omega, fun _ => ⟨n, d, hn, hrounded, hcanonical⟩⟩

end Quotients

end Reckoner.Binary64
