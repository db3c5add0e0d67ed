import Reckoner.Decimal.Division
import Reckoner.Proofs.Decimal.Magnitude
import Reckoner.Proofs.Decimal.Significant

/-!
Quotients of decimals.

The numerator is scaled up so far that the whole part of the quotient is longer than the digits
asked for. Digits of the whole part are then taken off, and what is left depends on the whole part
only: the digit that stands for a remainder is among those taken off, and never the first of
them. So the quotient of the numbers is rounded once, although the calculation cuts off and rounds.

* `Decimal.IsTrimmed`, `Decimal.toRat_trimmed`: no trailing zeros after the point;
* `Decimal.shortened`, `Decimal.withDigits_withSign`: digits taken off a number with a sign;
* `Decimal.DivisibleBy`: the operands whose quotient does not leave the range of scales;
* `Decimal.unrounded_eq`, `Decimal.digitCount_wholeQuotient`: the whole part, and its length;
* `Decimal.withDigits_unrounded`, `Decimal.toRat_div`: the rounded quotient, and its value;
* `Decimal.shortenedTo_mono`: the digits of a larger number are no smaller.
-/

namespace Reckoner

namespace Decimal

/-! ### Scales as integers -/

/-- A decimal whose scale is given as an integer, and wraps around as scales do. -/
def atScale (u s : ℤ) : Decimal := ⟨u, .ofInt s⟩

@[simp] lemma unscaled_atScale (u s : ℤ) : (atScale u s).unscaled = u := rfl

@[simp] lemma scale_atScale (u s : ℤ) : (atScale u s).scale = .ofInt s := rfl

lemma toRat_atScale {s : ℤ} (hlow : -2 ^ 63 ≤ s) (hhigh : s < 2 ^ 63) (u : ℤ) :
    (atScale u s).toRat = u * 10 ^ (-s) := by
  rw [toRat, atScale, Int64.toInt_ofInt_of_le hlow hhigh]

/-! ### Trailing zeros -/

/-- A decimal is trimmed if its scale is not negative and no zero can be taken off after the
point. -/
structure IsTrimmed (a : Decimal) : Prop where
  scale_nonneg : 0 ≤ a.scale.toInt
  not_dvd : 0 < a.scale.toInt → ¬ 10 ∣ a.unscaled

/-- Stripping takes off all trailing zeros and lowers the scale by their number. -/
lemma exists_stripZeros {u : ℤ} (hu : u ≠ 0) (s : Int64) :
    ∃ (v : ℤ) (z : ℕ), stripZeros u s = ⟨v, s - .ofNat z⟩ ∧ u = v * 10 ^ z ∧ ¬ 10 ∣ v := by
  fun_induction stripZeros u s with
  | case1 u s h ih =>
      have hdvd : u = u.tdiv 10 * 10 := by
        have := Int.tmod_add_mul_tdiv u 10
        omega
      obtain ⟨v, z, hstrip, hv, hnot⟩ := ih (by omega)
      refine ⟨v, z + 1, ?_, ?_, hnot⟩
      · rw [hstrip, ← Int64.ofInt_eq_ofNat, ← Int64.ofInt_eq_ofNat, Nat.cast_succ, add_comm,
          Int64.ofInt_add, Int64.sub_sub]
        rfl
      · rw [pow_succ, ← mul_assoc, ← hv]
        exact hdvd
  | case2 u s h =>
      refine ⟨u, 0, by simp, by simp, ?_⟩
      rw [Int.dvd_iff_tmod_eq_zero]
      exact fun hzero => h ⟨hu, hzero⟩

/-- Whatever is trimmed has no trailing zero after the point, and its scale is not negative. -/
lemma isTrimmed_trimmed (a : Decimal) : a.trimmed.IsTrimmed := by
  have hnegative (b : Decimal) (h : ¬ b.scale < 0) : 0 ≤ b.scale.toInt := by
    rw [Int64.lt_iff_toInt_lt, Int64.toInt_zero] at h
    omega
  have hstripped : a.stripped = ⟨0, 0⟩ ∨ ¬ 10 ∣ a.stripped.unscaled := by
    rw [stripped]
    split
    · exact .inl rfl
    · next hu =>
      obtain ⟨v, z, hstrip, -, hnot⟩ := exists_stripZeros hu a.scale
      exact .inr (by rwa [hstrip])
  simp only [trimmed]
  split
  · exact ⟨Int.le_refl 0, fun h => absurd h (Int.lt_irrefl 0)⟩
  · next h =>
    refine ⟨hnegative _ h, fun hscale => ?_⟩
    obtain hzero | hnot := hstripped
    · rw [hzero] at hscale
      exact absurd hscale (Int.lt_irrefl 0)
    · exact hnot

/-- A number of no more than `p` digits is the same number when it is trimmed, as long as its
scale stays in range when so many zeros are taken off. -/
lemma toRat_trimmed {u s : ℤ} {p : ℕ} (hu : u.natAbs ≤ 10 ^ p) (hlow : -2 ^ 63 ≤ s - p)
    (hhigh : s < 2 ^ 63) : (atScale u s).trimmed.toRat = u * 10 ^ (-s) := by
  have hstripped : (atScale u s).stripped.toRat = u * 10 ^ (-s) := by
    rw [stripped, unscaled_atScale, scale_atScale]
    split
    · next hzero => simp [toRat, hzero]
    · next hzero =>
      obtain ⟨v, z, hstrip, rfl, hnot⟩ := exists_stripZeros hzero (.ofInt s)
      have hz : z ≤ p := by
        have hv : v ≠ 0 := by
          rintro rfl
          exact hnot (dvd_zero 10)
        have hle : 10 ^ z ≤ 10 ^ p := by
          calc 10 ^ z ≤ v.natAbs * 10 ^ z := Nat.le_mul_of_pos_left _ (Int.natAbs_pos.mpr hv)
            _ = (v * 10 ^ z).natAbs := by rw [Int.natAbs_mul, Int.natAbs_pow]; rfl
            _ ≤ 10 ^ p := hu
        exact (Nat.pow_le_pow_iff_right (by norm_num)).mp hle
      have hscale : stripZeros (v * 10 ^ z) (.ofInt s) = atScale v (s - z) := by
        rw [hstrip, atScale, Int64.ofInt_sub, Int64.ofInt_eq_ofNat]
      rw [hscale, toRat_atScale (by omega) (by omega), neg_sub, sub_eq_add_neg,
        zpow_add₀ (by norm_num), zpow_natCast, ← mul_assoc]
      push_cast
      rfl
  simp only [trimmed]
  split
  · next h =>
    rw [Int64.lt_iff_toInt_lt] at h
    rw [← hstripped, toRat_eq_unscaledAt h.le]
    rfl
  · exact hstripped

/-- Trimmed decimals are the same if they are the same number. -/
lemma IsTrimmed.eq_of_toRat {a b : Decimal} (ha : a.IsTrimmed) (hb : b.IsTrimmed)
    (h : a.toRat = b.toRat) : a = b := by
  wlog hle : a.scale.toInt ≤ b.scale.toInt generalizing a b
  · exact (this hb ha h.symm (Int.le_of_lt (Int.not_le.mp hle))).symm
  have hpower : (10 : ℚ) ^ (-b.scale.toInt) ≠ 0 := zpow_ne_zero _ (by norm_num)
  have hunscaled : a.unscaledAt b.scale = b.unscaled := by
    rw [toRat_eq_unscaledAt hle, toRat, mul_left_inj' hpower] at h
    exact_mod_cast h
  rw [unscaledAt_eq] at hunscaled
  have hscale : a.scale.toInt = b.scale.toInt := by
    by_contra hne
    obtain ⟨z, hz⟩ : ∃ z, (b.scale.toInt - a.scale.toInt).toNat = z + 1 :=
      ⟨(b.scale.toInt - a.scale.toInt).toNat - 1, by omega⟩
    have hpos := ha.scale_nonneg
    refine hb.not_dvd (by omega) ⟨a.unscaled * 10 ^ z, ?_⟩
    rw [← hunscaled, hz]
    ring
  rw [hscale, sub_self, Int.toNat_zero, pow_zero, mul_one] at hunscaled
  cases a
  cases b
  simp only [Decimal.mk.injEq]
  exact ⟨hunscaled, Int64.toInt_inj.mp hscale⟩

/-! ### Digits that are taken off -/

/-- Adding half of a unit before cutting off goes up where half of it or more is cut off. -/
lemma add_half_div (m : ℕ) {h : ℕ} (hpos : 0 < h) :
    (m + h) / (2 * h) = m / (2 * h) + if 2 * h ≤ 2 * (m % (2 * h)) then 1 else 0 := by
  have hlt : m % (2 * h) < 2 * h := Nat.mod_lt _ (by omega)
  have hsum : m + h = m % (2 * h) + h + 2 * h * (m / (2 * h)) := by
    have := Nat.mod_add_div m (2 * h)
    omega
  rw [hsum, Nat.add_mul_div_left _ _ (by omega), add_comm]
  congr 1
  split
  · exact Nat.div_eq_of_lt_le (by omega) (by omega)
  · exact Nat.div_eq_of_lt (by omega)

lemma ten_pow_eq {j : ℕ} (hj : 0 < j) : 10 ^ j = 2 * (5 * 10 ^ (j - 1)) := by
  obtain ⟨i, rfl⟩ : ∃ i, j = i + 1 := ⟨j - 1, by omega⟩
  rw [Nat.add_sub_cancel, pow_succ]
  ring

/-- What is left of the digits of a number when `j` of them are taken off. A positive number is
rounded, a half going up, and a negative one is cut off. -/
def shortened (negative : Bool) (m j : ℕ) : ℤ :=
  if negative then -(m / 10 ^ j : ℕ) else ((m + 5 * 10 ^ (j - 1)) / 10 ^ j : ℕ)

/-- A digit that stands for a remainder is taken off without changing what is left, if a digit
before it is taken off as well. -/
lemma shortened_sticky (negative : Bool) (m : ℕ) {j : ℕ} (hj : 0 < j) :
    shortened negative (m * 10 + 1) (j + 1) = shortened negative m j := by
  have hcut (n : ℕ) : (n * 10 + 1) / 10 ^ (j + 1) = n / 10 ^ j := by
    rw [pow_succ', ← Nat.div_div_eq_div_mul]
    congr 1
    omega
  have hround : (m * 10 + 1 + 5 * 10 ^ (j + 1 - 1)) / 10 ^ (j + 1)
      = (m + 5 * 10 ^ (j - 1)) / 10 ^ j := by
    rw [← hcut, Nat.add_sub_cancel, ten_pow_eq hj]
    congr 1
    omega
  rw [shortened, shortened, hcut, hround]

/-- What is left of a number is no longer than the digits that were not taken off, except that it
may be rounded up to the power of ten. -/
lemma natAbs_shortened (negative : Bool) {m p j : ℕ} (hj : 0 < j) (hm : m < 10 ^ (p + j)) :
    (shortened negative m j).natAbs ≤ 10 ^ p := by
  have hpos : 0 < 10 ^ j := Nat.pow_pos (by norm_num)
  have hround : (m + 5 * 10 ^ (j - 1)) / 10 ^ j ≤ 10 ^ p := by
    rw [← Nat.lt_succ_iff, Nat.div_lt_iff_lt_mul hpos]
    calc m + 5 * 10 ^ (j - 1) < 10 ^ (p + j) + 10 ^ j := by
          have := ten_pow_eq hj
          omega
      _ = (10 ^ p + 1) * 10 ^ j := by rw [pow_add, add_one_mul]
  cases negative with
  | false => exact hround
  | true =>
      calc (-(m / 10 ^ j : ℕ) : ℤ).natAbs
        _ = m / 10 ^ j := by rw [Int.natAbs_neg, Int.natAbs_natCast]
        _ ≤ (m + 5 * 10 ^ (j - 1)) / 10 ^ j := Nat.div_le_div_right (Nat.le_add_right m _)
        _ ≤ 10 ^ p := hround

/-- Of the whole part of a magnitude is left what the magnitude is rounded to, or cut off to. -/
lemma shortened_scaled (negative : Bool) {p j : ℕ} {y : ℚ} (hp : 0 < p) (hj : 0 < j)
    (hlow : 10 ^ (p + j - 1) ≤ y) (hhigh : y < 10 ^ (p + j)) (s : ℤ) :
    (shortened negative ⌊y⌋₊ j : ℚ) * 10 ^ (-(s - j))
      = if negative then -cutTo p (y * 10 ^ (-s)) else roundedTo p (y * 10 ^ (-s)) := by
  rw [cutTo_scaled hp hlow hhigh, roundedTo_scaled hp hj hlow hhigh, neg_sub]
  cases negative with
  | false => rw [shortened, if_neg Bool.false_ne_true, if_neg Bool.false_ne_true, Int.cast_natCast]
  | true => rw [shortened, if_pos rfl, if_pos rfl, Int.cast_neg, Int.cast_natCast, neg_mul]

/-- A number with a sign. -/
def withSign (negative : Bool) (m : ℕ) : ℤ := if negative then -m else m

lemma natAbs_withSign (negative : Bool) (m : ℕ) : (withSign negative m).natAbs = m := by
  cases negative <;> simp [withSign]

/-- `j` digits more than asked for are taken off. -/
lemma withDigits_withSign (negative : Bool) {m p j : ℕ} (hm : digitCount m = p + j) (hj : 0 < j)
    (s : ℤ) :
    withDigits (atScale (withSign negative m) s) p = atScale (shortened negative m j) (s - j) := by
  have hpow : Int.pow 10 j = (10 ^ j : ℕ) := by
    rw [Int.pow_eq]
    push_cast
    rfl
  have hscale : Int64.ofInt s - .ofNat j = .ofInt (s - j) := by
    rw [Int64.ofInt_sub, Int64.ofInt_eq_ofNat]
  have hround := add_half_div m (h := 5 * 10 ^ (j - 1)) (by positivity)
  rw [← ten_pow_eq hj] at hround
  simp only [withDigits, unscaled_atScale, scale_atScale, natAbs_withSign, hm, roundsUp]
  rw [if_pos (by omega), Nat.add_sub_cancel_left, hpow, hscale, atScale]
  congr 1
  cases negative with
  | false =>
      simp only [withSign, shortened, Bool.false_eq_true, if_false, ← Int.ofNat_tdiv,
        ← Int.ofNat_tmod, decide_eq_true_iff]
      rw [hround]
      norm_cast
      split <;> rfl
  | true =>
      have hpos : 0 < 10 ^ j := Nat.pow_pos (by norm_num)
      simp only [withSign, shortened, if_true, Int.neg_tdiv, Int.neg_tmod, ← Int.ofNat_tdiv,
        ← Int.ofNat_tmod, decide_eq_true_iff]
      rw [if_neg (by omega)]

/-! ### Places -/

/-- The number of significant digits that a quotient is asked for: at least one. -/
def quotientDigits (precision : UInt64) : ℕ := max precision.toNat 1

lemma quotientDigits_pos (precision : UInt64) : 0 < quotientDigits precision :=
  Nat.lt_of_lt_of_le Nat.one_pos (le_max_right _ 1)

lemma toNat_max_one (precision : UInt64) : (max precision 1).toNat = quotientDigits precision := by
  show (if precision ≤ 1 then (1 : UInt64) else precision).toNat = max precision.toNat 1
  split
  · next h =>
    rw [UInt64.le_iff_toNat_le] at h
    exact (max_eq_right h).symm
  · next h =>
    rw [UInt64.le_iff_toNat_le] at h
    exact (max_eq_left (Nat.le_of_not_le h)).symm

/-- How much longer the numerator has to be for two digits more than a quotient is asked for. It is
negative if the numerator is longer than that already. -/
def wantedPlaces (p : ℕ) (num den : ℤ) : ℤ :=
  p + digitCount den.natAbs - digitCount num.natAbs + 2

/-- The numerator is scaled up by the wanted places, as far as the sum does not overflow. -/
lemma toInt_shift_eq_bmod (precision : UInt64) (num den : ℤ) :
    (shift precision num den).toInt
      = max 0 ((wantedPlaces precision.toNat num den).bmod (2 ^ 64)) := by
  have hsum :
      precision.toInt64 + .ofNat (digitCount den.natAbs) - .ofNat (digitCount num.natAbs) + 2
        = .ofInt (wantedPlaces precision.toNat num den) := by
    have hprecision : precision.toInt64 = .ofNat precision.toNat := by
      rw [← UInt64.toInt64_ofNat', UInt64.ofNat_toNat]
    rw [hprecision, wantedPlaces, Int64.ofInt_add, Int64.ofInt_sub, Int64.ofInt_add,
      Int64.ofInt_eq_ofNat, Int64.ofInt_eq_ofNat, Int64.ofInt_eq_ofNat]
    rfl
  have htoInt : (Int64.ofInt (wantedPlaces precision.toNat num den)).toInt
      = (wantedPlaces precision.toNat num den).bmod (2 ^ 64) := Int64.toInt_ofInt
  rw [shift, hsum]
  split
  · next h =>
    rw [Int64.lt_iff_toInt_lt, htoInt, Int64.toInt_zero] at h
    rw [Int64.toInt_zero]
    exact (max_eq_left h.le).symm
  · next h =>
    rw [Int64.lt_iff_toInt_lt, htoInt, Int64.toInt_zero, not_lt] at h
    rw [htoInt]
    exact (max_eq_right h).symm

/-- As long as the sum does not overflow, the numerator is scaled up by the wanted places. -/
lemma toInt_shift {precision : UInt64} {num den : ℤ}
    (hlow : -2 ^ 63 ≤ wantedPlaces precision.toNat num den)
    (hhigh : wantedPlaces precision.toNat num den < 2 ^ 63) :
    (shift precision num den).toInt = max 0 (wantedPlaces precision.toNat num den) := by
  rw [toInt_shift_eq_bmod, Int.bmod_eq_of_le (by omega) (by omega)]

/-! ### The quotient before it is rounded -/

/-- Of two integers, exactly one is negative. -/
def opposed (m n : ℤ) : Bool := decide (m < 0) != decide (n < 0)

/-- A quotient that is cut off is that of the magnitudes, with a sign. -/
lemma tdiv_eq_withSign (m n : ℤ) : m.tdiv n = withSign (opposed m n) (m.natAbs / n.natAbs) := by
  have hsigned (k : ℤ) : k = if k < 0 then -(k.natAbs : ℤ) else k.natAbs := by
    split <;> omega
  by_cases hm : m < 0 <;> by_cases hn : n < 0
  all_goals
    conv_lhs => rw [hsigned m, hsigned n]
    simp [opposed, withSign, hm, hn, Int.tdiv_eq_ediv_of_nonneg]

lemma sticky_eq_withSign (m n : ℤ) : sticky m n = withSign (opposed m n) 1 := rfl

lemma withSign_mul_add (negative : Bool) (m : ℕ) :
    withSign negative m * 10 + withSign negative 1 = withSign negative (m * 10 + 1) := by
  cases negative
  · simp [withSign]
  · simp only [withSign, if_true]
    push_cast
    ring

lemma opposed_mul_pow (m n : ℤ) (k : ℕ) : opposed (m * 10 ^ k) n = opposed m n := by
  have hten : (0 : ℤ) < 10 ^ k := by positivity
  have hsign : m * 10 ^ k < 0 ↔ m < 0 := by
    rw [← not_le, ← not_le, mul_nonneg_iff_of_pos_right hten]
  rw [opposed, opposed, decide_eq_decide.mpr hsign]

/-- The quotient before it is rounded: cut off after so many places, with one digit more if that
leaves a remainder. -/
def unrounded (a b : Decimal) (precision : UInt64) : Decimal :=
  let places := shift precision a.unscaled b.unscaled
  let scaled := a.unscaled * Int.pow 10 (scalingPlaces places)
  let quotient := scaled.tdiv b.unscaled
  let scale := a.scale - b.scale + places
  if scaled.tmod b.unscaled = 0 then ⟨quotient, scale⟩
  else ⟨quotient * 10 + sticky a.unscaled b.unscaled, scale + 1⟩

lemma div_eq (a b : Decimal) (precision : UInt64) :
    a.div b precision
      = (withDigits (unrounded a b (max precision 1)) (quotientDigits precision)).trimmed := by
  rw [← toNat_max_one]
  rfl

/-- The sums of digits and scales that a quotient takes stay in range: that of the places within
32 bits, the others within 64. -/
structure DivisibleBy (a b : Decimal) (precision : UInt64) : Prop where
  places_ge : -2 ^ 63 ≤ wantedPlaces (quotientDigits precision) a.unscaled b.unscaled
  places_lt : wantedPlaces (quotientDigits precision) a.unscaled b.unscaled < 2 ^ 32
  scale_ge : -2 ^ 63 ≤ b.leadingPlace - a.leadingPlace - 1
  scale_lt : quotientDigits precision + b.leadingPlace - a.leadingPlace < 2 ^ 63

section Quotients

variable {a b : Decimal} {precision : UInt64}

/-- The places that the numerator is scaled up by. -/
def numeratorPlaces (a b : Decimal) (precision : UInt64) : ℕ :=
  (wantedPlaces (quotientDigits precision) a.unscaled b.unscaled).toNat

/-- The whole part of the quotient of the magnitudes, when the numerator is scaled up. -/
def wholeQuotient (a b : Decimal) (precision : UInt64) : ℕ :=
  a.unscaled.natAbs * 10 ^ numeratorPlaces a b precision / b.unscaled.natAbs

/-- The scale of the whole part. -/
def quotientScale (a b : Decimal) (precision : UInt64) : ℤ :=
  a.scale.toInt - b.scale.toInt + numeratorPlaces a b precision

lemma unrounded_eq (h : a.DivisibleBy b precision) :
    unrounded a b (max precision 1)
      = if b.unscaled.natAbs ∣ a.unscaled.natAbs * 10 ^ numeratorPlaces a b precision then
          atScale (withSign (opposed a.unscaled b.unscaled) (wholeQuotient a b precision))
            (quotientScale a b precision)
        else
          atScale (withSign (opposed a.unscaled b.unscaled) (wholeQuotient a b precision * 10 + 1))
            (quotientScale a b precision + 1) := by
  have hshift :
      (shift (max precision 1) a.unscaled b.unscaled).toInt = numeratorPlaces a b precision := by
    have hlt := h.places_lt
    have hge := h.places_ge
    rw [← toNat_max_one] at hlt hge
    rw [toInt_shift hge (by omega), numeratorPlaces, ← toNat_max_one, Int.toNat_eq_max, max_comm]
  have hplaces : scalingPlaces (shift (max precision 1) a.unscaled b.unscaled)
      = numeratorPlaces a b precision := by
    have hlt := h.places_lt
    rw [scalingPlaces, hshift, Int.toNat_natCast]
    refine Nat.mod_eq_of_lt ?_
    rw [numeratorPlaces, UInt32.size]
    omega
  have hscale : a.scale - b.scale + shift (max precision 1) a.unscaled b.unscaled
      = .ofInt (quotientScale a b precision) := by
    rw [quotientScale, ← hshift, Int64.ofInt_add, Int64.ofInt_sub, Int64.ofInt_toInt,
      Int64.ofInt_toInt, Int64.ofInt_toInt]
  have hquotient : (a.unscaled * 10 ^ numeratorPlaces a b precision).tdiv b.unscaled
      = withSign (opposed a.unscaled b.unscaled) (wholeQuotient a b precision) := by
    rw [tdiv_eq_withSign, opposed_mul_pow, wholeQuotient, Int.natAbs_mul, Int.natAbs_pow]
    rfl
  have hexact : (a.unscaled * 10 ^ numeratorPlaces a b precision).tmod b.unscaled = 0
      ↔ b.unscaled.natAbs ∣ a.unscaled.natAbs * 10 ^ numeratorPlaces a b precision := by
    rw [← Int.dvd_iff_tmod_eq_zero, ← Int.natAbs_dvd_natAbs, Int.natAbs_mul, Int.natAbs_pow]
    rfl
  simp only [unrounded, hplaces, hscale, Int.pow_eq, hquotient, hexact]
  split
  · rfl
  · rw [sticky_eq_withSign, withSign_mul_add, atScale, Int64.ofInt_add]
    rfl

lemma length_scaled (ha : a.unscaled ≠ 0) :
    digitCount (a.unscaled.natAbs * 10 ^ numeratorPlaces a b precision)
      = digitCount a.unscaled.natAbs + numeratorPlaces a b precision :=
  digitCount_mul_ten_pow_add (Int.natAbs_pos.mpr ha) (r := 0) (Nat.pow_pos (by norm_num))

/-- The numerator is scaled up so far that the whole part of the quotient has two digits more than
asked for, or three. -/
lemma digitCount_wholeQuotient (precision : UInt64) (ha : a.unscaled ≠ 0)
    (hb : b.unscaled ≠ 0) :
    let p := quotientDigits precision
    let s := quotientScale a b precision
    ∃ j, 0 < j ∧ digitCount (wholeQuotient a b precision) = p + j
      ∧ b.leadingPlace - a.leadingPlace - 1 ≤ s - j - p
      ∧ s - j ≤ p + b.leadingPlace - a.leadingPlace := by
  unfold quotientScale
  have hplaces : (quotientDigits precision : ℤ) + digitCount b.unscaled.natAbs + 2
      ≤ digitCount a.unscaled.natAbs + numeratorPlaces a b precision := by
    rw [numeratorPlaces, wantedPlaces]
    omega
  have hscaled : 0 < a.unscaled.natAbs * 10 ^ numeratorPlaces a b precision :=
    Nat.mul_pos (Int.natAbs_pos.mpr ha) (Nat.pow_pos (by norm_num))
  have hlength := digitCount_div hscaled (Int.natAbs_pos.mpr hb)
    (by rw [length_scaled ha]; omega)
  rw [length_scaled ha, ← wholeQuotient] at hlength
  refine ⟨digitCount (wholeQuotient a b precision) - quotientDigits precision, ?_, ?_, ?_, ?_⟩
  · omega
  · omega
  · rw [leadingPlace, leadingPlace]
    omega
  · rw [leadingPlace, leadingPlace]
    omega

/-- **The rounded quotient** is what is left of the whole part, whether or not there is a
remainder. -/
lemma withDigits_unrounded (h : a.DivisibleBy b precision) {j : ℕ} (hj : 0 < j)
    (hlength : digitCount (wholeQuotient a b precision) = quotientDigits precision + j) :
    withDigits (unrounded a b (max precision 1)) (quotientDigits precision)
      = atScale (shortened (opposed a.unscaled b.unscaled) (wholeQuotient a b precision) j)
          (quotientScale a b precision - j) := by
  have hdigits := quotientDigits_pos precision
  have hpos : 0 < wholeQuotient a b precision := pos_of_one_lt_digitCount (by omega)
  rw [unrounded_eq h]
  split
  · exact withDigits_withSign _ hlength hj _
  · have hsticky : digitCount (wholeQuotient a b precision * 10 + 1)
        = quotientDigits precision + (j + 1) := by
      rw [← add_assoc, ← hlength]
      exact digitCount_mul_ten_pow_add (k := 1) hpos (by norm_num)
    rw [withDigits_withSign _ hsticky (Nat.succ_pos j), shortened_sticky _ _ hj]
    congr 1
    push_cast
    ring

/-- The quotient of the magnitudes, when the numerator is scaled up. -/
def magnitude (a b : Decimal) (precision : UInt64) : ℚ :=
  (a.unscaled.natAbs * 10 ^ numeratorPlaces a b precision : ℕ) / b.unscaled.natAbs

lemma magnitude_nonneg : 0 ≤ magnitude a b precision := by
  rw [magnitude]
  positivity

lemma floor_magnitude : ⌊magnitude a b precision⌋₊ = wholeQuotient a b precision := by
  rw [magnitude, Nat.floor_div_eq_div, wholeQuotient]

lemma abs_div_toRat (a b : Decimal) (precision : UInt64) :
    |a.toRat / b.toRat| = magnitude a b precision * 10 ^ (-quotientScale a b precision) := by
  have hscale : -quotientScale a b precision
      = -a.scale.toInt - -b.scale.toInt - numeratorPlaces a b precision := by
    rw [quotientScale]
    ring
  rw [abs_div, abs_toRat, abs_toRat, hscale, zpow_sub₀ (by norm_num), zpow_sub₀ (by norm_num),
    zpow_natCast, magnitude]
  push_cast
  field_simp

/-- The quotient is negative if exactly one of the unscaled integers is. -/
lemma opposed_iff (ha : a.unscaled ≠ 0) (hb : b.unscaled ≠ 0) :
    opposed a.unscaled b.unscaled = true ↔ ¬ 0 ≤ a.toRat / b.toRat := by
  have hten (c : Decimal) : (0 : ℚ) < 10 ^ (-c.scale.toInt) := by positivity
  have hpos (c : Decimal) : 0 < c.toRat ↔ 0 < c.unscaled := by
    rw [toRat, mul_pos_iff_of_pos_right (hten c), Int.cast_pos]
  have hneg (c : Decimal) : c.toRat < 0 ↔ c.unscaled < 0 := by
    rw [← not_le, toRat, mul_nonneg_iff_of_pos_right (hten c), Int.cast_nonneg_iff, not_le]
  rw [not_le, div_neg_iff, hpos, hneg, hneg, hpos, opposed, bne_iff_ne, ne_eq, decide_eq_decide]
  omega

lemma div_of_unscaled_eq_zero (ha : a.unscaled = 0) : (a.div b precision).toRat = 0 := by
  have hwithDigits (c : Decimal) (p : ℕ) (hc : c.unscaled = 0) : (withDigits c p).unscaled = 0 := by
    simp only [withDigits, hc]
    split
    · simp [roundsUp]
    · split <;> simp [hc]
  have htrimmed (c : Decimal) (hc : c.unscaled = 0) : c.trimmed = ⟨0, 0⟩ := by
    simp [trimmed, stripped, hc]
  have hunrounded : (unrounded a b (max precision 1)).unscaled = 0 := by
    simp [unrounded, ha]
  rw [div_eq, htrimmed _ (hwithDigits _ _ hunrounded), toRat_eq_zero]

lemma isTrimmed_div (a b : Decimal) (precision : UInt64) : (a.div b precision).IsTrimmed := by
  rw [div_eq]
  exact isTrimmed_trimmed _

/-- A number to `p` significant digits: one that is not negative is rounded, and a negative one is
cut off. -/
def shortenedTo (p : ℕ) (x : ℚ) : ℚ := if 0 ≤ x then roundedTo p |x| else -cutTo p |x|

/-- A larger number is no smaller to its first digits, although a negative one is cut off and the
others are rounded. -/
lemma shortenedTo_mono {p : ℕ} {x y : ℚ} (hp : 0 < p) (hxy : x ≤ y) :
    shortenedTo p x ≤ shortenedTo p y := by
  obtain hx | hx := le_or_gt 0 x
  · rw [shortenedTo, shortenedTo, if_pos hx, if_pos (hx.trans hxy)]
    exact roundedTo_mono hp (abs_nonneg x) (abs_le_abs_of_nonneg hx hxy)
  obtain hy | hy := le_or_gt 0 y
  · calc shortenedTo p x = -cutTo p |x| := if_neg hx.not_ge
      _ ≤ 0 := neg_nonpos.mpr (cutTo_nonneg (abs_nonneg x))
      _ ≤ roundedTo p |y| := roundedTo_nonneg (abs_nonneg y)
      _ = shortenedTo p y := (if_pos hy).symm
  · rw [shortenedTo, shortenedTo, if_neg hx.not_ge, if_neg hy.not_ge]
    exact neg_le_neg (cutTo_mono hp (abs_nonneg y) (abs_le_abs_of_nonpos hy.le hxy))

/-- **The value of a quotient** is the quotient of the values, to the digits asked for. -/
theorem toRat_div (hb : b.unscaled ≠ 0) (h : a.DivisibleBy b precision) :
    (a.div b precision).toRat = shortenedTo (quotientDigits precision) (a.toRat / b.toRat) := by
  obtain ha | ha := eq_or_ne a.unscaled 0
  · rw [div_of_unscaled_eq_zero ha, toRat_eq_zero.2 ha, zero_div, shortenedTo, if_pos le_rfl,
      abs_zero, roundedTo_zero]
  obtain ⟨j, hj, hlength, hlow, hhigh⟩ := digitCount_wholeQuotient precision ha hb
  have hscale := h.scale_ge
  have hscale' := h.scale_lt
  have hbelow : wholeQuotient a b precision < 10 ^ (quotientDigits precision + j) := by
    rw [← hlength]
    exact lt_ten_pow_digitCount _
  have habove : 10 ^ (quotientDigits precision + j - 1) ≤ wholeQuotient a b precision := by
    have := quotientDigits_pos precision
    exact ten_pow_le_of_lt_digitCount (pos_of_one_lt_digitCount (by omega)) (by omega)
  rw [← floor_magnitude] at hbelow habove
  have hhighRat := (Nat.floor_lt magnitude_nonneg).1 hbelow
  have hlowRat := (Nat.le_floor_iff magnitude_nonneg).1 habove
  push_cast at hhighRat hlowRat
  rw [div_eq, withDigits_unrounded h hj hlength, ← floor_magnitude,
    toRat_trimmed (natAbs_shortened _ hj hbelow) (by omega) (by omega),
    shortened_scaled _ (quotientDigits_pos precision) hj hlowRat hhighRat,
    shortenedTo, abs_div_toRat a b precision]
  by_cases hsign : 0 ≤ a.toRat / b.toRat
  · rw [if_pos hsign, if_neg]
    rwa [opposed_iff ha hb, not_not]
  · rw [if_neg hsign, if_pos]
    rwa [opposed_iff ha hb]

end Quotients

end Decimal

end Reckoner
