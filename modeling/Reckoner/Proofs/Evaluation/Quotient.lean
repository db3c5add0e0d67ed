import Reckoner.Proofs.Decimal.Scaling
import Reckoner.Proofs.Evaluation.Exact

/-!
Quotients of exact values.

A whole number or a decimal by another one is a decimal, trimmed to its shortest form. A quotient
that is not negative is rounded to the significant digits asked for. A negative one is cut off
after as many digits, so that turning the sign of an operand turns that of the quotient only if
cutting off and rounding agree. All of this holds as long as the places that are wanted for the
digits, at least one, fit in 32 bits.

* `arithmetic_div`: the quotient of two values, as one of decimals;
* `exists_rounded_quotient`: quotients that are not negative;
* `Value.negated`, `quotient_negated_iff`: quotients and their signs;
* `quotient_mono`: a larger dividend has no smaller quotient;
* `precision_honoured_iff`: how far a precision is honoured.
-/

namespace Reckoner

variable {v w : Value} {a b : Decimal} {precision : UInt64}

/-! ### Exact operands -/

/-- The quotient of two exact values is that of the decimals. -/
lemma arithmetic_div (hv : v.toDecimal? = some a) (hw : w.toDecimal? = some b)
    (hb : b.unscaled ≠ 0) (precision : UInt64) :
    arithmetic .div v w precision = .ok (.decimal (a.div b precision)) := by
  have hzero : (b.unscaled == 0) = false := beq_false_of_ne hb
  cases v with
  | integer m =>
      obtain rfl : .ofInt m = a := Option.some.inj hv
      cases w with
      | integer n =>
          obtain rfl : .ofInt n = b := Option.some.inj hw
          have hn : (n == 0) = false := hzero
          simp [arithmetic, promote, Value.isNumber, Operands.rightIsZero, hn, integerArithmetic]
      | decimal y =>
          obtain rfl : y = b := Option.some.inj hw
          simp [arithmetic, promote, Value.isNumber, Operands.rightIsZero, hzero, decimalArithmetic]
      | _ => simp [Value.toDecimal?] at hw
  | decimal x =>
      obtain rfl : x = a := Option.some.inj hv
      cases w with
      | integer n =>
          obtain rfl : .ofInt n = b := Option.some.inj hw
          simp [arithmetic, promote, Value.isNumber, Operands.rightIsZero, hzero, decimalArithmetic]
      | decimal y =>
          obtain rfl : y = b := Option.some.inj hw
          simp [arithmetic, promote, Value.isNumber, Operands.rightIsZero, hzero, decimalArithmetic]
      | _ => simp [Value.toDecimal?] at hw
  | _ => simp [Value.toDecimal?] at hv

/-- **A quotient that is not negative is rounded** to the significant digits asked for, at least
one, a half going up, and it is trimmed. One of no more digits is therefore exact. -/
theorem exists_rounded_quotient (hv : v.toDecimal? = some a) (hw : w.toDecimal? = some b)
    (hb : b.unscaled ≠ 0) (hsign : 0 ≤ a.toRat / b.toRat) (h : a.DivisibleBy b precision) :
    ∃ c, arithmetic .div v w precision = .ok (.decimal c) ∧ c.IsTrimmed
      ∧ c.toRat = roundedTo (Decimal.quotientDigits precision) (a.toRat / b.toRat)
      ∧ (HasDigits (Decimal.quotientDigits precision) (a.toRat / b.toRat)
          → c.toRat = a.toRat / b.toRat) := by
  have hvalue := Decimal.toRat_div hb h
  rw [Decimal.shortenedTo, if_pos hsign, abs_of_nonneg hsign] at hvalue
  refine ⟨a.div b precision, arithmetic_div hv hw hb precision, a.isTrimmed_div b precision,
    hvalue, ?_⟩
  intro hdigits
  rw [hvalue, roundedTo_of_hasDigits hdigits]

/-- The rounding of `999.95` to four digits carries into a new one. -/
theorem rounded_quotient_carry :
    Decimal.DivisibleBy ⟨99995, 2⟩ (.ofInt 1) 4 ∧
      ∃ c, arithmetic .div (.decimal ⟨99995, 2⟩) (.integer 1) 4 = .ok (.decimal c) ∧ c.IsTrimmed
        ∧ c.toRat = roundedTo 4 (999.95 / 1)
        ∧ (HasDigits 4 (999.95 / 1) → c.toRat = 999.95 / 1) := by
  have hscale : (2 : Int64).toInt = 2 := by decide
  have hleft : (⟨99995, 2⟩ : Decimal).toRat = 999.95 := by norm_num [Decimal.toRat, hscale]
  have hright : (Decimal.ofInt 1).toRat = 1 := by norm_num
  have hdivisible : Decimal.DivisibleBy ⟨99995, 2⟩ (.ofInt 1) 4 := by
    constructor <;> decide +kernel
  have hquotient := exists_rounded_quotient (v := .decimal ⟨99995, 2⟩) (w := .integer 1) rfl rfl
    (by decide) (by rw [hleft, hright]; norm_num) hdivisible
  rw [hleft, hright] at hquotient
  exact ⟨hdivisible, hquotient⟩

lemma wantedPlaces_one (p k : ℕ) : Decimal.wantedPlaces p 1 (10 ^ k) = p + k + 2 := by
  have hone : digitCount (1 : ℤ).natAbs = 1 := by decide
  rw [Decimal.wantedPlaces_ten_pow, hone]
  push_cast
  ring

/-- Where no digits are asked for, one is, and for it `2 ^ 32` places are wanted of one by
`10 ^ (2 ^ 32 - 3)`. Of these no place is left to scale one up by. -/
lemma one_div_ten_pow {k : ℕ} (hk : k + 3 = 2 ^ 32) :
    (Decimal.ofInt 1).div (.ofInt (10 ^ k)) 0 = ⟨1, 4294967297⟩ := by
  have hlt : (1 : ℤ) < 10 ^ k := one_lt_pow₀ (by norm_num) (by omega)
  have hdigits : Decimal.quotientDigits 0 = 1 := by decide
  have hwanted : Decimal.wantedPlaces (Decimal.quotientDigits 0) 1 (10 ^ k) = 2 ^ 32 * (1 : ℕ) := by
    rw [wantedPlaces_one, hdigits]
    omega
  have hscales : (Decimal.ofInt 1).scale.toInt - (Decimal.ofInt (10 ^ k)).scale.toInt = 0 := rfl
  have hdiv := Decimal.div_eq_remainder (a := .ofInt 1) (b := .ofInt (10 ^ k)) Int.one_pos hlt
    hwanted (by norm_num) (by rw [hscales]; norm_num) (by rw [hscales]; norm_num)
  rw [hdiv, hscales]
  rfl

lemma toRat_one_div_ten_pow : (⟨1, 4294967297⟩ : Decimal).toRat = 10 ^ (-4294967297 : ℤ) := by
  rw [Decimal.toRat, show (4294967297 : Int64).toInt = 4294967297 by decide, Int.cast_one, one_mul]

/-- **One digit more is needed than is asked for** where none is. One by `10 ^ 4294967293` wants
`2 ^ 32 - 1` places without that digit, which fit in 32 bits, and is a number of one digit. It is
given as a smaller power of ten nevertheless. -/
theorem rounded_quotient_without_digits :
    Decimal.wantedPlaces 0 1 (10 ^ 4294967293) < 2 ^ 32
      ∧ HasDigits 1 (1 / 10 ^ 4294967293)
      ∧ arithmetic .div (.integer 1) (.integer (10 ^ 4294967293)) 0
        = .ok (.decimal ⟨1, 4294967297⟩)
      ∧ (⟨1, 4294967297⟩ : Decimal).toRat ≠ roundedTo 1 (1 / 10 ^ 4294967293) := by
  have hpower : (1 : ℚ) / 10 ^ 4294967293 = 10 ^ (-4294967293 : ℤ) := by
    rw [one_div, zpow_neg]
    rfl
  have hdigits : HasDigits 1 (1 / 10 ^ 4294967293) :=
    ⟨1, -4294967293, by norm_num, by rw [hpower, Int.cast_one, one_mul]⟩
  have hnonzero : (10 : ℤ) ^ 4294967293 ≠ 0 := pow_ne_zero _ (by norm_num)
  refine ⟨?_, hdigits, ?_, ?_⟩
  · rw [wantedPlaces_one]
    norm_num
  · rw [arithmetic_div (a := .ofInt 1) (b := .ofInt (10 ^ 4294967293)) rfl rfl hnonzero,
      one_div_ten_pow (by norm_num)]
  · rw [roundedTo_of_hasDigits hdigits, hpower, toRat_one_div_ten_pow]
    exact (zpow_lt_zpow_right₀ (by norm_num) (by norm_num)).ne

/-! ### Signs -/

namespace Value

/-- A number with its sign turned, and any other value as it is. -/
def negated : Value → Value
  | integer value => integer (-value)
  | decimal value => decimal value.neg
  | real value => real (-value)
  | v => v

lemma toDecimal?_negated (hv : v.toDecimal? = some a) : v.negated.toDecimal? = some a.neg := by
  cases v with
  | integer m =>
      obtain rfl : .ofInt m = a := Option.some.inj hv
      rfl
  | decimal x =>
      obtain rfl : x = a := Option.some.inj hv
      rfl
  | _ => simp [toDecimal?] at hv

end Value

namespace Decimal

lemma leadingPlace_neg (a : Decimal) : a.neg.leadingPlace = a.leadingPlace := by
  rw [leadingPlace, neg, Int.natAbs_neg, leadingPlace]

lemma wantedPlaces_neg_left (p : ℕ) (m n : ℤ) : wantedPlaces p (-m) n = wantedPlaces p m n := by
  rw [wantedPlaces, wantedPlaces, Int.natAbs_neg]

lemma wantedPlaces_neg_right (p : ℕ) (m n : ℤ) : wantedPlaces p m (-n) = wantedPlaces p m n := by
  rw [wantedPlaces, wantedPlaces, Int.natAbs_neg]

/-- Only the lengths of the operands matter for the range of a quotient, not their signs. -/
lemma DivisibleBy.neg_left (h : a.DivisibleBy b precision) : a.neg.DivisibleBy b precision where
  places_ge := (wantedPlaces_neg_left _ a.unscaled _).symm ▸ h.places_ge
  places_lt := (wantedPlaces_neg_left _ a.unscaled _).symm ▸ h.places_lt
  scale_ge := (leadingPlace_neg a).symm ▸ h.scale_ge
  scale_lt := (leadingPlace_neg a).symm ▸ h.scale_lt

lemma DivisibleBy.neg_right (h : a.DivisibleBy b precision) : a.DivisibleBy b.neg precision where
  places_ge := (wantedPlaces_neg_right _ _ b.unscaled).symm ▸ h.places_ge
  places_lt := (wantedPlaces_neg_right _ _ b.unscaled).symm ▸ h.places_lt
  scale_ge := (leadingPlace_neg b).symm ▸ h.scale_ge
  scale_lt := (leadingPlace_neg b).symm ▸ h.scale_lt

lemma IsTrimmed.neg (h : a.IsTrimmed) : a.neg.IsTrimmed where
  scale_nonneg := h.scale_nonneg
  not_dvd hscale hdvd := h.not_dvd hscale (Int.dvd_neg.mp hdvd)

/-- Turning the sign of a number turns that of its digits if rounding and cutting off agree. -/
lemma shortenedTo_neg_iff (p : ℕ) (x : ℚ) :
    shortenedTo p (-x) = -shortenedTo p x ↔ roundedTo p |x| = cutTo p |x| := by
  obtain hneg | rfl | hpos := lt_trichotomy x 0
  · rw [shortenedTo, shortenedTo, if_pos (by linarith), if_neg (by linarith), abs_neg, neg_neg]
  · simp [shortenedTo]
  · rw [shortenedTo, shortenedTo, if_neg (by linarith), if_pos hpos.le, abs_neg, neg_inj, eq_comm]

end Decimal

/-- **Turning the sign of either operand** gives the same quotient. It is the first quotient with
its sign turned if and only if the magnitude ends up the same rounded and cut off, because of the
two quotients the negative one is cut off. -/
theorem quotient_negated_iff (hv : v.toDecimal? = some a) (hw : w.toDecimal? = some b)
    (hb : b.unscaled ≠ 0) (h : a.DivisibleBy b precision) :
    ∃ c d : Decimal,
      arithmetic .div v w precision = .ok (.decimal c)
      ∧ arithmetic .div v.negated w precision = .ok (.decimal d)
      ∧ arithmetic .div v w.negated precision = .ok (.decimal d)
      ∧ c.toRat = Decimal.shortenedTo (Decimal.quotientDigits precision) (a.toRat / b.toRat)
      ∧ d.toRat = Decimal.shortenedTo (Decimal.quotientDigits precision) (-(a.toRat / b.toRat))
      ∧ (d = c.neg ↔ roundedTo (Decimal.quotientDigits precision) |a.toRat / b.toRat|
          = cutTo (Decimal.quotientDigits precision) |a.toRat / b.toRat|) := by
  have hnegb : b.neg.unscaled ≠ 0 := neg_ne_zero.mpr hb
  have hvalue := Decimal.toRat_div hb h
  have hleft := Decimal.toRat_div hb h.neg_left
  have hright := Decimal.toRat_div hnegb h.neg_right
  rw [Decimal.toRat_neg, neg_div] at hleft
  rw [Decimal.toRat_neg, div_neg] at hright
  have hsame : a.div b.neg precision = a.neg.div b precision :=
    (a.isTrimmed_div _ precision).eq_of_toRat (a.neg.isTrimmed_div b precision)
      (hright.trans hleft.symm)
  refine ⟨a.div b precision, a.neg.div b precision, arithmetic_div hv hw hb precision,
    arithmetic_div (Value.toDecimal?_negated hv) hw hb precision, ?_, hvalue, hleft, ?_⟩
  · rw [← hsame]
    exact arithmetic_div hv (Value.toDecimal?_negated hw) hnegb precision
  · rw [← Decimal.shortenedTo_neg_iff, ← hleft, ← hvalue, ← Decimal.toRat_neg]
    constructor
    · exact congrArg Decimal.toRat
    · exact (a.neg.isTrimmed_div b precision).eq_of_toRat (a.isTrimmed_div b precision).neg

/-- Two thirds to 28 digits, with either sign. -/
theorem quotient_negated_two_thirds :
    Decimal.DivisibleBy (.ofInt 2) (.ofInt 3) 28 ∧
      ∃ c d : Decimal,
        arithmetic .div (.integer 2) (.integer 3) 28 = .ok (.decimal c)
        ∧ arithmetic .div (.integer (-2)) (.integer 3) 28 = .ok (.decimal d)
        ∧ arithmetic .div (.integer 2) (.integer (-3)) 28 = .ok (.decimal d)
        ∧ c.toRat = Decimal.shortenedTo 28 (2 / 3) ∧ d.toRat = Decimal.shortenedTo 28 (-(2 / 3))
        ∧ (d = c.neg ↔ roundedTo 28 |2 / 3| = cutTo 28 |2 / 3|) := by
  have hdivisible : Decimal.DivisibleBy (.ofInt 2) (.ofInt 3) 28 := by
    constructor <;> decide +kernel
  have hquotient := quotient_negated_iff (v := .integer 2) (w := .integer 3) rfl rfl
    (by decide) hdivisible
  rw [Decimal.toRat_ofInt, Decimal.toRat_ofInt] at hquotient
  exact ⟨hdivisible, hquotient⟩

/-- Minus two thirds is cut off where two thirds is rounded up. -/
theorem negative_quotient_cut_off :
    arithmetic .div (.integer 2) (.integer 3) 28
      = .ok (.decimal ⟨6666666666666666666666666667, 28⟩)
    ∧ arithmetic .div (.integer (-2)) (.integer 3) 28
      = .ok (.decimal ⟨-6666666666666666666666666666, 28⟩)
    ∧ arithmetic .div (.integer (-2)) (.integer 3) 28
      ≠ (arithmetic .div (.integer 2) (.integer 3) 28).map Value.negated := by
  decide +kernel

/-! ### Order -/

/-- **A larger dividend has no smaller quotient** by the same positive number, to the same
precision. The quotients may be scaled up by different places, and of the two a negative one is
cut off where the other is rounded. -/
theorem quotient_mono {u : Value} {d : Decimal} (hv : v.toDecimal? = some a)
    (hu : u.toDecimal? = some d) (hw : w.toDecimal? = some b) (hb : 0 < b.toRat)
    (hle : a.toRat ≤ d.toRat) (ha : a.DivisibleBy b precision) (hd : d.DivisibleBy b precision) :
    ∃ q r : Decimal,
      arithmetic .div v w precision = .ok (.decimal q)
      ∧ arithmetic .div u w precision = .ok (.decimal r)
      ∧ q.toRat ≤ r.toRat := by
  have hnonzero : b.unscaled ≠ 0 := by
    intro hzero
    exact hb.ne' (Decimal.toRat_eq_zero.mpr hzero)
  refine ⟨a.div b precision, d.div b precision, arithmetic_div hv hw hnonzero precision,
    arithmetic_div hu hw hnonzero precision, ?_⟩
  rw [Decimal.toRat_div hnonzero ha, Decimal.toRat_div hnonzero hd]
  exact Decimal.shortenedTo_mono (Decimal.quotientDigits_pos precision)
    (div_le_div_of_nonneg_right hle hb.le)

/-- Minus two thirds and `2.5` thirds, to one digit. -/
theorem quotient_mono_across_zero :
    Decimal.DivisibleBy (.ofInt (-2)) (.ofInt 3) 1 ∧ Decimal.DivisibleBy ⟨25, 1⟩ (.ofInt 3) 1 ∧
      ∃ q r : Decimal,
        arithmetic .div (.integer (-2)) (.integer 3) 1 = .ok (.decimal q)
        ∧ arithmetic .div (.decimal ⟨25, 1⟩) (.integer 3) 1 = .ok (.decimal r)
        ∧ q.toRat ≤ r.toRat := by
  have hleft : Decimal.DivisibleBy (.ofInt (-2)) (.ofInt 3) 1 := by
    constructor <;> decide +kernel
  have hright : Decimal.DivisibleBy ⟨25, 1⟩ (.ofInt 3) 1 := by
    constructor <;> decide +kernel
  have hscale : (1 : Int64).toInt = 1 := by decide
  have hle : (Decimal.ofInt (-2)).toRat ≤ (⟨25, 1⟩ : Decimal).toRat := by
    rw [Decimal.toRat_ofInt, Decimal.toRat, hscale]
    norm_num
  exact ⟨hleft, hright, quotient_mono (v := .integer (-2)) (u := .decimal ⟨25, 1⟩)
    (w := .integer 3) rfl rfl rfl (by norm_num) hle hleft hright⟩

lemma toRat_ninetyNine : (⟨99, 2⟩ : Decimal).toRat = 99 / 100 := by
  rw [Decimal.toRat, show (2 : Int64).toInt = 2 by decide]
  norm_num

lemma wantedPlaces_ninetyNine (p k : ℕ) : Decimal.wantedPlaces p 99 (10 ^ k) = p + k + 1 := by
  have htwo : digitCount (99 : ℤ).natAbs = 2 := by decide
  rw [Decimal.wantedPlaces_ten_pow, htwo]
  push_cast
  ring

/-- Ninety-nine hundredths by the same divisor want one place less, and are rounded. -/
lemma le_toRat_div_ten_pow {k : ℕ} (hk : k + 3 = 2 ^ 32) :
    9 * 10 ^ (-(k + 1) : ℤ) ≤ ((⟨99, 2⟩ : Decimal).div (.ofInt (10 ^ k)) 0).toRat := by
  have hdigits : Decimal.quotientDigits 0 = 1 := by decide
  have hplace : (⟨99, 2⟩ : Decimal).leadingPlace = 0 := by decide
  have hnonzero : (Decimal.ofInt (10 ^ k)).unscaled ≠ 0 := pow_ne_zero k (by norm_num)
  have hwanted : Decimal.wantedPlaces (Decimal.quotientDigits 0) (Decimal.mk 99 2).unscaled
      (Decimal.ofInt (10 ^ k)).unscaled = k + 2 := by
    rw [Decimal.ofInt, wantedPlaces_ninetyNine, hdigits]
    push_cast
    ring
  have hdivisible : Decimal.DivisibleBy ⟨99, 2⟩ (.ofInt (10 ^ k)) 0 := by
    refine ⟨by omega, by omega, ?_, ?_⟩
    · rw [Decimal.leadingPlace_ten_pow, hplace]
      omega
    · rw [Decimal.leadingPlace_ten_pow, hplace, hdigits]
      omega
  have hpower : (10 : ℚ) ^ (-(k + 1) : ℤ) = 1 / 10 / 10 ^ k := by
    rw [zpow_neg, zpow_add_one₀ (by norm_num), zpow_natCast]
    field_simp
  have hnine : HasDigits 1 (9 * 10 ^ (-(k + 1) : ℤ) : ℚ) := ⟨9, -(k + 1), by norm_num, by norm_num⟩
  have hpos : (0 : ℚ) ≤ 9 * 10 ^ (-(k + 1) : ℤ) := by positivity
  calc (9 * 10 ^ (-(k + 1) : ℤ) : ℚ)
    _ = Decimal.shortenedTo 1 (9 * 10 ^ (-(k + 1) : ℤ)) := by
        rw [Decimal.shortenedTo, if_pos hpos, abs_of_nonneg hpos, roundedTo_of_hasDigits hnine]
    _ ≤ Decimal.shortenedTo 1
          ((⟨99, 2⟩ : Decimal).toRat / (Decimal.ofInt (10 ^ k)).toRat) := by
        refine Decimal.shortenedTo_mono Nat.one_pos ?_
        rw [toRat_ninetyNine, Decimal.toRat_ofInt, Int.cast_pow, Int.cast_ofNat, hpower,
          ← mul_div_assoc]
        exact div_le_div_of_nonneg_right (by norm_num) (by positivity)
    _ = ((⟨99, 2⟩ : Decimal).div (.ofInt (10 ^ k)) 0).toRat := by
        rw [Decimal.toRat_div hnonzero hdivisible, hdigits]

/-- **One digit more is needed than is asked for** where none is: `0.99` and one by
`10 ^ 4294967293` want `2 ^ 32 - 2` and `2 ^ 32 - 1` places without that digit. With it only the
places of the first fit in 32 bits, and the larger dividend has the smaller quotient. -/
theorem quotient_mono_without_digits :
    Decimal.wantedPlaces 0 99 (10 ^ 4294967293) < 2 ^ 32
      ∧ Decimal.wantedPlaces 0 1 (10 ^ 4294967293) < 2 ^ 32
      ∧ 0 < (Decimal.ofInt (10 ^ 4294967293)).toRat
      ∧ (⟨99, 2⟩ : Decimal).toRat ≤ (Decimal.ofInt 1).toRat
      ∧ ∃ q r : Decimal,
        arithmetic .div (.decimal ⟨99, 2⟩) (.integer (10 ^ 4294967293)) 0 = .ok (.decimal q)
        ∧ arithmetic .div (.integer 1) (.integer (10 ^ 4294967293)) 0 = .ok (.decimal r)
        ∧ r.toRat < q.toRat := by
  have hnonzero : (10 : ℤ) ^ 4294967293 ≠ 0 := pow_ne_zero _ (by norm_num)
  refine ⟨?_, ?_, ?_, ?_, _, _, arithmetic_div rfl rfl hnonzero 0,
    arithmetic_div (a := .ofInt 1) rfl rfl hnonzero 0, ?_⟩
  · rw [wantedPlaces_ninetyNine]
    norm_num
  · rw [wantedPlaces_one]
    norm_num
  · rw [Decimal.toRat_ofInt]
    exact Int.cast_pos.mpr (pow_pos (by norm_num) _)
  · rw [toRat_ninetyNine, Decimal.toRat_ofInt]
    norm_num
  · calc ((Decimal.ofInt 1).div (.ofInt (10 ^ 4294967293)) 0).toRat
      _ = 10 ^ (-4294967297 : ℤ) := by rw [one_div_ten_pow (by norm_num), toRat_one_div_ten_pow]
      _ < 10 ^ (-(4294967293 + 1) : ℤ) := zpow_lt_zpow_right₀ (by norm_num) (by norm_num)
      _ ≤ 9 * 10 ^ (-(4294967293 + 1) : ℤ) := le_mul_of_one_le_left (by positivity) (by norm_num)
      _ ≤ _ := le_toRat_div_ten_pow (k := 4294967293) (by norm_num)

/-! ### Precision -/

open Decimal

/-- **How far a precision is honoured.** The numerator of a quotient is scaled up by the places that
are recorded in its scale, and by as many as the precision asks for, if and only if these fit in 32
bits. The places that are recorded are counted in 64 bits, and of them only the last 32 bits are
scaled up by. Only a numerator whose digits no memory holds could bring the sum below 64 bits. -/
theorem precision_honoured_iff (hv : v.toDecimal? = some a) (hw : w.toDecimal? = some b)
    (hb : b.unscaled ≠ 0) (hlength : digitCount a.unscaled.natAbs < 2 ^ 63) :
    let wanted := wantedPlaces (quotientDigits precision) a.unscaled b.unscaled
    let recorded := recordedPlaces a b precision
    let scaling := scalingPlaces recorded
    arithmetic .div v w precision = .ok (.decimal
        (withDigits (a.cutQuotient b scaling recorded) (quotientDigits precision)).trimmed)
      ∧ recorded.toInt = max 0 (wanted.bmod (2 ^ 64))
      ∧ (scaling : ℤ) = recorded.toInt % 2 ^ 32
      ∧ ((scaling : ℤ) = recorded.toInt ∧ wanted ≤ scaling ↔ wanted < 2 ^ 32) := by
  refine ⟨?_, toInt_recordedPlaces a b precision, scalingPlaces_recordedPlaces a b precision,
    scalingPlaces_honoured_iff hlength⟩
  rw [arithmetic_div hv hw hb, div_eq_cutQuotient]

/-- The largest precision that is honoured for a quotient of single digits: all of 32 bits are
needed for its places. -/
theorem precision_honoured_two_thirds :
    wantedPlaces (quotientDigits 4294967293) 2 3 = 4294967295
      ∧ (scalingPlaces (recordedPlaces (.ofInt 2) (.ofInt 3) 4294967293) : ℤ)
        = (recordedPlaces (.ofInt 2) (.ofInt 3) 4294967293).toInt
      ∧ 4294967295 ≤ scalingPlaces (recordedPlaces (.ofInt 2) (.ofInt 3) 4294967293) := by
  have hwanted : wantedPlaces (quotientDigits 4294967293) 2 3 = 4294967295 := by decide +kernel
  have hlength : digitCount (Decimal.ofInt 2).unscaled.natAbs < 2 ^ 63 := by decide +kernel
  obtain ⟨-, -, -, hhonoured⟩ := @precision_honoured_iff (.integer 2) (.integer 3) (.ofInt 2)
    (.ofInt 3) 4294967293 rfl rfl (by decide) hlength
  obtain ⟨hsame, hle⟩ := hhonoured.mpr (hwanted.trans_lt (by norm_num))
  exact ⟨hwanted, hsame, Int.ofNat_le.mp (hwanted.symm.trans_le hle)⟩

/-- At a precision of `2 ^ 32` one divided by one is not one: of the places that are recorded it is
scaled up by two. -/
theorem one_divided_by_one_vanishes :
    wantedPlaces (quotientDigits 4294967296) 1 1 = 4294967298
      ∧ recordedPlaces (.ofInt 1) (.ofInt 1) 4294967296 = 4294967298
      ∧ scalingPlaces (recordedPlaces (.ofInt 1) (.ofInt 1) 4294967296) = 2
      ∧ arithmetic .div (.integer 1) (.integer 1) 4294967296 = .ok (.decimal ⟨1, 4294967296⟩) := by
  refine ⟨by decide +kernel, by decide +kernel, by decide +kernel, ?_⟩
  have hdigits : quotientDigits 4294967296 = 4294967296 := by decide
  have hself := @div_self_eq (.ofInt 1) 4294967296 (by decide) (by rw [hdigits]; norm_num)
  rw [hdigits] at hself
  rw [arithmetic_div (a := .ofInt 1) (b := .ofInt 1) rfl rfl (by decide), hself]
  rfl

end Reckoner
