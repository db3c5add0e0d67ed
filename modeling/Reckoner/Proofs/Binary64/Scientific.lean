import Reckoner.Binary64.Approximation
import Reckoner.Proofs.Binary64.Sign

/-!
Doubles of whole numbers, powers and decimal fractions.

Whole numbers and products of them never become zero, since rounding never takes a magnitude below
one. A decimal fraction becomes zero if and only if it is at most half of the least double: it is
divided in one step, and only then rounded.

* `AtLeastOne`: the magnitudes from one on, closed under products;
* `atLeastOne_ofNat`, `atLeastOne_pow`: whole numbers, and powers of them;
* `sign_ofScientific`: decimal fractions.
-/

namespace Reckoner.Binary64

open Float.Model Float.Model.UnpackedFloat

/-! ### Magnitudes from one on -/

/-- Doubles from one on, an infinite one included. -/
inductive AtLeastOne : UnpackedFloat → Prop
  | infinity : AtLeastOne (.infinity .positive)
  | finite {m : ℕ} {e : ℤ} (hm : 0 < m) (hlow : 2 ^ 52 ≤ m) (hhigh : m < 2 ^ 53) (he : -52 ≤ e) :
      AtLeastOne (.finite .positive m e hm)

lemma AtLeastOne.sign_eq {x : Float} (h : AtLeastOne (unpacked x)) : sign x = 1 := by
  rw [sign]
  generalize unpacked x = u at h
  cases h <;> rfl

/-- Rounding does not take a magnitude below one. -/
lemma atLeastOne_rounded {m : ℕ} {e : ℤ} (accuracy : Accuracy) (hlong : 2 ^ 52 ≤ m)
    (hplace : 0 ≤ m.log2 + e) :
    AtLeastOne (unpacked (.ofModel (.pack
      (roundWithAccuracy .binary64 .positive m e accuracy)))) := by
  have hm : 0 < m := lt_of_lt_of_le (by norm_num) hlong
  obtain ⟨n, d, hn, hrounded, hcanonical, hleading⟩ :=
    exists_rounded_finite (e := e) .positive accuracy hm (by omega) (.inl hlong)
  have hlt := hcanonical.lt
  have hlog : n.log2 < 53 := (Nat.log2_lt hn.ne').mpr hlt
  rw [hrounded]
  obtain hfinite | hinfinite := unpacked_ofModel_pack .positive hn hcanonical
  · rw [hfinite]
    have hleast : d ≠ -1074 := by omega
    exact .finite hn (hcanonical.normal.resolve_right hleast) hlt (by omega)
  · rw [hinfinite]
    exact .infinity

lemma mul_finite (s₁ s₂ : Sign) {m₁ m₂ : ℕ} {e₁ e₂ : ℤ} (h₁ : 0 < m₁) (h₂ : 0 < m₂) :
    UnpackedFloat.mul .binary64 (.finite s₁ m₁ e₁ h₁) (.finite s₂ m₂ e₂ h₂)
      = roundWithAccuracy .binary64 (s₁ * s₂) (m₁ * m₂) (e₁ + e₂) .exact := rfl

lemma AtLeastOne.mul {x y : Float} (hx : AtLeastOne (unpacked x)) (hy : AtLeastOne (unpacked y)) :
    AtLeastOne (unpacked (x * y)) := by
  have hmul : unpacked (x * y)
      = unpacked (.ofModel (.pack (UnpackedFloat.mul .binary64 (unpacked x) (unpacked y)))) := rfl
  rw [hmul]
  generalize unpacked x = u at hx
  generalize unpacked y = v at hy
  have hinfinity : AtLeastOne (unpacked (.ofModel (.pack (.infinity .positive)))) := by
    rw [unpacked_ofModel_pack_infinity]
    exact .infinity
  cases hx with
  | infinity => cases hy <;> exact hinfinity
  | @finite m e hm hlow _ he =>
      cases hy with
      | infinity => exact hinfinity
      | @finite m' e' hm' hlow' _ he' =>
          have hlong : 2 ^ (52 + 52) ≤ m * m' := by
            rw [pow_add]
            exact Nat.mul_le_mul hlow hlow'
          have hlog : 52 + 52 ≤ (m * m').log2 := (Nat.le_log2 (by positivity)).mpr hlong
          rw [mul_finite]
          exact atLeastOne_rounded .exact (le_trans (by norm_num) hlong) (by omega)

/-! ### Whole numbers and their powers -/

lemma log2_mul_two_pow {n : ℕ} (hn : 0 < n) (k : ℕ) : (n * 2 ^ k).log2 = n.log2 + k := by
  refine (Nat.log2_eq_iff (by positivity)).mpr ⟨?_, ?_⟩
  · rw [pow_add]
    exact Nat.mul_le_mul_right _ (Nat.log2_self_le hn.ne')
  · rw [add_right_comm, pow_add]
    exact Nat.mul_lt_mul_of_pos_right Nat.lt_log2_self (by positivity)

/-- A positive whole number is at least one when it is rounded. -/
lemma atLeastOne_round {n : ℕ} (hn : 0 < n) :
    AtLeastOne (unpacked (.ofModel (.pack (round .binary64 .positive n 0)))) := by
  have hplaces : (0 - Format.binary64.targetExponent (totalExponent n 0)).toNat
      = 52 - n.log2 := by
    rw [targetExponent_eq, totalExponent]
    omega
  have hlog := log2_mul_two_pow hn (52 - n.log2)
  simp only [UnpackedFloat.round, decreaseExponent, hplaces, Nat.shiftLeft_eq]
  have hlong : 2 ^ 52 ≤ n * 2 ^ (52 - n.log2) := (Nat.le_log2 (by positivity)).mp (by omega)
  exact atLeastOne_rounded .exact hlong (by omega)

lemma atLeastOne_toFloat {w : UInt64} (hw : 0 < w.toNat) : AtLeastOne (unpacked w.toFloat) := by
  have hround : UnpackedFloat.ofUInt64 .binary64 w
      = UnpackedFloat.round .binary64 .positive w.toNat 0 := by
    have hpos : compare (w.toNat : ℤ) 0 = .gt := Int.compare_eq_gt.mpr (by omega)
    rw [UnpackedFloat.ofUInt64, UnpackedFloat.ofNat, UnpackedFloat.ofInt, UnpackedFloat.normalize,
      hpos]
    rfl
  have h := atLeastOne_round hw
  rw [← hround] at h
  exact h

lemma atLeastOne_one : AtLeastOne (unpacked (.ofBits 0x3FF0000000000000)) :=
  .finite (m := 2 ^ 52) (e := -52) (by norm_num) le_rfl (by norm_num) le_rfl

/-- **A positive whole number is at least one** as a double. -/
lemma atLeastOne_ofNat {n : ℕ} (hn : 0 < n) : AtLeastOne (unpacked (Float.ofNat n)) := by
  show AtLeastOne (unpacked (Float.ofScientific n false 0))
  rw [Float.ofScientific]
  split
  · next h =>
    have hword : n.toUInt64.toNat = n := Nat.mod_eq_of_lt (by omega)
    exact (atLeastOne_toFloat (by omega)).mul atLeastOne_one
  · have hbits : (0 : ℤ) < 2 ^ Format.binary64.exponentBits := by positivity
    have hlog := log2_mul_two_pow hn 53
    have hlong : 2 ^ 52 ≤ n * 2 ^ 53 := (Nat.le_log2 (by positivity)).mp (by omega)
    have hmantissa : n <<< Format.binary64.mantissaBits * 10 ^ (0 : ℤ).toNat = n * 2 ^ 53 := by
      rw [Int.toNat_zero, pow_zero, Nat.mul_one, Nat.shiftLeft_eq]
      rfl
    have hexponent : -(Format.binary64.mantissaBits : ℤ) + 0 = -53 := rfl
    show AtLeastOne (unpacked (.ofModel (.pack (UnpackedFloat.ofScientific .binary64 n 0))))
    rw [UnpackedFloat.ofScientific, dif_neg hn.ne', if_neg (by omega), if_neg (by omega),
      if_pos le_rfl, mul_finite, hmantissa, hexponent]
    exact atLeastOne_rounded .exact hlong (by omega)

/-- Powers of a number that is at least one are at least one. -/
lemma atLeastOne_powLoop {acc base : Float} (hacc : AtLeastOne (unpacked acc))
    (hbase : AtLeastOne (unpacked base)) (n : ℕ) :
    AtLeastOne (unpacked (powLoop acc base n)) := by
  have hstep {acc base : Float} (hacc : AtLeastOne (unpacked acc))
      (hbase : AtLeastOne (unpacked base)) (n : ℕ) :
      AtLeastOne (unpacked (if n % 2 = 1 then acc * base else acc)) := by
    split
    · exact hacc.mul hbase
    · exact hacc
  fun_induction powLoop acc base n with
  | case1 acc base n => exact hstep hacc hbase n
  | case2 acc base n _ _ ih => exact ih (hstep hacc hbase n) (hbase.mul hbase)

lemma atLeastOne_pow_ten (n : ℕ) : AtLeastOne (unpacked (pow 10.0 n)) := by
  have hone : (1.0 : Float) = .ofBits 0x3FF0000000000000 := by decide +kernel
  have hten : (10.0 : Float) = .ofBits 0x4024000000000000 := by decide +kernel
  have hten' : AtLeastOne (unpacked 10.0) := by
    rw [hten]
    exact .finite (m := 5 * 2 ^ 50) (e := -49) (by norm_num) (by norm_num) (by norm_num)
      (by norm_num)
  rw [pow, hone]
  exact atLeastOne_powLoop atLeastOne_one hten' n

/-! ### Decimal fractions -/

/-- Whether a double is positive and finite, and has its leading digit no higher than `10 ^ 22`. -/
def isModerate : UnpackedFloat → Bool
  | .finite .positive m e _ => m.log2 + e ≤ 73
  | _ => false

lemma isModerate_powerOfTen {e : ℕ} (he : e < Float.exactlyRepresentablePowersOfTen.size) :
    isModerate (unpacked Float.exactlyRepresentablePowersOfTen[e]) = true := by
  have hall : Float.exactlyRepresentablePowersOfTen.all (isModerate ∘ unpacked) = true := by
    decide +kernel
  exact Array.all_eq_true.mp hall e he

/-- A number that is at least one does not become zero when it is divided by a moderate one. -/
lemma sign_div_moderate {x y : Float} (hx : AtLeastOne (unpacked x))
    (hy : isModerate (unpacked y) = true) : sign (x / y) = 1 := by
  have hdiv : unpacked (x / y)
      = unpacked (.ofModel (.pack (UnpackedFloat.div .binary64 (unpacked x) (unpacked y)))) := rfl
  rw [sign, hdiv]
  generalize unpacked x = u at hx
  generalize unpacked y = v at hy
  cases v with
  | infinity s | notANumber | zero s => cases hy
  | finite s m' e' hm' =>
      cases s with
      | negative => cases hy
      | positive =>
          have hplace' : (m'.log2 : ℤ) + e' ≤ 73 := of_decide_eq_true hy
          cases hx with
          | infinity => exact congrArg signOf (unpacked_ofModel_pack_infinity .positive)
          | @finite m e hm hlow _ he =>
              have hlog : 52 ≤ m.log2 := (Nat.le_log2 hm.ne').mpr hlow
              have hplace : -1021 ≤ (m.log2 : ℤ) + e - (m'.log2 + e') := by omega
              obtain ⟨n, d, hn, hquotient, hcanonical⟩ :=
                exists_quotient_finite .positive .positive hm hm' hplace
              rw [hquotient]
              exact sign_ofModel_pack .positive hn hcanonical

/-- **A decimal fraction becomes zero** if and only if it is at most half of the least double. -/
lemma sign_ofScientific {n s : ℕ} (hn : 0 < n) (hs : 0 < s) :
    sign (Float.ofScientific n true s) = if 2 * (n * 2 ^ 1074) ≤ 10 ^ s then 0 else 1 := by
  rw [Float.ofScientific]
  split
  · next h =>
    have hword : n.toUInt64.toNat = n := Nat.mod_eq_of_lt (by omega)
    have hlarge : 10 ^ s < 2 * (n * 2 ^ 1074) := by
      calc 10 ^ s ≤ 10 ^ 22 := Nat.pow_le_pow_right (by norm_num) h.2
        _ < 2 ^ 74 := by norm_num
        _ ≤ 2 ^ 1074 := by gcongr <;> norm_num
        _ ≤ 2 * (n * 2 ^ 1074) := by
            rw [← mul_assoc]
            exact Nat.le_mul_of_pos_left _ (by omega)
    rw [if_pos rfl, if_neg hlarge.not_ge]
    exact sign_div_moderate (atLeastOne_toFloat (by omega)) (isModerate_powerOfTen _)
  · have hexponent : Int.negOfNat s = -s := Int.negOfNat_eq
    have hbits : (2 : ℤ) ^ Format.binary64.exponentBits = 2048 := rfl
    have hpower : 10 ^ (- -(s : ℤ)).toNat = 10 ^ s := by rw [neg_neg, Int.toNat_natCast]
    show sign (.ofModel (.pack (UnpackedFloat.ofScientific .binary64 n (Int.negOfNat s)))) = _
    rw [UnpackedFloat.ofScientific, dif_neg hn.ne', hexponent, hbits, if_neg (by omega)]
    split
    · -- so many places that the fraction is not even divided
      next hsmall =>
      have hle : 2 * (n * 2 ^ 1074) ≤ 10 ^ s := by
        calc 2 * (n * 2 ^ 1074) ≤ 2 * (2 ^ (n.log2 + 1) * 2 ^ 1074) :=
              Nat.mul_le_mul_left _ (Nat.mul_le_mul_right _ Nat.lt_log2_self.le)
          _ = 2 ^ (1 + (n.log2 + 1 + 1074)) := by rw [pow_add 2 1, pow_add 2 (n.log2 + 1), pow_one]
          _ ≤ 2 ^ s := Nat.pow_le_pow_right (by norm_num) (by omega)
          _ ≤ 10 ^ s := Nat.pow_le_pow_left (by norm_num) s
      rw [if_pos hle]
      rfl
    · have hpos : 0 < 10 ^ (- -(s : ℤ)).toNat := Nat.pow_pos (by norm_num)
      obtain ⟨hzero, hfinite⟩ := quotient_zero_or_finite hn hpos
      rw [if_neg (by omega)]
      by_cases hle : 2 * (n * 2 ^ 1074) ≤ 10 ^ s
      · rw [if_pos hle, hzero (by rw [hpower]; exact hle)]
        rfl
      · obtain ⟨m, d, hm, hquotient, hcanonical⟩ := hfinite (by rw [hpower]; exact not_le.mp hle)
        rw [if_neg hle, hquotient]
        exact sign_ofModel_pack .positive hm hcanonical

end Reckoner.Binary64
