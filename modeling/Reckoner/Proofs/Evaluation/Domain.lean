import Reckoner.Evaluation.Arithmetic
import Reckoner.Proofs.Binary64.Conversion

/-!
Domain errors of exact values.

Square roots, logarithms, real quotients and powers compare the double of an exact value with
zero. An exact value is therefore judged by its own sign, unless it is so small that its double is
zero. Then it counts as zero: the root of a negative number is shown, and the logarithm of a
positive one is refused.

* `Value.sign_toFloat`: the sign of the double of an exact value;
* `sqrt_domain_iff`, `log_domain_iff`, `div_zero_iff`, `pow_zero_iff`: the four tests;
* `JudgedAs`: the values that are judged by the sign of a number;
* `domain_errors`: the number by which exact values are judged.
-/

namespace Reckoner

open Binary64

variable {v w : Value} {a b : Decimal} {x y : Float} {precision : UInt64}

/-- The double of an exact value has the sign of the value, unless it vanishes. -/
lemma Value.sign_toFloat (hv : v.toDecimal? = some a) (hx : v.toFloat? = some x)
    (h : x.isFinite = true) : sign x = SignType.sign a.flushed := by
  cases v with
  | integer n =>
      obtain rfl : .ofInt n = a := Option.some.inj hv
      obtain rfl : Float.ofInt n = x := Option.some.inj hx
      rw [Decimal.sign_ofInt, Decimal.flushed_ofInt, sign_intCast]
  | decimal c =>
      obtain rfl : c = a := Option.some.inj hv
      obtain rfl : c.toFloat = x := Option.some.inj hx
      exact Decimal.sign_toFloat h
  | _ => simp [toDecimal?] at hv

/-! ### Tests -/

lemma real_of_isFinite (hx : v.toFloat? = some x) (h : x.isFinite = true) (operation : String) :
    real v operation = .ok x := by
  rw [real, hx]
  exact if_pos h

/-- What is tested first is reported if and only if the test says so, unless it is reported later
as well. -/
lemma tested_first_iff {p : Prop} [Decidable p] {cause : EvalCause} {rest : Except EvalCause Value}
    (hrest : rest ≠ .error cause) : (if p then .error cause else rest) = .error cause ↔ p := by
  split
  · next h => exact iff_of_true rfl h
  · next h => exact iff_of_false hrest h

lemma finite_ne_divisionByZero (x : Float) (operation : String) :
    (finite x operation).map Value.real ≠ .error .divisionByZero := by
  rw [finite]
  split <;> exact nofun

lemma sqrt_domain_iff (hx : v.toFloat? = some x) (h : x.isFinite = true) :
    applyFunction .sqrt v = .error .sqrtOfNegative ↔ sign x = -1 := by
  rw [← lt_zero_iff h, applyFunction, real_of_isFinite hx h]
  exact tested_first_iff nofun

lemma log_domain_iff (hx : v.toFloat? = some x) (h : x.isFinite = true) :
    applyFunction .log v = .error .logarithmDomain ↔ sign x ≠ 1 := by
  rw [← le_zero_iff h, applyFunction, real_of_isFinite hx h]
  exact tested_first_iff nofun

lemma promote_real (hv : v.toDecimal? = some a) (hx : v.toFloat? = some x)
    (h : x.isFinite = true) (hy : y.isFinite = true) (operation : String) :
    promote (.real y) v operation = .ok (.reals y x) := by
  have hreals : (do return .reals (← real (.real y) operation) (← real v operation) :
      Except EvalCause Operands) = .ok (.reals y x) := by
    rw [real_of_isFinite hx h, real_of_isFinite rfl hy]
    rfl
  cases v with
  | integer n | decimal c => exact hreals
  | _ => simp [Value.toDecimal?] at hv

/-- A real number is divided by an exact value unless its double is zero. -/
lemma div_zero_iff (hv : v.toDecimal? = some a) (hx : v.toFloat? = some x)
    (h : x.isFinite = true) (hy : y.isFinite = true) (precision : UInt64) :
    arithmetic .div (.real y) v precision = .error .divisionByZero ↔ sign x = 0 := by
  rw [← beq_zero_iff h, arithmetic, if_neg (by decide), promote_real hv hx h hy]
  exact tested_first_iff (finite_ne_divisionByZero (y / x) _)

/-- A power with a negative exponent exists unless the double of the base is zero. -/
lemma pow_zero_iff (hx : v.toFloat? = some x) (h : x.isFinite = true) (hy : w.toFloat? = some y)
    (hfinite : y.isFinite = true) (hneg : sign y = -1) (precision : UInt64) :
    arithmetic .pow v w precision = .error .divisionByZero ↔ sign x = 0 := by
  have hlt : y < 0.0 := (lt_zero_iff hfinite).mpr hneg
  have htest : (x == 0.0 && decide (y < 0.0)) = true ↔ sign x = 0 := by
    rw [Bool.and_eq_true, decide_eq_true_iff, beq_zero_iff h, and_iff_left hlt]
  have hrest : (if (Float.pow x y).isNaN then .error .powerDomain
      else (finite (Float.pow x y) Operator.pow.symbol).map Value.real)
        ≠ .error .divisionByZero := by
    split
    · exact nofun
    · exact finite_ne_divisionByZero _ _
  rw [← htest, arithmetic, if_pos rfl, power, real_of_isFinite hx h, real_of_isFinite hy hfinite]
  exact tested_first_iff hrest

/-! ### Judgements -/

/-- The domain errors of a value are those of a number: a root is refused if the number is
negative, a logarithm unless it is positive, and a real quotient and a power with a negative
exponent if it is zero. The exponents are exact values whose doubles are finite and not zero. -/
structure JudgedAs (v : Value) (r : ℚ) : Prop where
  sqrt : applyFunction .sqrt v = .error .sqrtOfNegative ↔ r < 0
  log : applyFunction .log v = .error .logarithmDomain ↔ r ≤ 0
  div : ∀ (y : Float) (precision : UInt64), y.isFinite = true →
    (arithmetic .div (.real y) v precision = .error .divisionByZero ↔ r = 0)
  pow : ∀ (w : Value) (b : Decimal) (y : Float) (precision : UInt64), w.toDecimal? = some b →
    b.toRat < 0 → w.toFloat? = some y → y.isFinite = true → (y == 0.0) = false →
    (arithmetic .pow v w precision = .error .divisionByZero ↔ r = 0)

/-- A negative number whose double is not zero has a negative one. -/
lemma sign_of_negative (hw : w.toDecimal? = some b) (hb : b.toRat < 0) (hy : w.toFloat? = some y)
    (h : y.isFinite = true) (hzero : (y == 0.0) = false) : sign y = -1 := by
  have hsign := Value.sign_toFloat hw hy h
  have hne : sign y ≠ 0 := by
    intro heq
    rw [(beq_zero_iff h).mpr heq] at hzero
    cases hzero
  rw [Decimal.flushed] at hsign
  split at hsign
  · exact absurd (hsign.trans sign_zero) hne
  · exact hsign.trans (sign_neg hb)

/-- A value is judged as any number that has the sign of its double. -/
lemma judgedAs_of_sign {r : ℚ} (hv : v.toDecimal? = some a) (hx : v.toFloat? = some x)
    (h : x.isFinite = true) (hr : sign x = SignType.sign r) : JudgedAs v r where
  sqrt := by rw [sqrt_domain_iff hx h, hr, sign_eq_neg_one_iff]
  log := by rw [log_domain_iff hx h, hr, ne_eq, sign_eq_one_iff, not_lt]
  div y precision hy := by rw [div_zero_iff hv hx h hy, hr, sign_eq_zero_iff]
  pow w b y precision hw hb hy hfinite hzero := by
    rw [pow_zero_iff hx h hy hfinite (sign_of_negative hw hb hy hfinite hzero), hr,
      sign_eq_zero_iff]

/-- **Domain errors of exact values.** An exact value whose double is finite is judged by its own
sign if and only if it does not vanish, or is zero anyway. If it vanishes, then it is judged as
zero. Numbers of at most half of the least double vanish, and those from the least double on do
not. -/
theorem domain_errors (hv : v.toDecimal? = some a) (hx : v.toFloat? = some x)
    (h : x.isFinite = true) :
    JudgedAs v a.flushed
    ∧ (JudgedAs v a.toRat ↔ (a.Vanishes → a.toRat = 0))
    ∧ (2 * |a.toRat| ≤ least → a.Vanishes)
    ∧ (least ≤ |a.toRat| → ¬ a.Vanishes) := by
  have hflushed : JudgedAs v a.flushed :=
    judgedAs_of_sign hv hx h (Value.sign_toFloat hv hx h)
  refine ⟨hflushed, ⟨?_, ?_⟩, Decimal.vanishes_of_abs_le, Decimal.not_vanishes_of_le_abs⟩
  · -- dividing one by the value tells whether the number it is judged by is zero
    intro hjudged hvanishes
    have hone : (1.0 : Float).isFinite = true := by decide +kernel
    exact (hjudged.div 1.0 0 hone).mp ((hflushed.div 1.0 0 hone).mpr (if_pos hvanishes))
  · intro hzero
    have heq : a.flushed = a.toRat := by
      rw [Decimal.flushed]
      split
      · next hvanishes => exact (hzero hvanishes).symm
      · rfl
    rwa [heq] at hflushed

/-- The domain errors of `-2.5`. -/
theorem domain_errors_negative :
    (Decimal.toFloat ⟨-25, 1⟩).isFinite = true
    ∧ JudgedAs (.decimal ⟨-25, 1⟩) (Decimal.flushed ⟨-25, 1⟩)
    ∧ (JudgedAs (.decimal ⟨-25, 1⟩) (Decimal.toRat ⟨-25, 1⟩)
      ↔ (Decimal.Vanishes ⟨-25, 1⟩ → Decimal.toRat ⟨-25, 1⟩ = 0))
    ∧ (2 * |Decimal.toRat ⟨-25, 1⟩| ≤ least → Decimal.Vanishes ⟨-25, 1⟩)
    ∧ (least ≤ |Decimal.toRat ⟨-25, 1⟩| → ¬ Decimal.Vanishes ⟨-25, 1⟩) :=
  have hfinite : (Decimal.toFloat ⟨-25, 1⟩).isFinite = true := by decide +kernel
  ⟨hfinite, domain_errors (v := .decimal ⟨-25, 1⟩) rfl rfl hfinite⟩

/-- Minus `10 ^ -330` has a square root, `10 ^ -330` has no logarithm, and nothing can be divided
by it. -/
theorem vanishing_domain_errors :
    Decimal.toRat ⟨-1, 330⟩ < 0
    ∧ 0 < Decimal.toRat ⟨1, 330⟩
    ∧ (Decimal.toFloat ⟨-1, 330⟩).isFinite = true
    ∧ (Decimal.toFloat ⟨1, 330⟩).isFinite = true
    ∧ applyFunction .sqrt (.decimal ⟨-1, 330⟩) ≠ .error .sqrtOfNegative
    ∧ applyFunction .log (.decimal ⟨1, 330⟩) = .error .logarithmDomain
    ∧ arithmetic .div (.real 1.0) (.decimal ⟨1, 330⟩) 28 = .error .divisionByZero
    ∧ arithmetic .pow (.decimal ⟨1, 330⟩) (.integer (-1)) 28 = .error .divisionByZero := by
  have hpower : (0 : ℚ) < 10 ^ (-(330 : Int64).toInt) := by positivity
  refine ⟨?_, ?_, by decide +kernel⟩
  · exact mul_neg_of_neg_of_pos (by norm_num) hpower
  · exact mul_pos (by norm_num) hpower

end Reckoner
