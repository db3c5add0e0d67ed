import Mathlib.Tactic
import Reckoner.Evaluation.Arithmetic

/-!
Operands that are no numbers.

A truth value, a text or nothing is no operand of an arithmetic operator, and no argument of a
function. Sums, differences, products and quotients look at both operands before anything else. A
power makes the left operand real before it looks at the right one, so a left operand that is too
large is reported in place of a right one that is no number.

* `Value.isTooLarge`, `blamedKind`: what may be reported of two operands;
* `exists_real_eq`, `real_eq_notANumber_iff`: the real number that a value is, if it is one;
* `promote_of_nonNumber`, `power_of_nonNumber`: the two ways to look at operands;
* `nonNumbers_reported`: what is reported of operands and arguments that are no numbers.
-/

namespace Reckoner

/-- Whether the double that a number is or is nearest to is not finite. -/
def Value.isTooLarge (v : Value) : Bool := v.toFloat?.any fun x => !x.isFinite

/-- The kind that is blamed of two operands that are not both numbers: that of the leftmost one
that is no number. -/
def blamedKind (left right : Value) : Kind := if left.isNumber then right.kind else left.kind

variable {v w : Value} {operation : String}

/-! ### One operand -/

lemma real_of_isTooLarge (h : v.isTooLarge = true) :
    real v operation = .error (.overflow operation) := by
  obtain ⟨x, hx, hinfinite⟩ := (Option.any_eq_true _ _).mp h
  rw [Bool.not_eq_true'] at hinfinite
  simp [real, hx, hinfinite]

lemma real_of_nonNumber (h : v.isNumber = false) :
    real v operation = .error (.notANumber v.kind) := by
  cases v with
  | integer n | decimal a | real x => exact absurd h Bool.true_eq_false_eq_False
  | boolean b | text s | nothing => rfl

/-- A number that is not too large is a finite real number. -/
lemma exists_real_eq (h : v.isNumber = true) (hlarge : v.isTooLarge = false)
    (operation : String) : ∃ x, real v operation = .ok x := by
  have hfinite {x : Float} (hx : v.toFloat? = some x) : x.isFinite = true := by
    by_contra hinfinite
    rw [Bool.not_eq_true] at hinfinite
    simp [Value.isTooLarge, hx, hinfinite] at hlarge
  cases v with
  | integer n | decimal a | real x => exact ⟨_, if_pos (hfinite rfl)⟩
  | boolean b | text s | nothing => exact absurd h Bool.false_ne_true

/-! ### Two operands -/

/-- Bringing operands to one kind blames the leftmost one that is no number. -/
lemma promote_of_nonNumber (h : (v.isNumber && w.isNumber) = false) :
    promote v w operation = .error (.notANumber (blamedKind v w)) := by
  unfold promote blamedKind
  cases hv : v.isNumber with
  | false => rfl
  | true =>
      rw [hv, Bool.true_and] at h
      rw [h]
      rfl

/-- A power blames the leftmost operand that is no number, unless the left one is too large. -/
lemma power_of_nonNumber (h : (v.isNumber && w.isNumber) = false) :
    power v w = .error
      (if v.isTooLarge then .overflow Operator.pow.symbol else .notANumber (blamedKind v w)) := by
  cases hlarge : v.isTooLarge with
  | true => rw [power, real_of_isTooLarge hlarge]; rfl
  | false =>
      rw [power, blamedKind]
      cases hv : v.isNumber with
      | false => rw [real_of_nonNumber hv]; rfl
      | true =>
          obtain ⟨x, hx⟩ := exists_real_eq hv hlarge Operator.pow.symbol
          rw [hv, Bool.true_and] at h
          rw [hx, real_of_nonNumber h]
          rfl

/-! ### Reports -/

/-- A function blames its argument for being no number only if it is none. -/
lemma applyFunction_eq_notANumber_iff {f : RealFunction} :
    applyFunction f v = .error (.notANumber v.kind) ↔ v.isNumber = false := by
  constructor
  · intro h
    by_contra hv
    rw [Bool.not_eq_false] at hv
    cases hlarge : v.isTooLarge with
    | true =>
        rw [applyFunction, real_of_isTooLarge hlarge] at h
        cases h
    | false =>
        obtain ⟨x, hx⟩ := exists_real_eq hv hlarge f.name
        rw [applyFunction, hx] at h
        cases f with
        | sqrt | log => simp only [bind, Except.bind] at h; split at h <;> cases h
        | exp => simp only [bind, Except.bind, finite] at h; split_ifs at h <;> cases h
  · intro hv
    rw [applyFunction, real_of_nonNumber hv]
    rfl

/-- **Operands and arguments that are no numbers.** Of two operands that are not both numbers the
leftmost one that is no number is reported, whatever the other one is, except by a power of a left
operand that is too large, which is an overflow. A function reports any argument that is no
number. -/
theorem nonNumbers_reported (precision : UInt64) (h : (v.isNumber && w.isNumber) = false) :
    (∀ op, arithmetic op v w precision = .error (.notANumber (blamedKind v w))
      ↔ ¬ (op = .pow ∧ v.isTooLarge = true))
    ∧ (v.isTooLarge = true →
      arithmetic .pow v w precision = .error (.overflow Operator.pow.symbol))
    ∧ ∀ (f : RealFunction) (u : Value),
        applyFunction f u = .error (.notANumber u.kind) ↔ u.isNumber = false := by
  have hpower : arithmetic .pow v w precision = power v w := by
    rw [arithmetic, if_pos rfl]
  refine ⟨?_, ?_, ?_⟩
  · intro op
    by_cases hop : op = .pow
    · subst hop
      rw [hpower, power_of_nonNumber h]
      cases v.isTooLarge with
      | true => simp only [if_pos, Except.error.injEq, reduceCtorEq, and_self, not_true]
      | false => simp only [Bool.false_eq_true, if_false, and_false, not_false_iff]
    · rw [arithmetic, if_neg hop, promote_of_nonNumber h]
      exact iff_of_true rfl fun hpow => hop hpow.1
  · intro hlarge
    rw [hpower, power_of_nonNumber h, if_pos hlarge]
  · intro f u
    exact applyFunction_eq_notANumber_iff

/-- A truth value as an exponent is reported, and as an argument. -/
theorem nonNumbers_reported_boolean :
    ((Value.integer 2).isNumber && (Value.boolean true).isNumber) = false
    ∧ (∀ op, arithmetic op (.integer 2) (.boolean true) 28
        = .error (.notANumber (blamedKind (.integer 2) (.boolean true)))
      ↔ ¬ (op = .pow ∧ (Value.integer 2).isTooLarge = true))
    ∧ ((Value.integer 2).isTooLarge = true →
      arithmetic .pow (.integer 2) (.boolean true) 28 = .error (.overflow Operator.pow.symbol))
    ∧ ∀ (f : RealFunction) (u : Value),
        applyFunction f u = .error (.notANumber u.kind) ↔ u.isNumber = false :=
  ⟨rfl, nonNumbers_reported 28 rfl⟩

/-- A power of `10 ^ 400` hides an exponent that is no number. A product does not. -/
theorem overflow_hides_nonNumber :
    arithmetic .pow (.integer (10 ^ 400)) (.boolean true) 28
        = .error (.overflow Operator.pow.symbol)
    ∧ arithmetic .pow (.integer (10 ^ 400)) (.boolean true) 28 ≠ .error (.notANumber .boolean)
    ∧ arithmetic .mul (.integer (10 ^ 400)) (.boolean true) 28
        = .error (.notANumber .boolean) := by
  decide +kernel

end Reckoner
