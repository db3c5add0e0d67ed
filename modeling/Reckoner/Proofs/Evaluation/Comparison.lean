import Reckoner.Evaluation.Arithmetic
import Reckoner.Proofs.Decimal.Magnitude

/-!
Comparisons of exact values.

A whole number or a decimal is compared as the rational number that it is. How the number is
written does not matter: all comparisons of two values are comparisons of two rational numbers, and
their laws are those of the order of the rational numbers.

* `ExactValue`, `ExactValue.ofInt`, `ExactValue.ofDecimal`, `ExactValue.number`: whole numbers and
  decimals, and the numbers that they are;
* `Operator.Relates`, `Operator.holds_compare`: what the comparison signs stand for;
* `compareValues_exact`: two exact values;
* `StrictOrderUpTo`: strict orders that are total up to an equivalence;
* `comparisons_exact`: the comparisons of exact values, and their laws.
-/

namespace Reckoner

/-! ### Exact values -/

/-- A whole number or a decimal. -/
structure ExactValue where
  value : Value
  decimal : Decimal
  isExact : value.toDecimal? = some decimal

namespace ExactValue

/-- A whole number. -/
def ofInt (n : ℤ) : ExactValue := ⟨.integer n, .ofInt n, rfl⟩

/-- A decimal. -/
def ofDecimal (a : Decimal) : ExactValue := ⟨.decimal a, a, rfl⟩

/-- There are no other exact values. -/
lemma eq_ofInt_or_ofDecimal (v : ExactValue) : (∃ n, v = ofInt n) ∨ ∃ a, v = ofDecimal a := by
  obtain ⟨v, a, hv⟩ := v
  cases v with
  | integer n =>
      obtain rfl : .ofInt n = a := Option.some.inj hv
      exact .inl ⟨n, rfl⟩
  | decimal x =>
      obtain rfl : x = a := Option.some.inj hv
      exact .inr ⟨x, rfl⟩
  | _ => simp [Value.toDecimal?] at hv

/-- The number that an exact value is. -/
def number (v : ExactValue) : ℚ := v.decimal.toRat

@[simp] lemma number_ofInt (n : ℤ) : (ofInt n).number = n := Decimal.toRat_ofInt n

@[simp] lemma number_ofDecimal (a : Decimal) : (ofDecimal a).number = a.toRat := rfl

/-- A comparison of two exact values comes out true. -/
def Compares (op : Operator) (v w : ExactValue) : Prop :=
  compareValues op v.value w.value = .ok (.boolean true)

end ExactValue

/-! ### Comparison signs -/

namespace Operator

/-- The relation of two rational numbers that a comparison sign stands for. -/
def Relates : Operator → ℚ → ℚ → Prop
  | equal, x, y => x = y
  | notEqual, x, y => x ≠ y
  | greater, x, y => y < x
  | less, x, y => x < y
  | greaterOrEqual, x, y => y ≤ x
  | lessOrEqual, x, y => x ≤ y
  | add, _, _ | sub, _, _ | mul, _, _ | div, _, _ | pow, _, _ => False

instance : (op : Operator) → (x y : ℚ) → Decidable (op.Relates x y)
  | equal, x, y => inferInstanceAs (Decidable (x = y))
  | notEqual, x, y => inferInstanceAs (Decidable (x ≠ y))
  | greater, x, y => inferInstanceAs (Decidable (y < x))
  | less, x, y => inferInstanceAs (Decidable (x < y))
  | greaterOrEqual, x, y => inferInstanceAs (Decidable (y ≤ x))
  | lessOrEqual, x, y => inferInstanceAs (Decidable (x ≤ y))
  | add, _, _ | sub, _, _ | mul, _, _ | div, _, _ | pow, _, _ => inferInstanceAs (Decidable False)

/-- The comparison sign for what another one denies. -/
def opposite : Operator → Operator
  | equal => notEqual
  | notEqual => equal
  | greater => lessOrEqual
  | less => greaterOrEqual
  | greaterOrEqual => less
  | lessOrEqual => greater
  | op => op

/-- Comparison signs are read off the order of two numbers. -/
lemma holds_compare {op : Operator} (hop : op.isComparison = true) (x y : ℚ) :
    op.holds (compare x y) = .ok (decide (op.Relates x y)) := by
  cases op with
  | add | sub | mul | div | pow => cases hop
  | equal | notEqual =>
      refine congrArg Except.ok (Bool.eq_iff_iff.mpr (Iff.trans ?_ decide_eq_true_iff.symm))
      simp [Relates]
  | greater | lessOrEqual =>
      refine congrArg Except.ok (Bool.eq_iff_iff.mpr (Iff.trans ?_ decide_eq_true_iff.symm))
      simp [Relates, compare_gt_iff_gt]
  | less | greaterOrEqual =>
      refine congrArg Except.ok (Bool.eq_iff_iff.mpr (Iff.trans ?_ decide_eq_true_iff.symm))
      simp [Relates, compare_lt_iff_lt]

lemma isComparison_opposite (op : Operator) : op.opposite.isComparison = op.isComparison := by
  cases op <;> rfl

lemma relates_opposite {op : Operator} (hop : op.isComparison = true) (x y : ℚ) :
    op.opposite.Relates x y ↔ ¬ op.Relates x y := by
  cases op <;> simp_all [isComparison, opposite, Relates]

end Operator

/-! ### Two exact values -/

/-- Two exact values are ordered as the numbers that they are, whatever their kinds and scales. -/
lemma compareValues_order (op : Operator) (v w : ExactValue) :
    compareValues op v.value w.value
      = (op.holds (compare v.number w.number)).map Value.boolean := by
  obtain ⟨m, rfl⟩ | ⟨x, rfl⟩ := v.eq_ofInt_or_ofDecimal <;>
    obtain ⟨n, rfl⟩ | ⟨y, rfl⟩ := w.eq_ofInt_or_ofDecimal
  · have hcast : compare (m : ℚ) n = compare m n := by
      simpa using Decimal.compare_mul_right (m := m) (n := n) one_pos
    rw [ExactValue.number_ofInt, ExactValue.number_ofInt, hcast]
    rfl
  -- in the other cases two decimals are compared
  all_goals
    rw [ExactValue.number, ExactValue.number, ← Decimal.cmp_eq_compare]
    rfl

/-- **A comparison of exact values** is that of the numbers that they are. -/
lemma compareValues_exact {op : Operator} (hop : op.isComparison = true) (v w : ExactValue) :
    compareValues op v.value w.value = .ok (.boolean (decide (op.Relates v.number w.number))) := by
  rw [compareValues_order, Operator.holds_compare hop]
  rfl

namespace ExactValue

lemma compares_iff {op : Operator} (hop : op.isComparison = true) (v w : ExactValue) :
    Compares op v w ↔ op.Relates v.number w.number := by
  rw [Compares, compareValues_exact hop]
  simp

lemma compares_equal (v w : ExactValue) : Compares .equal v w ↔ v.number = w.number :=
  compares_iff rfl v w

lemma compares_less (v w : ExactValue) : Compares .less v w ↔ v.number < w.number :=
  compares_iff rfl v w

end ExactValue

/-! ### Laws -/

/-- A strict order whose unrelated elements are the equivalent ones, and that does not tell
equivalent elements apart. -/
structure StrictOrderUpTo {α : Type} (eqv lt : α → α → Prop) : Prop where
  irrefl : ∀ a b, eqv a b → ¬ lt a b
  trans : ∀ a b c, lt a b → lt b c → lt a c
  trichotomous : ∀ a b, lt a b ∨ eqv a b ∨ lt b a
  congr : ∀ a a' b b', eqv a a' → eqv b b' → (lt a b ↔ lt a' b')

lemma strictOrderUpTo_less :
    StrictOrderUpTo (ExactValue.Compares .equal) (ExactValue.Compares .less) where
  irrefl v w h := by
    rw [ExactValue.compares_equal] at h
    rw [ExactValue.compares_less, h]
    exact lt_irrefl _
  trans u v w huv hvw := by
    rw [ExactValue.compares_less] at huv hvw ⊢
    exact huv.trans hvw
  trichotomous v w := by
    simp only [ExactValue.compares_equal, ExactValue.compares_less]
    exact lt_trichotomy _ _
  congr v v' w w' hv hw := by
    rw [ExactValue.compares_equal] at hv hw
    rw [ExactValue.compares_less, ExactValue.compares_less, hv, hw]

lemma equivalence_equal : Equivalence (ExactValue.Compares .equal) where
  refl v := (ExactValue.compares_equal v v).mpr rfl
  symm h := by
    rw [ExactValue.compares_equal] at h ⊢
    exact h.symm
  trans huv hvw := by
    rw [ExactValue.compares_equal] at huv hvw ⊢
    exact huv.trans hvw

/-- **Comparisons of exact values** come out as the sign relates the two numbers. They do not
depend on how the numbers are written, not even with the other operators, which are refused.
Equality is an equivalence, what is less is a strict order that is total up to equality, and the
opposite of a sign holds exactly where the sign does not. -/
theorem comparisons_exact (v w : ExactValue) :
    (∀ op : Operator, op.isComparison = true → compareValues op v.value w.value
      = .ok (.boolean (decide (op.Relates v.number w.number))))
    ∧ (∀ (op : Operator) (v' w' : ExactValue), v'.number = v.number → w'.number = w.number →
      compareValues op v'.value w'.value = compareValues op v.value w.value)
    ∧ Equivalence (ExactValue.Compares .equal)
    ∧ StrictOrderUpTo (ExactValue.Compares .equal) (ExactValue.Compares .less)
    ∧ ∀ op : Operator, op.isComparison = true →
      (ExactValue.Compares op.opposite v w ↔ ¬ ExactValue.Compares op v w) := by
  refine ⟨fun op hop => compareValues_exact hop v w, ?_, equivalence_equal, strictOrderUpTo_less,
    ?_⟩
  · intro op v' w' hv hw
    rw [compareValues_order, compareValues_order, hv, hw]
  · intro op hop
    have hopposite : op.opposite.isComparison = true := op.isComparison_opposite.trans hop
    rw [ExactValue.compares_iff hop, ExactValue.compares_iff hopposite,
      Operator.relates_opposite hop]

/-- `2.50` and `2.5` are equal, and `-3` is less than `-2.5`. -/
theorem comparisons_exact_halves :
    compareValues .equal (.decimal ⟨250, 2⟩) (.decimal ⟨25, 1⟩) = .ok (.boolean true)
    ∧ compareValues .less (.integer (-3)) (.decimal ⟨-25, 1⟩) = .ok (.boolean true) := by
  have hone : (1 : Int64).toInt = 1 := by decide
  have htwo : (2 : Int64).toInt = 2 := by decide
  have hequal : (ExactValue.ofDecimal ⟨250, 2⟩).number = (ExactValue.ofDecimal ⟨25, 1⟩).number := by
    norm_num [Decimal.toRat, hone, htwo]
  have hless : (ExactValue.ofInt (-3)).number < (ExactValue.ofDecimal ⟨-25, 1⟩).number := by
    norm_num [Decimal.toRat, hone]
  obtain ⟨hcompare, -⟩ := comparisons_exact (.ofDecimal ⟨250, 2⟩) (.ofDecimal ⟨25, 1⟩)
  obtain ⟨hcompare', -⟩ := comparisons_exact (.ofInt (-3)) (.ofDecimal ⟨-25, 1⟩)
  refine ⟨?_, ?_⟩
  · rw [← decide_eq_true hequal]
    exact hcompare .equal rfl
  · rw [← decide_eq_true hless]
    exact hcompare' .less rfl

end Reckoner
