import Reckoner.Proofs.Evaluation.Denotation
import Reckoner.Proofs.Formula.Minus

/-!
Trees about whole numbers.

Sums, differences and products of whole numbers are whole numbers of any size. To take a
product away is to add it with its first factor negated, so moving the minus signs of such a
tree does not change what it means.

* `Formula.StartsProduct`, `Formula.IsWhole`, `Formula.IsWholeLine`: the trees;
* `Formula.wholeNumber?`, `Formula.denote_of_isWhole`: the whole number that a tree means;
* `Formula.wholeNumber?_moveMinus`, `Formula.denote_moveMinus`: its minus signs may move.
-/

namespace Reckoner

/-- Sums, differences and products of whole numbers. -/
def Operator.wholeNumber? : Operator → ℤ → ℤ → Option ℤ
  | add, a, b => some (a + b)
  | sub, a, b => some (a - b)
  | mul, a, b => some (a * b)
  | _, _, _ => none

namespace Formula

/-! ### The trees -/

/-- Products whose first factor is a number as it was written. -/
def StartsProduct : Formula → Prop
  | literal _ _ => True
  | binary op left _ _ => op = .mul ∧ left.StartsProduct
  | _ => False

/-- Sums, differences and products of whole numbers and variables that stand for them, where
what is taken away is a product that starts with a number. -/
def IsWhole (table : Table) : Formula → Prop
  | literal value _ => ∃ n, value = .int n
  | var name _ => ∀ v ∈ table.get? name, ∃ n, v = .integer n
  | binary op left right _ =>
      left.IsWhole table ∧ right.IsWhole table
        ∧ (op = .add ∨ op = .mul ∨ op = .sub ∧ right.StartsProduct)
  | _ => False

/-- Trees of this form, comparisons of two of them, and assignments of these. -/
def IsWholeLine (table : Table) : Formula → Prop
  | assign _ value _ => value.IsWholeLine table
  | binary op left right span =>
      (op.isComparison = true ∧ left.IsWhole table ∧ right.IsWhole table)
        ∨ (binary op left right span).IsWhole table
  | t => t.IsWhole table

/-- The whole number that a tree means, if all its parts mean whole numbers. -/
def wholeNumber? (table : Table) : Formula → Option ℤ
  | literal (.int n) _ => some n
  | var name _ => (table.get? name).bind fun
      | .integer n => some n
      | _ => none
  | binary op left right _ => do
      op.wholeNumber? (← left.wholeNumber? table) (← right.wholeNumber? table)
  | _ => none

variable {t : Formula} {table : Table}

/-- Such trees mean whole numbers and leave the table as it is. -/
lemma denote_of_isWhole (h : t.IsWhole table) (precision : UInt64) :
    t.denote precision table = (t.wholeNumber? table).map (.integer ·, table) := by
  induction t with
  | literal value span =>
      obtain ⟨n, rfl⟩ := h
      rfl
  | var name span =>
      rw [denote, wholeNumber?]
      rcases hv : table.get? name with _ | v
      · rfl
      · obtain ⟨n, rfl⟩ := h v hv
        rfl
  | binary op left right span ihl ihr =>
      obtain ⟨hl, hr, hop⟩ := h
      rw [denote, wholeNumber?, ihl hl]
      rcases left.wholeNumber? table with _ | a
      · rfl
      · simp only [Option.map_some, Option.bind_eq_bind, Option.bind_some, ihr hr]
        rcases right.wholeNumber? table with _ | b
        · rfl
        · obtain rfl | rfl | ⟨rfl, -⟩ := hop <;> rfl
  | call f argument span | assign name value span | empty => exact h.elim

/-! ### Moving the minus signs -/

lemma wholeNumber?_negateFirst (h : t.StartsProduct) :
    t.negateFirst.wholeNumber? table = (t.wholeNumber? table).map (-·) := by
  induction t with
  | literal value span => cases value <;> rfl
  | binary op left right span ihl _ =>
      obtain ⟨rfl, hleft⟩ := h
      rw [negateFirst, wholeNumber?, wholeNumber?, ihl hleft]
      rcases left.wholeNumber? table with _ | a
      · rfl
      · rcases right.wholeNumber? table with _ | b
        · rfl
        · simp [Operator.wholeNumber?]
  | var name span | call f argument span | assign name value span | empty => exact h.elim

lemma IsWhole.negateFirst (h : t.IsWhole table) : t.negateFirst.IsWhole table := by
  induction t with
  | literal value span =>
      obtain ⟨n, rfl⟩ := h
      exact ⟨-n, rfl⟩
  | binary op left right span ihl _ => exact ⟨ihl h.1, h.2⟩
  | _ => exact h

lemma StartsProduct.moveMinus (h : t.StartsProduct) : t.moveMinus.StartsProduct := by
  induction t with
  | binary op left right span ihl _ =>
      obtain ⟨rfl, hleft⟩ := h
      exact ⟨rfl, ihl hleft⟩
  | call f argument span | assign name value span => exact h.elim
  | _ => exact h

lemma IsWhole.moveMinus (h : t.IsWhole table) : t.moveMinus.IsWhole table := by
  induction t with
  | binary op left right span ihl ihr =>
      obtain ⟨hl, hr, rfl | rfl | ⟨rfl, -⟩⟩ := h
      · exact ⟨ihl hl, ihr hr, .inl rfl⟩
      · exact ⟨ihl hl, ihr hr, .inr (.inl rfl)⟩
      · exact ⟨ihl hl, (ihr hr).negateFirst, .inl rfl⟩
  | call f argument span | assign name value span => exact h.elim
  | _ => exact h

/-- To take a product away is to add it with its first factor negated. -/
lemma wholeNumber?_moveMinus (h : t.IsWhole table) :
    t.moveMinus.wholeNumber? table = t.wholeNumber? table := by
  induction t with
  | binary op left right span ihl ihr =>
      obtain ⟨hl, hr, hop⟩ := h
      by_cases hsub : op = .sub
      · have hstarts : right.StartsProduct := by simpa [hsub] using hop
        rw [Formula.moveMinus, if_pos hsub, wholeNumber?, wholeNumber?, ihl hl,
          wholeNumber?_negateFirst hstarts.moveMinus, ihr hr, hsub]
        rcases left.wholeNumber? table with _ | a
        · rfl
        · rcases right.wholeNumber? table with _ | b
          · rfl
          · simp [Operator.wholeNumber?, Int.sub_eq_add_neg]
      · rw [Formula.moveMinus, if_neg hsub, wholeNumber?, wholeNumber?, ihl hl, ihr hr]
  | call f argument span | assign name value span => exact h.elim
  | _ => rfl

lemma IsWhole.denote_moveMinus (h : t.IsWhole table) (precision : UInt64) :
    t.moveMinus.denote precision table = t.denote precision table := by
  rw [denote_of_isWhole h, denote_of_isWhole h.moveMinus, wholeNumber?_moveMinus h]

/-- **Whole numbers.** A line of whole numbers means the same after its minus signs have
moved. -/
theorem denote_moveMinus (h : t.IsWholeLine table) (precision : UInt64) :
    t.moveMinus.denote precision table = t.denote precision table := by
  induction t with
  | assign name value span ih => rw [Formula.moveMinus, denote, denote, ih h]
  | binary op left right span _ _ =>
      obtain ⟨hop, hl, hr⟩ | h := h
      · rw [Formula.moveMinus, if_neg (Operator.ne_sub_of_isComparison hop), denote, denote,
          hl.denote_moveMinus, denote_of_isWhole hl]
        rcases left.wholeNumber? table with _ | a
        · rfl
        · simp [hr.denote_moveMinus]
      · exact h.denote_moveMinus precision
  | call f argument span => exact h.elim
  | _ => rfl

end Formula

end Reckoner
