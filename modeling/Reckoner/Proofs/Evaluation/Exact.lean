import Reckoner.Proofs.Decimal.Exact
import Reckoner.Proofs.Evaluation.Expression

/-!
Exact evaluation.

Whole numbers and decimals are rational numbers. A tree of sums, differences and products of
them always has a value, which is a whole number if all its leaves are. It is the rational
number that the tree stands for, as long as the scales of two factors add up to a scale.

* `Formula.IsExact`: the trees;
* `Formula.rational?`: the rational number that such a tree stands for;
* `Operator.operate_exact`: one operator, as an operation on decimals;
* `Formula.exists_valueIn`: the value of such a tree;
* `Formula.AllProducts`, `Formula.exact_iff`: when it is the rational number;
* `Formula.allProducts_of_places`: this is so unless scales get very large;
* `Formula.eval_exact`: what becomes of such a tree.
-/

namespace Reckoner

open Step Evaluation

/-! ### Exact values and operators -/

/-- The rational number that a whole number or a decimal is. -/
def Value.toRat? (v : Value) : Option ℚ := v.toDecimal?.map Decimal.toRat

lemma Value.exists_toDecimal? {v : Value} :
    (∃ a, v.toDecimal? = some a) ↔ v.kind = .integer ∨ v.kind = .decimal := by
  cases v <;> simp [toDecimal?, kind]

namespace Operator

/-- The operators whose results are exact. -/
def IsExact (op : Operator) : Prop := op = .add ∨ op = .sub ∨ op = .mul

/-- Sums, differences and products of rational numbers. -/
def rational? : Operator → ℚ → ℚ → Option ℚ
  | add, x, y => some (x + y)
  | sub, x, y => some (x - y)
  | mul, x, y => some (x * y)
  | _, _, _ => none

/-- Sums, differences and products of decimals. -/
def decimal? : Operator → Decimal → Decimal → Option Decimal
  | add, a, b => some (a.add b)
  | sub, a, b => some (a.sub b)
  | mul, a, b => some (a.mul b)
  | _, _, _ => none

variable {op : Operator} {v w : Value} {a b c : Decimal}

/-- Whole numbers are calculated with like decimals at scale zero. -/
lemma decimal?_ofInt (hop : op.IsExact) (m n : ℤ) :
    ∃ k, (∀ precision, operate op (.integer m) (.integer n) precision = .ok (.integer k))
      ∧ op.decimal? (.ofInt m) (.ofInt n) = some (.ofInt k) := by
  obtain rfl | rfl | rfl := hop
  · refine ⟨m + n, fun _ => rfl, congrArg some ?_⟩
    simp [Decimal.add, Decimal.unscaledAt_eq, Decimal.commonScale, Decimal.ofInt]
  · refine ⟨m - n, fun _ => rfl, congrArg some ?_⟩
    simp only [Decimal.sub, Decimal.unscaledAt_eq, Decimal.commonScale, Decimal.ofInt, Decimal.neg]
    split
    · next hn => simp [hn]
    · split
      · next hm => simp [hm]
      · simp
  · refine ⟨m * n, fun _ => rfl, congrArg some ?_⟩
    have hone (n : ℤ) : (Decimal.ofInt n).isOne = true ↔ n = 1 := by
      simp [Decimal.isOne_iff, Decimal.ofInt, Decimal.toRat]
    simp only [Decimal.mul, hone]
    split
    · next hm => simp [hm]
    · split
      · next hn => simp [hn]
      · rfl

/-- **One operator** on exact values is the operation on decimals, and gives a whole number
for two whole numbers only. -/
lemma operate_exact (hop : op.IsExact) (hv : v.toDecimal? = some a) (hw : w.toDecimal? = some b)
    (precision : UInt64) :
    ∃ u c, operate op v w precision = .ok u ∧ u.toDecimal? = some c ∧ op.decimal? a b = some c
      ∧ (u.kind = .integer ↔ v.kind = .integer ∧ w.kind = .integer) := by
  cases v with
  | integer m =>
      obtain rfl : .ofInt m = a := Option.some.inj hv
      cases w with
      | integer n =>
          obtain rfl : .ofInt n = b := Option.some.inj hw
          obtain ⟨k, hoperate, hdecimal⟩ := decimal?_ofInt hop m n
          exact ⟨.integer k, _, hoperate precision, rfl, hdecimal, by simp [Value.kind]⟩
      | decimal y =>
          obtain rfl : y = b := Option.some.inj hw
          obtain rfl | rfl | rfl := hop <;> exact ⟨_, _, rfl, rfl, rfl, by simp [Value.kind]⟩
      | _ => simp [Value.toDecimal?] at hw
  | decimal x =>
      obtain rfl : x = a := Option.some.inj hv
      cases w with
      | integer n =>
          obtain rfl : .ofInt n = b := Option.some.inj hw
          obtain rfl | rfl | rfl := hop <;> exact ⟨_, _, rfl, rfl, rfl, by simp [Value.kind]⟩
      | decimal y =>
          obtain rfl : y = b := Option.some.inj hw
          obtain rfl | rfl | rfl := hop <;> exact ⟨_, _, rfl, rfl, rfl, by simp [Value.kind]⟩
      | _ => simp [Value.toDecimal?] at hw
  | _ => simp [Value.toDecimal?] at hv

/-- An operation on decimals gives the rational number, unless it is a product and its factors
do not allow it. -/
lemma rational?_eq_iff (hop : op.IsExact) (h : op.decimal? a b = some c) :
    op.rational? a.toRat b.toRat = some c.toRat ↔ (op = .mul → a.ExactFactors b) := by
  obtain rfl | rfl | rfl := hop
  · obtain rfl : a.add b = c := Option.some.inj h
    simp [Operator.rational?, Decimal.toRat_add]
  · obtain rfl : a.sub b = c := Option.some.inj h
    simp [Operator.rational?, Decimal.toRat_sub]
  · obtain rfl : a.mul b = c := Option.some.inj h
    simp [Operator.rational?, ← Decimal.toRat_mul_iff, eq_comm]

/-- As long as the scales of both operands together stay below the limit of scales, factors
are exact, and the scale of the result is no larger than both together. -/
lemma places_le (hop : op.IsExact) (h : op.decimal? a b = some c)
    (hplaces : a.places + b.places < 2 ^ 63) :
    a.ExactFactors b ∧ c.places ≤ a.places + b.places := by
  have hadd : a.ScalesAdd b := by
    unfold Decimal.places at hplaces
    constructor <;> omega
  refine ⟨.inr (.inr (.inr (.inr hadd))), ?_⟩
  have hrules := Decimal.scaleRules a b
  unfold Decimal.places at hplaces ⊢
  obtain rfl | rfl | rfl := hop
  · obtain rfl : a.add b = c := Option.some.inj h
    have hscale := hrules.add
    omega
  · obtain rfl : a.sub b = c := Option.some.inj h
    unfold Decimal.sub
    split
    · omega
    · split
      · show b.scale.toInt.natAbs ≤ _
        omega
      · have hscale := Decimal.toInt_commonScale a b
        show (Decimal.commonScale a b).toInt.natAbs ≤ _
        omega
  · obtain rfl : a.mul b = c := Option.some.inj h
    unfold Decimal.mul
    split
    · omega
    · split
      · omega
      · have hscale := Decimal.toInt_scale_add_iff.mpr hadd
        show (a.scale + b.scale).toInt.natAbs ≤ _
        omega

end Operator

/-! ### Exact trees -/

/-- A leaf is a whole number. -/
def Token.IsInteger (table : Table) : Token → Prop
  | .int _ => True
  | .ident name => ∃ n, table.get? name = some (.integer n)
  | _ => False

/-- The magnitude of the scale of a leaf. -/
def Token.places (table : Table) : Token → ℕ
  | .decimal a => a.places
  | .ident name => ((table.get? name).bind Value.toDecimal?).elim 0 Decimal.places
  | _ => 0

namespace Formula

/-- Sums, differences and products of whole numbers and decimals, and of variables that stand
for them. -/
def IsExact (table : Table) : Formula → Prop
  | literal _ _ => True
  | var name _ => ∃ v, table.get? name = some v ∧ (v.kind = .integer ∨ v.kind = .decimal)
  | binary op left right _ => op.IsExact ∧ left.IsExact table ∧ right.IsExact table
  | _ => False

/-- The rational number that a sum, difference or product of numbers stands for. -/
def rational? (table : Table) : Formula → Option ℚ
  | literal value _ => (Value.ofLiteral value).toRat?
  | var name _ => (table.get? name).bind Value.toRat?
  | binary op left right _ => do
      op.rational? (← left.rational? table) (← right.rational? table)
  | _ => none

/-- The decimal that the value of a tree is, if it has one that is exact. -/
def decimalIn (precision : UInt64) (table : Table) (t : Formula) : Option Decimal :=
  (t.valueIn precision table).toOption.bind Value.toDecimal?

/-- What holds of the two factors of each product of exact values in a tree. -/
def AllProducts (P : Decimal → Decimal → Prop) (precision : UInt64) (table : Table) :
    Formula → Prop
  | binary op left right _ =>
      left.AllProducts P precision table ∧ right.AllProducts P precision table
        ∧ (op = .mul → ∀ a ∈ left.decimalIn precision table,
            ∀ b ∈ right.decimalIn precision table, P a b)
  | call _ argument _ => argument.AllProducts P precision table
  | assign _ value _ => value.AllProducts P precision table
  | _ => True

/-- A tree and all trees below it. -/
def parts : Formula → List Formula
  | binary op left right span => binary op left right span :: (left.parts ++ right.parts)
  | call f argument span => call f argument span :: argument.parts
  | assign name value span => assign name value span :: value.parts
  | t => [t]

variable {precision : UInt64} {table : Table} {t left right : Formula} {op : Operator}
  {span : Span}

lemma decimalIn_eq_some {a : Decimal} :
    t.decimalIn precision table = some a
      ↔ ∃ v, t.valueIn precision table = .ok v ∧ v.toDecimal? = some a := by
  rw [decimalIn]
  cases t.valueIn precision table <;> simp [Except.toOption]

/-- An operation on exact values has the exact value that the operation on decimals gives. -/
lemma decimalIn_binary {a b : Decimal} (hl : left.IsExpression) (hr : right.IsExpression)
    (hop : op.IsExact) (ha : left.decimalIn precision table = some a)
    (hb : right.decimalIn precision table = some b) (span : Span) :
    ∃ c, (binary op left right span).decimalIn precision table = some c
      ∧ op.decimal? a b = some c := by
  obtain ⟨v, hv, hva⟩ := decimalIn_eq_some.mp ha
  obtain ⟨w, hw, hwb⟩ := decimalIn_eq_some.mp hb
  obtain ⟨u, c, hu, hc, hdecimal, -⟩ := Operator.operate_exact hop hva hwb precision
  have hvalue := valueIn_binary_of_ok hl hr hv hw hu span
  exact ⟨c, decimalIn_eq_some.mpr ⟨u, hvalue, hc⟩, hdecimal⟩

lemma IsExact.isExpression (h : t.IsExact table) : t.IsExpression := by
  induction t with
  | literal value span | var name span => trivial
  | binary op left right span ihl ihr => exact ⟨ihl h.2.1, ihr h.2.2⟩
  | call f argument span | assign name value span | empty => exact h.elim

/-- An exact tree has an exact value, which is a whole number if all leaves are. -/
lemma exists_valueIn (h : t.IsExact table) (precision : UInt64) :
    ∃ v a, t.valueIn precision table = .ok v ∧ v.toDecimal? = some a
      ∧ (v.kind = .integer ↔ ∀ leaf ∈ t.leaves, leaf.IsInteger table) := by
  induction t with
  | literal value span =>
      cases value with
      | int n =>
          refine ⟨.integer n, .ofInt n, rfl, rfl, ?_⟩
          simp [leaves, Literal.token, Token.IsInteger, Value.kind]
      | decimal a =>
          refine ⟨.decimal a, a, rfl, rfl, ?_⟩
          simp [leaves, Literal.token, Token.IsInteger, Value.kind]
  | var name span =>
      obtain ⟨v, hv, hkind⟩ := h
      obtain ⟨a, ha⟩ := Value.exists_toDecimal?.mpr hkind
      refine ⟨v, a, by rw [valueIn_var, hv], ha, ?_⟩
      cases v <;> simp [leaves, Token.IsInteger, hv, Value.kind]
  | binary op left right span ihl ihr =>
      obtain ⟨hop, hl, hr⟩ := h
      obtain ⟨v, a, hv, ha, hvkind⟩ := ihl hl
      obtain ⟨w, b, hw, hb, hwkind⟩ := ihr hr
      obtain ⟨u, c, hu, hc, -, hukind⟩ := Operator.operate_exact hop ha hb precision
      have hvalue := valueIn_binary_of_ok hl.isExpression hr.isExpression hv hw hu span
      refine ⟨u, c, hvalue, hc, ?_⟩
      rw [hukind, hvkind, hwkind, leaves, List.forall_mem_append]
  | call f argument span | assign name value span | empty => exact h.elim

/-- The value of an operation is the operation on the values of the operands. -/
lemma exists_decimalIn (h : (binary op left right span).IsExact table) (precision : UInt64) :
    ∃ a b c, left.decimalIn precision table = some a ∧ right.decimalIn precision table = some b
      ∧ (binary op left right span).decimalIn precision table = some c
      ∧ op.decimal? a b = some c := by
  obtain ⟨hop, hl, hr⟩ := h
  obtain ⟨v, a, hv, ha, -⟩ := exists_valueIn hl precision
  obtain ⟨w, b, hw, hb, -⟩ := exists_valueIn hr precision
  have hleft := decimalIn_eq_some.mpr ⟨v, hv, ha⟩
  have hright := decimalIn_eq_some.mpr ⟨w, hw, hb⟩
  obtain ⟨c, hc, hdecimal⟩ := decimalIn_binary hl.isExpression hr.isExpression hop hleft hright span
  exact ⟨a, b, c, hleft, hright, hc, hdecimal⟩

lemma self_mem_parts (t : Formula) : t ∈ t.parts := by
  cases t <;> exact List.mem_cons_self

/-- The value of a tree is the rational number that the tree stands for. -/
def HasExactValue (precision : UInt64) (table : Table) (t : Formula) : Prop :=
  (t.decimalIn precision table).map Decimal.toRat = t.rational? table

/-- An operation whose operands have exact values has one itself, unless it is a product and
its factors do not allow it. -/
lemma hasExactValue_binary_iff (h : (binary op left right span).IsExact table)
    (hl : left.HasExactValue precision table) (hr : right.HasExactValue precision table) :
    (binary op left right span).HasExactValue precision table
      ↔ (op = .mul → ∀ a ∈ left.decimalIn precision table,
          ∀ b ∈ right.decimalIn precision table, a.ExactFactors b) := by
  obtain ⟨a, b, c, ha, hb, hc, hdecimal⟩ := exists_decimalIn h precision
  rw [HasExactValue, ha, Option.map_some] at hl
  rw [HasExactValue, hb, Option.map_some] at hr
  have hrational : (binary op left right span).rational? table
      = op.rational? a.toRat b.toRat := by
    rw [rational?, ← hl, ← hr]
    rfl
  rw [HasExactValue, hc, hrational, ha, hb, Option.map_some, eq_comm,
    Operator.rational?_eq_iff h.1 hdecimal]
  simp

/-- **When values are exact**: all parts of a tree have exact values if and only if the factors
of all its products allow it. -/
theorem exact_iff (h : t.IsExact table) (precision : UInt64) :
    t.AllProducts Decimal.ExactFactors precision table
      ↔ ∀ s ∈ t.parts, s.HasExactValue precision table := by
  induction t with
  | literal value span =>
      have hvalue : (literal value span).HasExactValue precision table := rfl
      simpa [AllProducts, parts] using hvalue
  | var name span =>
      obtain ⟨v, hv, -⟩ := h
      have hvalue : (var name span).HasExactValue precision table := by
        simp [HasExactValue, decimalIn, valueIn_var, rational?, hv, Except.toOption, Value.toRat?]
      simpa [AllProducts, parts] using hvalue
  | binary op left right span ihl ihr =>
      have hl := ihl h.2.1
      have hr := ihr h.2.2
      constructor
      · rintro ⟨hpl, hpr, hfactors⟩ s hs
        have hleft := hl.mp hpl
        have hright := hr.mp hpr
        obtain rfl | hs := List.mem_cons.mp hs
        · exact (hasExactValue_binary_iff h (hleft left left.self_mem_parts)
            (hright right right.self_mem_parts)).mpr hfactors
        · exact (List.mem_append.mp hs).elim (hleft s) (hright s)
      · intro hparts
        have hleft (s : Formula) (hs : s ∈ left.parts) : s.HasExactValue precision table :=
          hparts s (by simp [parts, hs])
        have hright (s : Formula) (hs : s ∈ right.parts) : s.HasExactValue precision table :=
          hparts s (by simp [parts, hs])
        have hself := hparts _ (self_mem_parts _)
        exact ⟨hl.mpr hleft, hr.mpr hright,
          (hasExactValue_binary_iff h (hleft left left.self_mem_parts)
            (hright right right.self_mem_parts)).mp hself⟩
  | call f argument span | assign name value span | empty => exact h.elim

/-- The magnitudes of the scales of all leaves, taken together. -/
def places (table : Table) (t : Formula) : ℕ := (t.leaves.map (·.places table)).sum

/-- Scales add up from the leaves, so where those of all leaves together stay below the limit
of scales, factors are exact. -/
lemma allProducts_of_places (h : t.IsExact table) (hplaces : t.places table < 2 ^ 63)
    (precision : UInt64) :
    t.AllProducts Decimal.ExactFactors precision table
      ∧ ∀ a ∈ t.decimalIn precision table, a.places ≤ t.places table := by
  induction t with
  | literal value span =>
      refine ⟨trivial, fun a ha => ?_⟩
      cases value with
      | int n =>
          obtain rfl : .ofInt n = a := Option.some.inj ha
          exact Nat.zero_le _
      | decimal b =>
          obtain rfl : b = a := Option.some.inj ha
          simp [places, leaves, Literal.token, Token.places]
  | var name span =>
      refine ⟨trivial, fun a ha => ?_⟩
      obtain ⟨v, hv, -⟩ := h
      rw [decimalIn, valueIn_var, hv] at ha
      simp only [Except.toOption, Option.bind_some, Option.mem_def] at ha
      simp [places, leaves, Token.places, hv, ha]
  | binary op left right span ihl ihr =>
      have hsum : (binary op left right span).places table
          = left.places table + right.places table := by simp [places, leaves]
      rw [hsum] at hplaces ⊢
      obtain ⟨hpl, hleft⟩ := ihl h.2.1 (by omega)
      obtain ⟨hpr, hright⟩ := ihr h.2.2 (by omega)
      obtain ⟨a, b, c, ha, hb, hc, hdecimal⟩ := exists_decimalIn h precision
      have hale := hleft a ha
      have hble := hright b hb
      obtain ⟨hfactors, hcle⟩ := Operator.places_le h.1 hdecimal (by omega)
      refine ⟨⟨hpl, hpr, fun _ => ?_⟩, ?_⟩
      · rw [ha, hb]
        simpa using hfactors
      · rw [hc]
        simp only [Option.mem_some_iff, forall_eq']
        omega
  | call f argument span | assign name value span | empty => exact h.elim

/-- **Exact evaluation.** Sums, differences and products of whole numbers and decimals have a
value and change nothing. The value is a whole number if all leaves are, and a decimal
otherwise. It is the rational number that the tree stands for wherever the factors of all
products allow it, which they do unless scales reach the limit of scales; and only then have
all parts of the tree exact values. -/
theorem eval_exact (h : t.IsExact table) (precision : UInt64) :
    (∃ v, (∀ e : Evaluation, e.table = table → on (t.eval precision) e = (.ok v, e))
        ∧ (v.kind = .integer ∨ v.kind = .decimal)
        ∧ (v.kind = .integer ↔ ∀ leaf ∈ t.leaves, leaf.IsInteger table)
        ∧ (t.AllProducts Decimal.ExactFactors precision table →
            v.toRat? = t.rational? table))
      ∧ (t.AllProducts Decimal.ExactFactors precision table
          ↔ ∀ s ∈ t.parts, s.HasExactValue precision table)
      ∧ (t.places table < 2 ^ 63 → t.AllProducts Decimal.ExactFactors precision table)
      ∧ ∀ a b, Decimal.ScaleRules a b := by
  obtain ⟨v, a, hv, ha, hkind⟩ := exists_valueIn h precision
  refine ⟨⟨v, ?_, Value.exists_toDecimal?.mp ⟨a, ha⟩, hkind, ?_⟩, exact_iff h precision,
    fun hplaces => (allProducts_of_places h hplaces precision).1, Decimal.scaleRules⟩
  · rintro e rfl
    rw [on_eval h.isExpression, hv]
  · intro hproducts
    have hexact := (exact_iff h precision).mp hproducts t t.self_mem_parts
    rwa [HasExactValue, decimalIn, hv] at hexact

/-- With `y = 0.3`, the value of `y * 1.5 - 2` is exact. -/
theorem eval_exact_difference :
    let table := Table.set ∅ "y" (.decimal ⟨3, 1⟩)
    let t := binary .sub (binary .mul (var "y" ⟨0, 1⟩) (literal (.decimal ⟨15, 1⟩) ⟨4, 7⟩)
      ⟨0, 7⟩) (literal (.int 2) ⟨10, 11⟩) ⟨0, 11⟩
    t.IsExact table ∧ ∃ v, t.valueIn 28 table = .ok v ∧ v.toRat? = some (-31 / 20) := by
  intro table t
  have hy : table.get? "y" = some (.decimal ⟨3, 1⟩) := by simp [table, Table.get?_set]
  have ht : t.IsExact table :=
    ⟨.inr (.inl rfl), ⟨.inr (.inr rfl), ⟨_, hy, .inr rfl⟩, trivial⟩, trivial⟩
  obtain ⟨⟨v, hv, -, -, hexact⟩, -, hfit, -⟩ := eval_exact ht 28
  have hplaces : t.places table < 2 ^ 63 := by
    simp [t, places, leaves, Literal.token, Token.places, hy, Value.toDecimal?, Decimal.places]
  have htenth (n : ℤ) : Decimal.toRat ⟨n, 1⟩ = n / 10 := by
    rw [Decimal.toRat, show Int64.toInt 1 = 1 from rfl, zpow_neg_one, div_eq_mul_inv]
  have hrational : t.rational? table = some (-31 / 20) := by
    simp [t, rational?, hy, Value.toRat?, Value.toDecimal?, Value.ofLiteral,
      Operator.rational?, htenth]
    norm_num
  have hvalue : t.valueIn 28 table = .ok v := congrArg Prod.fst (hv (.start table) rfl)
  exact ⟨ht, v, hvalue, (hexact (hfit hplaces)).trans hrational⟩

/-- At the largest scale, `x * 0.3` is not exact: the scale of the product wraps around. -/
theorem not_exact_at_largest_scale :
    let table := Table.set ∅ "x" (.decimal ⟨2, Int64.maxValue⟩)
    let t := binary .mul (var "x" ⟨0, 1⟩) (literal (.decimal ⟨3, 1⟩) ⟨4, 7⟩) ⟨0, 7⟩
    t.IsExact table ∧ t.decimalIn 28 table = some ⟨6, Int64.minValue⟩
      ∧ ¬ t.HasExactValue 28 table := by
  intro table t
  have hx : table.get? "x" = some (.decimal ⟨2, Int64.maxValue⟩) := by
    simp [table, Table.get?_set]
  have ht : t.IsExact table := ⟨.inr (.inr rfl), ⟨_, hx, .inr rfl⟩, trivial⟩
  have hleft : (var "x" ⟨0, 1⟩).decimalIn 28 table = some ⟨2, Int64.maxValue⟩ :=
    decimalIn_eq_some.mpr ⟨_, by rw [valueIn_var, hx], rfl⟩
  have hright : (literal (.decimal ⟨3, 1⟩) ⟨4, 7⟩).decimalIn 28 table = some ⟨3, 1⟩ := rfl
  have hfactors : ¬ Decimal.ExactFactors ⟨2, Int64.maxValue⟩ ⟨3, 1⟩ := by
    simp [Decimal.ExactFactors, Decimal.FittingFactors, Decimal.ScalesAdd]
    decide
  have hleftExact : (var "x" ⟨0, 1⟩).HasExactValue 28 table := by
    simp [HasExactValue, hleft, rational?, hx, Value.toRat?, Value.toDecimal?]
  refine ⟨ht, ?_, ?_⟩
  · obtain ⟨hl, hr⟩ := ht.isExpression
    obtain ⟨c, hc, hdecimal⟩ := decimalIn_binary hl hr ht.1 hleft hright ⟨0, 7⟩
    rw [hc, ← hdecimal]
    rfl
  · intro hexact
    exact hfactors ((hasExactValue_binary_iff ht hleftExact rfl).mp hexact rfl _ hleft _ hright)

end Formula

end Reckoner
