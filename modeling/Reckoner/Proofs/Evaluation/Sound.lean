import Reckoner.Proofs.Evaluation.Exact

/-!
Sound values.

A variable stands for a number or a truth value, and its number is finite if it is real. The
value of an expression over such variables is of the same kind, or there is an error, and of
errors about a value's kind only the one about truth values.

* `Lands`: what holds of a result or an error;
* `FunctionsFinite`: what is taken for granted of the real functions;
* `Value.IsSound`, `EvalCause.IsExpected`: the values and errors;
* `operate_lands`, `applyFunction_lands`: operators and functions;
* `Formula.valueIn_lands`: expressions;
* `Formula.allProducts_iff_scalesNonneg`: when no scale is negative.
-/

namespace Reckoner

/-! ### Results and errors -/

/-- A result has the property `P`, or an error the property `Q`. -/
def Lands {ε α : Type} (P : α → Prop) (Q : ε → Prop) : Except ε α → Prop
  | .ok a => P a
  | .error e => Q e

namespace Lands

variable {ε ε' α β : Type} {P : α → Prop} {P' : β → Prop} {Q : ε → Prop} {Q' : ε' → Prop}
  {x : Except ε α}

lemma bind {f : α → Except ε β} (hx : Lands P Q x)
    (hf : ∀ a, x = .ok a → P a → Lands P' Q (f a)) : Lands P' Q (x >>= f) := by
  cases x with
  | error e => exact hx
  | ok a => exact hf a rfl hx

lemma map {f : α → β} (hx : Lands P Q x) (hf : ∀ a, P a → P' (f a)) :
    Lands P' Q (x.map f) := by
  cases x with
  | error e => exact hx
  | ok a => exact hf a hx

lemma mapError {f : ε → ε'} (hx : Lands P Q x) (hf : ∀ e, Q e → Q' (f e)) :
    Lands P Q' (x.mapError f) := by
  cases x with
  | error e => exact hf e hx
  | ok a => exact hx

lemma ite {c : Prop} [Decidable c] {y : Except ε α} (hx : c → Lands P Q x)
    (hy : ¬ c → Lands P Q y) : Lands P Q (if c then x else y) := by
  split
  · next h => exact hx h
  · next h => exact hy h

end Lands

/-! ### Sound values and expected errors -/

/-- What is taken for granted of the real functions: at finite numbers of their domains they
are finite. -/
structure FunctionsFinite : Prop where
  sqrt : ∀ x : Float, x.isFinite → ¬ x < 0.0 → x.sqrt.isFinite
  log : ∀ x : Float, x.isFinite → ¬ x <= 0.0 → x.log.isFinite

/-- Numbers and truth values. Real numbers are finite, and where scales `fit`, no scale is
negative. -/
def Value.IsSound (fit : Prop) : Value → Prop
  | integer _ | boolean _ => True
  | decimal a => fit → 0 ≤ a.scale.toInt
  | real x => FunctionsFinite → x.isFinite
  | text _ | nothing => False

/-- The errors that sound values can lead to: only a truth value is no number, and no operator
is taken for one of the other kind. -/
def EvalCause.IsExpected : EvalCause → Prop
  | notANumber found => found = .boolean
  | notArithmetic _ | notAComparison _ => False
  | _ => True

variable {fit : Prop} {v w : Value} {op : Operator} {precision : UInt64}

lemma Value.IsSound.scale_nonneg (h : v.IsSound fit) (hfit : fit) {a : Decimal}
    (ha : v.toDecimal? = some a) : 0 ≤ a.scale.toInt := by
  cases v with
  | integer n =>
      cases ha
      exact Int.le_refl 0
  | decimal b =>
      cases ha
      exact h hfit
  | _ => cases ha

/-! ### Operators -/

lemma finite_lands (x : Float) (operation : String) :
    Lands (fun y => y.isFinite = true) EvalCause.IsExpected (finite x operation) := by
  unfold finite
  split
  · next h => exact h
  · trivial

lemma real_lands (hv : v.IsSound fit) (operation : String) :
    Lands (fun x => x.isFinite = true) EvalCause.IsExpected (real v operation) := by
  unfold real
  cases v with
  | integer n | decimal a | real x => exact finite_lands _ operation
  | boolean b => exact rfl
  | text s | nothing => exact hv.elim

/-- Two operands that come from two values. -/
def Operands.OfValues (v w : Value) : Operands → Prop
  | decimals a b => v.toDecimal? = some a ∧ w.toDecimal? = some b
  | integers _ _ | reals _ _ => True

lemma kind_of_not_isNumber (hv : v.IsSound fit) (h : v.isNumber = false) : v.kind = .boolean := by
  cases v with
  | boolean b => rfl
  | text s | nothing => exact hv.elim
  | _ => cases h

lemma promote_lands (hv : v.IsSound fit) (hw : w.IsSound fit) (operation : String) :
    Lands (Operands.OfValues v w) EvalCause.IsExpected (promote v w operation) := by
  have hreals : Lands (Operands.OfValues v w) EvalCause.IsExpected
      (do return .reals (← real v operation) (← real w operation)) :=
    (real_lands hv operation).bind fun _ _ _ =>
      (real_lands hw operation).bind fun _ _ _ => trivial
  unfold promote
  rcases hvn : v.isNumber with _ | _
  · exact kind_of_not_isNumber hv hvn
  · rcases hwn : w.isNumber with _ | _
    · exact kind_of_not_isNumber hw hwn
    · split
      · trivial
      · exact ⟨rfl, rfl⟩
      · exact ⟨rfl, rfl⟩
      · exact ⟨rfl, rfl⟩
      · exact hreals

lemma power_lands (hv : v.IsSound fit) (hw : w.IsSound fit) :
    Lands (Value.IsSound fit) EvalCause.IsExpected (power v w) := by
  refine (real_lands hv _).bind fun x _ _ => (real_lands hw _).bind fun y _ _ => ?_
  refine Lands.ite (fun _ => trivial) fun _ => Lands.ite (fun _ => trivial) fun _ => ?_
  exact (finite_lands _ _).bind fun z _ hz _ => hz

lemma realArithmetic_lands (h : op.isComparison = false) (hpow : op ≠ .pow) (x y : Float) :
    Lands (Value.IsSound fit) EvalCause.IsExpected (realArithmetic op x y) := by
  unfold realArithmetic
  cases op with
  | add | sub | mul | div => exact (finite_lands _ _).map fun z hz _ => hz
  | pow => exact absurd rfl hpow
  | _ => cases h

lemma integerArithmetic_lands (h : op.isComparison = false) (hpow : op ≠ .pow) (m n : ℤ) :
    Lands (Value.IsSound fit) EvalCause.IsExpected (integerArithmetic op m n precision) := by
  cases op with
  | add | sub | mul => trivial
  | div => exact fun _ => Decimal.scale_div_nonneg _ _ _
  | pow => exact absurd rfl hpow
  | _ => cases h

lemma decimalArithmetic_lands (h : op.isComparison = false) (hpow : op ≠ .pow) {a b : Decimal}
    (ha : fit → 0 ≤ a.scale.toInt) (hb : fit → 0 ≤ b.scale.toInt)
    (hproduct : fit → op = .mul → a.FittingFactors b) :
    Lands (Value.IsSound fit) EvalCause.IsExpected (decimalArithmetic op a b precision) := by
  cases op with
  | add => exact fun hfit => Decimal.scale_add_nonneg (ha hfit) (hb hfit)
  | sub => exact fun hfit => Decimal.scale_sub_nonneg (ha hfit) (hb hfit)
  | mul => exact fun hfit =>
      (Decimal.scale_mul_nonneg_iff (ha hfit) (hb hfit)).mpr (hproduct hfit rfl)
  | div => exact fun _ => Decimal.scale_div_nonneg a b precision
  | pow => exact absurd rfl hpow
  | _ => cases h

lemma arithmetic_lands (h : op.isComparison = false) (hv : v.IsSound fit) (hw : w.IsSound fit)
    (hproduct : fit → op = .mul → ∀ a ∈ v.toDecimal?, ∀ b ∈ w.toDecimal?, a.FittingFactors b) :
    Lands (Value.IsSound fit) EvalCause.IsExpected (arithmetic op v w precision) := by
  refine Lands.ite (fun _ => power_lands hv hw) fun hpow => ?_
  refine (promote_lands hv hw op.symbol).bind fun operands _ hoperands => ?_
  refine Lands.ite (fun _ => trivial) fun _ => ?_
  cases operands with
  | integers m n => exact integerArithmetic_lands h hpow m n
  | decimals a b =>
      obtain ⟨ha, hb⟩ := hoperands
      exact decimalArithmetic_lands h hpow (fun hfit => hv.scale_nonneg hfit ha)
        (fun hfit => hw.scale_nonneg hfit hb) (fun hfit hop => hproduct hfit hop a ha b hb)
  | reals x y => exact realArithmetic_lands h hpow x y

lemma holds_lands (h : op.isComparison = true) (order : Ordering) :
    Lands (fun _ => True) EvalCause.IsExpected (op.holds order) := by
  cases op with
  | add | sub | mul | div | pow => cases h
  | _ => trivial

lemma compareValues_lands (h : op.isComparison = true) (hv : v.IsSound fit)
    (hw : w.IsSound fit) :
    Lands (Value.IsSound fit) EvalCause.IsExpected (compareValues op v w) := by
  unfold compareValues
  split
  · split
    · trivial
    · trivial
    · exact rfl
  · exact (promote_lands hv hw op.symbol).bind fun operands _ _ =>
      (holds_lands h operands.order).bind fun _ _ _ => trivial

/-- **One operator** on sound values. -/
lemma operate_lands (hv : v.IsSound fit) (hw : w.IsSound fit)
    (hproduct : fit → op = .mul → ∀ a ∈ v.toDecimal?, ∀ b ∈ w.toDecimal?, a.FittingFactors b) :
    Lands (Value.IsSound fit) EvalCause.IsExpected (operate op v w precision) := by
  unfold operate
  split
  · next h => exact compareValues_lands h hv hw
  · next h => exact arithmetic_lands (by simpa using h) hv hw hproduct

/-- **One function** of a sound value. -/
lemma applyFunction_lands (hv : v.IsSound fit) (f : RealFunction) :
    Lands (Value.IsSound fit) EvalCause.IsExpected (applyFunction f v) := by
  refine (real_lands hv f.name).bind fun x _ hx => ?_
  cases f with
  | sqrt => exact Lands.ite (fun _ => trivial) fun hdomain hfinite => hfinite.sqrt x hx hdomain
  | exp => exact (finite_lands x.exp _).bind fun y _ hy _ => hy
  | log => exact Lands.ite (fun _ => trivial) fun hdomain hfinite => hfinite.log x hx hdomain

/-! ### Expressions -/

namespace Formula

variable {table : Table} {t : Formula}

/-- **Expressions** over sound variables have sound values or expected errors. -/
theorem valueIn_lands (ht : t.IsExpression)
    (htable : ∀ name v, table.get? name = some v → v.IsSound fit)
    (hleaves : fit → ∀ a, Token.decimal a ∈ t.leaves → 0 ≤ a.scale.toInt)
    (hproducts : fit → t.AllProducts Decimal.FittingFactors precision table) :
    Lands (Value.IsSound fit) (fun e => e.cause.IsExpected) (t.valueIn precision table) := by
  induction t with
  | literal value span =>
      cases value with
      | int n => trivial
      | decimal a => exact fun hfit => hleaves hfit a List.mem_cons_self
  | var name span =>
      rw [valueIn_var]
      split
      · next v hv => exact htable name v hv
      · trivial
  | binary op left right span ihl ihr =>
      obtain ⟨hl, hr⟩ := ht
      have hleft := ihl hl (fun hfit a ha => hleaves hfit a (List.mem_append_left _ ha))
        (fun hfit => (hproducts hfit).1)
      have hright := ihr hr (fun hfit a ha => hleaves hfit a (List.mem_append_right _ ha))
        (fun hfit => (hproducts hfit).2.1)
      rw [valueIn_binary hl hr]
      refine hleft.bind fun v hvalue hv => hright.bind fun w hvalue' hw => ?_
      refine (operate_lands hv hw fun hfit hop a ha b hb => ?_).mapError fun _ he => he
      refine (hproducts hfit).2.2 hop a ?_ b ?_
      · simpa [decimalIn, hvalue, Except.toOption] using ha
      · simpa [decimalIn, hvalue', Except.toOption] using hb
  | call f argument span ih =>
      have hargument : argument.IsExpression := ht
      rw [valueIn_call hargument]
      exact (ih hargument hleaves hproducts).bind fun v _ hv =>
        (applyFunction_lands hv f).mapError fun _ he => he
  | assign name value span | empty => exact ht.elim

/-- No decimal that comes up in a tree has a negative scale. -/
def ScalesNonneg (precision : UInt64) (table : Table) (t : Formula) : Prop :=
  ∀ s ∈ t.parts, ∀ a ∈ s.decimalIn precision table, 0 ≤ a.scale.toInt

lemma scale_nonneg_of_allProducts (hfit : fit) (ht : t.IsExpression)
    (htable : ∀ name v, table.get? name = some v → v.IsSound fit)
    (hleaves : ∀ a, Token.decimal a ∈ t.leaves → 0 ≤ a.scale.toInt)
    (hproducts : t.AllProducts Decimal.FittingFactors precision table) {a : Decimal}
    (ha : t.decimalIn precision table = some a) : 0 ≤ a.scale.toInt := by
  have hlands := valueIn_lands ht htable (fun _ => hleaves) fun _ => hproducts
  obtain ⟨v, hv, hva⟩ := decimalIn_eq_some.mp ha
  rw [hv] at hlands
  exact Value.IsSound.scale_nonneg hlands hfit hva

/-- **When scales are not negative**: no decimal that comes up in an expression over sound
variables has a negative scale if and only if all products of the expression fit. -/
theorem allProducts_iff_scalesNonneg (hfit : fit) (ht : t.IsExpression)
    (htable : ∀ name v, table.get? name = some v → v.IsSound fit)
    (hleaves : ∀ a, Token.decimal a ∈ t.leaves → 0 ≤ a.scale.toInt) :
    t.AllProducts Decimal.FittingFactors precision table ↔ t.ScalesNonneg precision table := by
  induction t with
  | literal value span | var name span =>
      refine ⟨fun hproducts => List.forall_mem_singleton.mpr fun a ha => ?_, fun _ => trivial⟩
      exact scale_nonneg_of_allProducts hfit ht htable hleaves hproducts ha
  | call f argument span ih =>
      have hargument := ih ht hleaves
      constructor
      · intro hproducts
        refine List.forall_mem_cons.mpr ⟨fun a ha => ?_, hargument.mp hproducts⟩
        exact scale_nonneg_of_allProducts hfit ht htable hleaves hproducts ha
      · intro hscales
        exact hargument.mpr (List.forall_mem_cons.mp hscales).2
  | binary op left right span ihl ihr =>
      have hl := ihl ht.1 fun a ha => hleaves a (List.mem_append_left _ ha)
      have hr := ihr ht.2 fun a ha => hleaves a (List.mem_append_right _ ha)
      constructor
      · intro hproducts
        refine List.forall_mem_cons.mpr ⟨fun a ha => ?_, ?_⟩
        · exact scale_nonneg_of_allProducts hfit ht htable hleaves hproducts ha
        · exact List.forall_mem_append.mpr ⟨hl.mp hproducts.1, hr.mp hproducts.2.1⟩
      · intro hscales
        obtain ⟨hbinary, hparts⟩ := List.forall_mem_cons.mp hscales
        obtain ⟨hleft, hright⟩ := List.forall_mem_append.mp hparts
        refine ⟨hl.mpr hleft, hr.mpr hright, ?_⟩
        rintro rfl a ha b hb
        obtain ⟨c, hc, hproduct⟩ := decimalIn_binary ht.1 ht.2 (.inr (.inr rfl)) ha hb span
        obtain rfl : a.mul b = c := Option.some.inj hproduct
        have hale := hleft left left.self_mem_parts a ha
        have hble := hright right right.self_mem_parts b hb
        exact (Decimal.scale_mul_nonneg_iff hale hble).mp (hbinary _ hc)
  | assign name value span | empty => exact ht.elim

end Formula

end Reckoner
