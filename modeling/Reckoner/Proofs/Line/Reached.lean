import Reckoner.Proofs.Evaluation.Sound
import Reckoner.Proofs.Line.Effect
import Reckoner.Proofs.Token.Written

/-!
The environments that lines lead to.

Lines of any users, with any settings, are run one after the other. In every environment that
they lead to, the tables hold the names that users start out with, and variables stand for
numbers and truth values and have names that are read back. Scales are not negative as long
as all products fit; where one does not, a scale wraps around, and a negative one is stored.

* `Binding`, `Table.IsSound`: such variables and tables;
* `Line.Fits`: lines whose products fit;
* `Line.run_isSound`: what one line leaves, and how its evaluation can fail;
* `Reached`, `Reached.isSound`: all lines;
* `reached_squares`: lines that let scales grow;
* `reached_isSound`: what lines lead to.
-/

namespace Reckoner

open Step Evaluation

variable {fit : Prop} {user : UserId} {table : Table} {env : Environment} {name : String}
  {v : Value}

/-! ### Sound tables -/

/-- A variable as lines leave it: its name is a word that starts with no keyword, and is read
back as this name. -/
structure Binding (fit : Prop) (name : String) (v : Value) : Prop where
  ne_empty : name ≠ ""
  letters : ∀ c ∈ name.toList, c.isAlpha = true ∨ c = '_'
  no_keyword : ∀ f : RealFunction, ¬ f.name.toList <+: name.toList
  readBack : ∃ span ending, tokenize name = .ok [⟨.ident name, span⟩, ⟨.eof, ending⟩]
  value : v.IsSound fit

/-- The table of a user as lines leave it. -/
structure Table.IsSound (fit : Prop) (user : UserId) (table : Table) : Prop where
  k : (table.get? "k").isSome
  m : (table.get? "m").isSome
  id : ∀ n, user = .id n → (table.get? "id").isSome
  bindings : ∀ name v, table.get? name = some v → Binding fit name v

lemma binding_of_isName (hname : Lexer.IsName name) (hv : v.IsSound fit) :
    Binding fit name v := by
  obtain ⟨hne, hletters, hkeyword⟩ := Lexer.isName_iff.mp hname
  exact ⟨hne, hletters, hkeyword, Lexer.tokenize_name hname, hv⟩

namespace Table

lemma isSome_get?_set {other : String} (h : (table.get? other).isSome) (name : String)
    (v : Value) : ((table.set name v).get? other).isSome := by
  rw [get?_set]
  split
  · rfl
  · exact h

lemma bindings_set (h : ∀ name v, table.get? name = some v → Binding fit name v)
    (hname : Lexer.IsName name) (hv : v.IsSound fit) :
    ∀ other w, (table.set name v).get? other = some w → Binding fit other w := by
  intro other w hother
  rw [get?_set] at hother
  split at hother
  · next heq =>
    cases hother
    exact heq ▸ binding_of_isName hname hv
  · exact h other w hother

lemma IsSound.set (h : table.IsSound fit user) (hname : Lexer.IsName name)
    (hv : v.IsSound fit) : (table.set name v).IsSound fit user where
  k := isSome_get?_set h.k name v
  m := isSome_get?_set h.m name v
  id n hn := isSome_get?_set (h.id n hn) name v
  bindings := bindings_set h.bindings hname hv

/-- The table that a user starts out with is sound. -/
lemma isSound_seeded (fit : Prop) (user : UserId) : (seeded user).IsSound fit user := by
  have hempty : ∀ name v, (∅ : Table).get? name = some v → Binding fit name v := by
    intro name v h
    simp [get?] at h
  have hconstants : ∀ name v,
      ((set ∅ "k" (.integer 1000)).set "m" (.integer 1000000)).get? name = some v →
        Binding fit name v :=
    bindings_set (bindings_set hempty (by decide) trivial) (by decide) trivial
  cases user with
  | anonymous =>
      refine ⟨?_, ?_, by simp, hconstants⟩
      · simp [seeded, constants, get?_set]
      · simp [seeded, constants, get?_set]
  | id n =>
      refine ⟨?_, ?_, ?_, bindings_set hconstants (by decide) trivial⟩
      · simp [seeded, constants, idName, get?_set]
      · simp [seeded, constants, idName, get?_set]
      · simp [seeded, constants, idName, get?_set]

end Table

/-- All tables are sound. -/
def Environment.IsSound (fit : Prop) (env : Environment) : Prop :=
  ∀ user table, env.table? user = some table → table.IsSound fit user

namespace Environment

lemma IsSound.tableOf (h : env.IsSound fit) (user : UserId) :
    (env.tableOf user).IsSound fit user := by
  rw [Environment.tableOf]
  rcases htable : env.table? user with _ | table
  · exact Table.isSound_seeded fit user
  · exact h user table htable

lemma IsSound.put (h : env.IsSound fit) (htable : table.IsSound fit user) :
    (env.put user table).IsSound fit := by
  intro other table' hother
  by_cases heq : other = user
  · subst heq
    rw [table?_put_self] at hother
    cases hother
    exact htable
  · rw [table?_put_of_ne heq] at hother
    exact h other table' hother

lemma IsSound.met (h : env.IsSound fit) (user : UserId) : (env.met user).IsSound fit := by
  rw [← env.put_tableOf]
  exact h.put (h.tableOf user)

end Environment

/-! ### One line -/

namespace Line

variable {settings : Settings} {line : String} {t : Formula}

/-- A line whose products fit. It is shorter than the largest scale, so that the decimals
written in it have no negative scale. -/
structure Fits (settings : Settings) (line : String) (table : Table) : Prop where
  length : (prepare line).toList.length < 2 ^ 63
  products : ∀ t, tree settings line = .ok t →
    t.AllProducts Decimal.FittingFactors settings.precision table

/-- The numbers and names of a tree are written in its line. -/
lemma written_of_tree (h : tree settings line = .ok t) :
    ∀ token ∈ t.leaves, Lexer.Written (prepare line).toList.length token := by
  intro token htoken
  obtain ⟨ls, htokenize, hmem⟩ := mem_tokens_of_parse (tree_eq_ok.mp h)
  obtain hmem | rfl := hmem token htoken
  · exact Lexer.written_of_tokenize htokenize token hmem
  · trivial

/-- A decimal that is written in a text shorter than the largest scale has no negative one. -/
lemma scale_nonneg_of_written {n : ℕ} (hn : n < 2 ^ 63) {a : Decimal}
    (h : Lexer.Written n (.decimal a)) : 0 ≤ a.scale.toInt := by
  obtain ⟨places, hplaces, hscale⟩ := h
  rw [hscale, Int64.toInt_ofNat_of_lt (by omega)]
  exact Int.natCast_nonneg places

/-- The expression of a line, in a sound table. -/
lemma valueIn_lands (htable : table.IsSound fit user) (ht : t.IsExpression)
    (hwritten : ∀ token ∈ t.leaves, Lexer.Written (prepare line).toList.length token)
    (hlength : fit → (prepare line).toList.length < 2 ^ 63)
    (hproducts : fit → t.AllProducts Decimal.FittingFactors settings.precision table) :
    Lands (Value.IsSound fit) (fun e => e.cause.IsExpected)
      (t.valueIn settings.precision table) :=
  Formula.valueIn_lands ht (fun name v hv => (htable.bindings name v hv).value)
    (fun hfit _ ha => scale_nonneg_of_written (hlength hfit) (hwritten _ ha)) hproducts

/-- The errors of the lexer and the parser are none of evaluation. -/
lemma tree_ne_eval {source : String} {e : EvalError} :
    tree settings line ≠ .error (.eval source e) := by
  intro h
  rw [tree] at h
  rcases hparse : parse (prepare line) settings.maxDepth with error | t
  · rw [hparse, Except.mapError, Fault.ofParse.eq_def] at h
    split at h <;> cases h
  · rw [hparse] at h
    cases h

/-- **One line** leaves sound tables sound, and its evaluation fails in expected ways only. -/
lemma run_isSound (henv : env.IsSound fit) (hfits : fit → Fits settings line (env.tableOf user)) :
    (run settings line user env).environment.IsSound fit
      ∧ ∀ source e, (run settings line user env).outcome = .error (.eval source e) →
        e.cause.IsExpected := by
  rcases htree : tree settings line with fault | t
  · rw [run_of_error htree]
    refine ⟨henv.met user, ?_⟩
    rintro source e ⟨⟩
    exact (tree_ne_eval htree).elim
  · have hwritten := written_of_tree htree
    have hlength (hfit : fit) := (hfits hfit).length
    have hproducts (hfit : fit) := (hfits hfit).products t htree
    cases ofLine_of_parse (tree_eq_ok.mp htree) with
    | empty =>
        rw [run_of_empty htree]
        exact ⟨henv.met user, by simp⟩
    | expression ht =>
        have hlands := valueIn_lands (henv.tableOf user) ht hwritten hlength hproducts
        rw [run_of_expression htree ht]
        refine ⟨henv.met user, fun source e h => ?_⟩
        rcases hv : t.valueIn settings.precision (env.tableOf user) with e' | v
        · rw [hv] at h hlands
          cases h
          exact hlands
        · simp [hv, Except.mapError, Except.map] at h
    | @assign name value hvalue span =>
        obtain ⟨hname, hleaves⟩ := List.forall_mem_cons.mp hwritten
        have hlands := valueIn_lands (henv.tableOf user) hvalue hleaves hlength hproducts
        rw [run_of_assign htree hvalue]
        rcases hv : value.valueIn settings.precision (env.tableOf user) with e' | v
        · refine ⟨henv.met user, ?_⟩
          rintro source e ⟨⟩
          rwa [hv] at hlands
        · rw [hv] at hlands
          exact ⟨henv.put ((henv.tableOf user).set hname hlands), by simp⟩

/-- In a sound table, no decimal that comes up in a line has a negative scale if and only if
the products of the line fit. -/
lemma allProducts_iff_scalesNonneg (hfit : fit) (htable : table.IsSound fit user)
    (h : tree settings line = .ok t) (hlength : (prepare line).toList.length < 2 ^ 63) :
    t.AllProducts Decimal.FittingFactors settings.precision table
      ↔ t.ScalesNonneg settings.precision table := by
  have hvalues (name : String) (v : Value) (hv : table.get? name = some v) : v.IsSound fit :=
    (htable.bindings name v hv).value
  have hleaves (a : Decimal) (ha : .decimal a ∈ t.leaves) : 0 ≤ a.scale.toInt :=
    scale_nonneg_of_written hlength (written_of_tree h _ ha)
  cases ofLine_of_parse (tree_eq_ok.mp h) with
  | empty =>
      have hnone : Formula.empty.decimalIn settings.precision table = none := rfl
      simp [Formula.AllProducts, Formula.ScalesNonneg, Formula.parts, hnone]
  | expression ht => exact Formula.allProducts_iff_scalesNonneg hfit ht hvalues hleaves
  | @assign name value hvalue span =>
      have hnone : (Formula.assign name value span).decimalIn settings.precision table = none := by
        rw [Formula.decimalIn, Formula.valueIn, on_eval_assign hvalue]
        cases value.valueIn settings.precision table <;> rfl
      rw [Formula.AllProducts, Formula.allProducts_iff_scalesNonneg hfit hvalue hvalues
        fun a ha => hleaves a (List.mem_cons_of_mem _ ha)]
      simp [Formula.ScalesNonneg, Formula.parts, hnone]

end Line

/-! ### All lines -/

/-- The environments that lines of any users, with any settings, lead to; where products have
to `fit`, the lines whose products do. -/
inductive Reached (fit : Prop) : Environment → Prop
  | start : Reached fit .empty
  | line {env : Environment} (h : Reached fit env) (settings : Settings) (line : String)
      (user : UserId) (hfits : fit → Line.Fits settings line (env.tableOf user)) :
      Reached fit (Line.run settings line user env).environment

/-- **All lines** lead to sound tables. -/
lemma Reached.isSound (h : Reached fit env) : env.IsSound fit := by
  induction h with
  | start =>
      intro user table htable
      simp [Environment.table?, Environment.empty] at htable
  | line h settings line user hfits ih => exact (Line.run_isSound ih hfits).1

lemma Reached.weaken (h : Reached fit env) : Reached False env := by
  induction h with
  | start => exact .start
  | line h settings line user hfits ih => exact ih.line settings line user False.elim

/-! ### A scale that wraps around -/

/-- What a variable stands for, if the user has been met. -/
def Environment.get? (env : Environment) (user : UserId) (name : String) : Option Value :=
  (env.table? user).bind (·.get? name)

lemma Environment.get?_tableOf (h : env.get? user name = some v) :
    (env.tableOf user).get? name = some v := by
  obtain ⟨table, htable, hv⟩ := Option.bind_eq_some_iff.mp h
  rwa [tableOf, htable]

/-- An assignment stores the value of its expression. -/
lemma Line.get?_run {settings : Settings} {line : String} {value : Formula} {span : Span}
    (h : tree settings line = .ok (.assign name value span)) (hvalue : value.IsExpression)
    (hv : value.valueIn settings.precision (env.tableOf user) = .ok v) :
    (run settings line user env).environment.get? user name = some v := by
  rw [run_of_assign h hvalue, hv, Environment.get?, Environment.table?_put_self]
  simp [Table.get?_set]

section Squares

variable {s : Int64}

/-- A decimal of unscaled integer one is recognised as one at scale zero only. -/
lemma scale_of_isOne (h : (Decimal.mk 1 s).isOne = true) : s.toInt = 0 := by
  have hvalue := (Decimal.isOne_iff.mp h).1
  rw [Decimal.toRat, Int.cast_one, one_mul, ← zpow_zero (10 : ℚ)] at hvalue
  have hzero : -s.toInt = 0 := zpow_right_injective₀ (by norm_num) (by norm_num) hvalue
  omega

/-- Squaring doubles the scale. -/
lemma reached_square (h : Reached False env) (hs : s.toInt ≠ 0)
    (hx : env.get? user "x" = some (.decimal ⟨1, s⟩)) :
    ∃ env', Reached False env' ∧ env'.get? user "x" = some (.decimal ⟨1, s + s⟩) := by
  have htree : Line.tree .standard "x = x * x" = .ok (.assign "x"
      (.binary .mul (.var "x" ⟨4, 5⟩) (.var "x" ⟨8, 9⟩) ⟨4, 9⟩) ⟨0, 9⟩) := by cbv
  have hone : ¬ (Decimal.mk 1 s).isOne = true := fun hone => hs (scale_of_isOne hone)
  have hproduct : (Decimal.mk 1 s).mul ⟨1, s⟩ = ⟨1, s + s⟩ := by simp [Decimal.mul, hone]
  have hvar (span : Span) : (Formula.var "x" span).IsExpression := trivial
  have hvalue (span : Span) : (Formula.var "x" span).valueIn Settings.standard.precision
      (env.tableOf user) = .ok (.decimal ⟨1, s⟩) := by
    rw [Formula.valueIn_var, Environment.get?_tableOf hx]
  have hsquare : operate .mul (.decimal ⟨1, s⟩) (.decimal ⟨1, s⟩) Settings.standard.precision
      = .ok (.decimal ⟨1, s + s⟩) := by
    rw [← hproduct]
    rfl
  exact ⟨_, h.line .standard "x = x * x" user False.elim,
    Line.get?_run htree ⟨hvar _, hvar _⟩
      (Formula.valueIn_binary_of_ok (hvar _) (hvar _) (hvalue _) (hvalue _) hsquare _)⟩

/-- One tenth, squared `n` times. -/
lemma reached_squares (user : UserId) {n : ℕ} (hn : n < 63) :
    ∃ env s, Reached False env ∧ s.toInt = 2 ^ n
      ∧ env.get? user "x" = some (.decimal ⟨1, s⟩) := by
  induction n with
  | zero =>
      have htree : Line.tree .standard "x = 0.1"
          = .ok (.assign "x" (.literal (.decimal ⟨1, 1⟩) ⟨4, 7⟩) ⟨0, 7⟩) := by cbv
      exact ⟨_, 1, Reached.start.line .standard "x = 0.1" user False.elim, rfl,
        Line.get?_run htree trivial rfl⟩
  | succ n ih =>
      obtain ⟨env, s, h, hs, hx⟩ := ih (by omega)
      have hpos : (0 : ℤ) < 2 ^ n := by positivity
      have hlt : (2 : ℤ) ^ (n + 1) < 2 ^ 63 := pow_lt_pow_right₀ (by norm_num) hn
      obtain ⟨env', h', hx'⟩ := reached_square h (by omega) hx
      refine ⟨env', s + s, h', ?_, hx'⟩
      have hadd : (Decimal.mk 1 s).ScalesAdd ⟨1, s⟩ := by
        constructor <;> simp only [hs] <;> omega
      have hscale := Decimal.toInt_scale_add_iff.mpr hadd
      rw [hscale, hs]
      ring

end Squares

/-- **What lines lead to.** Whatever lines are run, all tables are sound, and evaluation fails
in expected ways only. As long as all products fit, no scale is negative, and one more line
keeps to this if and only if its own products fit. -/
theorem reached_isSound (h : Reached fit env) (settings : Settings) (line : String)
    (user : UserId) :
    env.IsSound fit
      ∧ (∀ source e, (Line.run settings line user env).outcome = .error (.eval source e) →
          e.cause.IsExpected)
      ∧ (fit → (Line.prepare line).toList.length < 2 ^ 63 →
          ∀ t, Line.tree settings line = .ok t →
            (t.AllProducts Decimal.FittingFactors settings.precision (env.tableOf user)
              ↔ t.ScalesNonneg settings.precision (env.tableOf user))) := by
  refine ⟨h.isSound, ?_, fun hfit hlength t ht => ?_⟩
  · exact (Line.run_isSound h.weaken.isSound False.elim).2
  · exact Line.allProducts_iff_scalesNonneg hfit (h.isSound.tableOf user) ht hlength

/-- The product in `x = 1.5 * 0.1` fits, and the line leads to a sound environment. -/
theorem reached_isSound_product :
    let env := (Line.run .standard "x = 1.5 * 0.1" (.id 7) .empty).environment
    Reached True env ∧ env.IsSound True := by
  intro env
  have htree : Line.tree .standard "x = 1.5 * 0.1" = .ok (.assign "x" (.binary .mul
      (.literal (.decimal ⟨15, 1⟩) ⟨4, 7⟩) (.literal (.decimal ⟨1, 1⟩) ⟨10, 13⟩) ⟨4, 13⟩)
      ⟨0, 13⟩) := by cbv
  have hfactors : Decimal.FittingFactors ⟨15, 1⟩ ⟨1, 1⟩ :=
    .inr (.inr ⟨by decide, by decide⟩)
  have hfits : Line.Fits .standard "x = 1.5 * 0.1" (Environment.empty.tableOf (.id 7)) := by
    refine ⟨by decide, fun t ht => ?_⟩
    cases htree.symm.trans ht
    refine ⟨trivial, trivial, fun _ a ha b hb => ?_⟩
    obtain rfl := Option.some.inj ha
    obtain rfl := Option.some.inj hb
    exact hfactors
  have hreached : Reached True env := Reached.start.line _ _ _ fun _ => hfits
  exact ⟨hreached, (reached_isSound hreached .standard "x" (.id 7)).1⟩

/-- The sixty-third square of one tenth has the smallest scale there is, which is negative. -/
theorem reached_negative_scale :
    ∃ env table, Reached False env ∧ env.table? (.id 7) = some table
      ∧ table.get? "x" = some (.decimal ⟨1, Int64.minValue⟩) := by
  obtain ⟨env, s, h, hs, hx⟩ := reached_squares (.id 7) (show 62 < 63 by norm_num)
  obtain ⟨env', h', hx'⟩ := reached_square h (by omega) hx
  have hmin : s + s = Int64.minValue := by
    rw [← Int64.toInt_inj, Int64.toInt_add, hs]
    decide
  obtain ⟨table, htable, hvalue⟩ := Option.bind_eq_some_iff.mp hx'
  exact ⟨env', table, h', htable, hmin ▸ hvalue⟩

end Reckoner
