import Reckoner.Proofs.Evaluation.Denotation
import Reckoner.Proofs.Formula.Expression

/-!
The value of an expression.

An expression reads the table and changes nothing, so it has a value or an error in a table,
whatever the evaluation has done before.

* `Formula.valueIn`: the value or error of a tree in a table;
* `Formula.on_eval`: an expression leaves everything as it is;
* `Formula.valueIn_binary`, `Formula.valueIn_call` and their kin: the value from those of the
  parts;
* `Formula.valueIn_congr`: the value does not depend on places.
-/

namespace Reckoner

open Step Evaluation

@[simp] lemma Evaluation.start_table (table : Table) : (start table).table = table := rfl

lemma Table.get?_set (table : Table) (name other : String) (value : Value) :
    (table.set name value).get? other
      = if name = other then some value else table.get? other := by
  simp [set, get?, Std.ExtTreeMap.getElem?_insert]

namespace Formula

/-- What the evaluation of a tree gives in a table, a value or an error. -/
def valueIn (precision : UInt64) (table : Table) (t : Formula) : Except EvalError Value :=
  (on (t.eval precision) (.start table)).1

variable {precision : UInt64} {table : Table} {t left right : Formula}

lemma exists_on_eval (h : t.IsExpression) (precision : UInt64) (table : Table) :
    ∃ result, ∀ e : Evaluation, e.table = table → on (t.eval precision) e = (result, e) := by
  induction t with
  | literal value span => exact ⟨.ok (.ofLiteral value), fun _ _ => rfl⟩
  | var name span =>
      rcases hv : table.get? name with _ | v
      · refine ⟨.error ⟨.undefinedVariable name, span⟩, fun e he => ?_⟩
        rw [eval, lookUp, on_get_bind, he, hv]
        rfl
      · refine ⟨.ok v, fun e he => ?_⟩
        rw [eval, lookUp, on_get_bind, he, hv]
        rfl
  | binary op left right span ihl ihr =>
      obtain ⟨a | a, ha⟩ := ihl h.1
      · exact ⟨.error a, fun e he => on_bind_of_error (ha e he) _⟩
      · obtain ⟨b | b, hb⟩ := ihr h.2
        · exact ⟨.error b, fun e he =>
            (on_bind_of_ok (ha e he) _).trans (on_bind_of_error (hb e he) _)⟩
        · refine ⟨(operate op a b precision).mapError (⟨·, span⟩), fun e he => ?_⟩
          rw [eval, on_bind_of_ok (ha e he), on_bind_of_ok (hb e he), on_blame]
  | call f argument span ih =>
      obtain ⟨a | a, ha⟩ := ih h
      · exact ⟨.error a, fun e he => on_bind_of_error (ha e he) _⟩
      · refine ⟨(applyFunction f a).mapError (⟨·, span⟩), fun e he => ?_⟩
        rw [eval, on_bind_of_ok (ha e he), on_blame]
  | assign name value span | empty => exact h.elim

/-- **Expressions change nothing**: their evaluation gives what they are in the table, and
leaves the table and the warnings as they are. -/
theorem on_eval (h : t.IsExpression) (precision : UInt64) (e : Evaluation) :
    on (t.eval precision) e = (t.valueIn precision e.table, e) := by
  obtain ⟨result, hresult⟩ := exists_on_eval h precision e.table
  rw [valueIn, hresult e rfl, hresult (.start e.table) rfl]

/-! ### The value from the values of the parts -/

lemma valueIn_var (name : String) (span : Span) :
    (var name span).valueIn precision table
      = match table.get? name with
        | some v => .ok v
        | none => .error ⟨.undefinedVariable name, span⟩ := by
  show (on (lookUp name span) (.start table)).1 = _
  rw [lookUp, on_get_bind]
  show (on (match table.get? name with | some v => _ | none => _) _).1 = _
  cases table.get? name <;> rfl

lemma valueIn_binary (hl : left.IsExpression) (hr : right.IsExpression) (op : Operator)
    (span : Span) :
    (binary op left right span).valueIn precision table
      = (left.valueIn precision table).bind fun a => (right.valueIn precision table).bind fun b =>
          (operate op a b precision).mapError (⟨·, span⟩) := by
  rw [valueIn, eval, on_bind, on_eval hl, start_table]
  rcases left.valueIn precision table with _ | a
  · rfl
  · simp only [on_bind, on_eval hr, start_table]
    rcases right.valueIn precision table with _ | b
    · rfl
    · simp only [on_blame]
      rfl

lemma valueIn_binary_of_ok {op : Operator} {a b v : Value} (hl : left.IsExpression)
    (hr : right.IsExpression) (ha : left.valueIn precision table = .ok a)
    (hb : right.valueIn precision table = .ok b) (hv : operate op a b precision = .ok v)
    (span : Span) : (binary op left right span).valueIn precision table = .ok v := by
  rw [valueIn_binary hl hr, ha, hb]
  simp [Except.bind, hv, Except.mapError]

lemma valueIn_call (h : t.IsExpression) (f : RealFunction) (span : Span) :
    (call f t span).valueIn precision table
      = (t.valueIn precision table).bind fun a =>
          (applyFunction f a).mapError (⟨·, span⟩) := by
  rw [valueIn, eval, on_bind, on_eval h, start_table]
  rcases t.valueIn precision table with _ | a
  · rfl
  · simp only [on_blame]
    rfl

/-! ### The value and the meaning -/

/-- The value of an expression is its meaning. -/
lemma denote_eq_valueIn (h : t.IsExpression) :
    t.denote precision table = (t.valueIn precision table).toOption.map (·, table) := by
  have heval := t.succeeded_eval precision (.start table)
  rw [on_eval h, start_table] at heval
  rw [← heval]
  cases t.valueIn precision table <;> rfl

/-- The places of its parts do not matter to the value of a tree. -/
lemma valueIn_congr {t' : Formula} {v : Value} (h : t.IsExpression) (h' : t'.IsExpression)
    (hbare : t'.bare = t.bare) (hv : t.valueIn precision table = .ok v) :
    t'.valueIn precision table = .ok v := by
  have hdenote := denote_congr hbare precision table
  rw [denote_eq_valueIn h, denote_eq_valueIn h', hv] at hdenote
  rcases hv' : t'.valueIn precision table with e | v'
  · simp [hv', Except.toOption] at hdenote
  · obtain rfl : v' = v := by simpa [hv', Except.toOption] using hdenote
    rfl

end Formula

end Reckoner
