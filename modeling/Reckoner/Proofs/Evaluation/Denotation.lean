import Reckoner.Proofs.Formula.Grammar
import Reckoner.Proofs.Step
import Reckoner.Evaluation

/-!
What a tree means.

As far as successes go, the evaluation of a tree is a function from tables to values and
tables. It is given here by recursion on the tree, without warnings and places.

* `Formula.denote`: the value of a tree in a table, and the table after it;
* `Formula.succeeded_eval`: this is what a successful evaluation gives;
* `Formula.denote_bare`: the places of its parts do not matter.
-/

namespace Reckoner

open Step

/-- The value of a tree in a table and the table after it, if the evaluation succeeds. -/
def Formula.denote (precision : UInt64) : Formula → Table → Option (Value × Table)
  | literal value _, table => some (.ofLiteral value, table)
  | var name _, table => (table.get? name).map (·, table)
  | binary op left right _, table => do
      let (a, table) ← left.denote precision table
      let (b, table) ← right.denote precision table
      let v ← (operate op a b precision).toOption
      return (v, table)
  | call f argument _, table => do
      let (a, table) ← argument.denote precision table
      let v ← (applyFunction f a).toOption
      return (v, table)
  | assign name value _, table => do
      let (v, table) ← value.denote precision table
      return (.text (Evaluation.confirmation name v), table.set name v)
  | empty, table => some (.nothing, table)

namespace Evaluation

/-- What a successful evaluation gives: the value and the table. -/
def succeeded : Except EvalError Value × Evaluation → Option (Value × Table)
  | (.ok v, e) => some (v, e.table)
  | (.error _, _) => none

lemma on_blame {α : Type} (span : Span) (result : Except EvalCause α) (e : Evaluation) :
    on (blame span result) e = (result.mapError (⟨·, span⟩), e) := by
  cases result <;> rfl

/-- A step that is followed by another one. -/
lemma succeeded_bind (x : Evaluate Value) (f : Value → Evaluate Value) (e : Evaluation)
    (g : Value → Table → Option (Value × Table))
    (h : ∀ v e', succeeded (on (f v) e') = g v e'.table) :
    succeeded (on (x >>= f) e) = (succeeded (on x e)).bind fun r => g r.1 r.2 := by
  rw [on_bind]
  rcases on x e with ⟨_ | v, e'⟩
  · rfl
  · exact h v e'

/-- A step that is followed by an operation, which leaves the table as it is. -/
lemma succeeded_bind_blame (x : Evaluate Value) (span : Span)
    (result : Value → Except EvalCause Value) (e : Evaluation) :
    succeeded (on (x >>= fun v => blame span (result v)) e)
      = (succeeded (on x e)).bind fun r => (result r.1).toOption.map (·, r.2) := by
  refine succeeded_bind x _ e (fun v table => (result v).toOption.map (·, table)) ?_
  intro v e'
  rw [on_blame]
  cases result v <;> rfl

end Evaluation

open Evaluation

/-- **Evaluation and meaning.** An evaluation succeeds where the tree has a meaning in its
table, and gives this meaning. -/
theorem Formula.succeeded_eval (precision : UInt64) (t : Formula) (e : Evaluation) :
    succeeded (on (t.eval precision) e) = t.denote precision e.table := by
  induction t generalizing e with
  | literal value span | empty => rfl
  | var name span =>
      rw [eval, lookUp, on_get_bind, denote]
      cases e.table.get? name <;> rfl
  | binary op left right span ihl ihr =>
      have hright (a : Value) (e' : Evaluation) :=
        (succeeded_bind_blame (right.eval precision) span (operate op a · precision) e').trans
          (by rw [ihr e'])
      rw [eval, succeeded_bind _ _ _ (fun a table => (right.denote precision table).bind fun r =>
        (operate op a r.1 precision).toOption.map (·, r.2)) hright, ihl, denote]
      rcases left.denote precision e.table with _ | ⟨a, table⟩
      · rfl
      · rcases hb : right.denote precision table with _ | ⟨b, table'⟩
        · simp [hb]
        · cases ho : operate op a b precision <;> simp [hb, ho, Except.toOption]
  | call f argument span ih =>
      rw [eval, succeeded_bind_blame, ih, denote]
      rcases argument.denote precision e.table with _ | ⟨a, table⟩
      · rfl
      · cases ho : applyFunction f a <;> simp [ho, Except.toOption]
  | assign name value span ih =>
      rw [eval, denote, ← ih]
      exact succeeded_bind _ _ _ (fun v table =>
        some (.text (confirmation name v), table.set name v)) fun v e' => rfl

/-- The places of its parts have no part in the meaning of a tree. -/
lemma Formula.denote_bare (precision : UInt64) (t : Formula) (table : Table) :
    t.bare.denote precision table = t.denote precision table := by
  induction t generalizing table with
  | binary op left right span ihl ihr => simp [bare, denote, ihl, ihr]
  | call f argument span ih | assign name value span ih => simp [bare, denote, ih]
  | _ => rfl

lemma Formula.denote_congr {t t' : Formula} (h : t.bare = t'.bare) (precision : UInt64)
    (table : Table) : t.denote precision table = t'.denote precision table := by
  rw [← t.denote_bare, h, denote_bare]

end Reckoner
