import Mathlib.Tactic
import Reckoner.Line.Run

/-!
What a line does.

A line reads the table of its user, and puts a table of its user back.

* `Environment.table?_put_self`, `Environment.table?_put_of_ne`: the tables after it;
* `Environment.put_put`: two tables that are put one after the other;
* `Line.tokens_eq_error`, `Line.tree_eq_ok`: the lines that have no tokens, and those that have a
  tree;
* `Line.run_of_fault`, `Line.run_of_tree`: a line that has no tree, and one that has;
* `Line.run_eq_of_tableOf`: one line, in two environments that agree about its user.
-/

namespace Reckoner

namespace Environment

@[simp] lemma table?_put_self (env : Environment) (user : UserId) (table : Table) :
    (env.put user table).table? user = some table := by
  simp [put, table?]

@[simp] lemma table?_put_of_ne {user other : UserId} (h : other ≠ user) (env : Environment)
    (table : Table) : (env.put user table).table? other = env.table? other := by
  have hne : user ≠ other := h.symm
  simp [put, table?, Std.ExtTreeMap.getElem?_insert, hne]

lemma tableOf_put (env : Environment) (user : UserId) (table : Table) :
    (env.put user table).tableOf user = table := by
  rw [tableOf, table?_put_self, Option.getD_some]

/-- Of two tables that are put one after the other, the second one stays. -/
lemma put_put (env : Environment) (user : UserId) (table table' : Table) :
    (env.put user table).put user table' = env.put user table' := by
  refine Std.ExtTreeMap.ext_getElem? fun other => ?_
  show ((env.put user table).put user table').table? other = (env.put user table').table? other
  by_cases hother : other = user
  · rw [hother, table?_put_self, table?_put_self]
  · rw [table?_put_of_ne hother, table?_put_of_ne hother, table?_put_of_ne hother]

lemma tableOf_congr {env env' : Environment} {user : UserId}
    (h : env.table? user = env'.table? user) : env.tableOf user = env'.tableOf user := by
  rw [tableOf, tableOf, h]

end Environment

namespace Line

variable {settings : Settings} {line : String} {user : UserId}

lemma tokens_eq_error {fault : Fault} :
    tokens line = .error fault
      ↔ ∃ e, tokenize (prepare line) = .error e ∧ fault = .lexical (prepare line) e := by
  rw [tokens]
  cases tokenize (prepare line) <;> simp [Except.mapError, eq_comm]

lemma tree_eq_ok {t : Formula} :
    tree settings line = .ok t ↔ parse (prepare line) settings.maxDepth = .ok t := by
  rw [tree]
  cases parse (prepare line) settings.maxDepth <;> simp [Except.mapError]

/-- A line without a tree fails, and its user is left with the table they had. -/
lemma run_of_fault {fault : Fault} (h : tree settings line = .error fault) (env : Environment) :
    run settings line user env = ⟨.error fault, env.put user (env.tableOf user), []⟩ := by
  rw [run, h]
  rfl

/-- A line with a tree does what the evaluation of the tree does. -/
lemma run_of_tree {formula : Formula} (h : tree settings line = .ok formula)
    (env : Environment) :
    run settings line user env
      = let result := (formula.eval settings.precision).run (.start (env.tableOf user))
        ⟨(result.1.mapError (.eval (prepare line))).map .ofValue, env.put user result.2.table,
          result.2.overwrites.map (⟨prepare line, ·⟩)⟩ := by
  rw [run, h]
  rfl

/-- **One line.** Environments with the same table for a user give the user's line the same
outcome and the same warnings, and the line puts the same table into both. -/
lemma run_eq_of_tableOf (settings : Settings) (line : String) {env env' : Environment}
    (h : env.tableOf user = env'.tableOf user) :
    ∃ outcome table warnings,
      run settings line user env = ⟨outcome, env.put user table, warnings⟩
        ∧ run settings line user env' = ⟨outcome, env'.put user table, warnings⟩ := by
  rcases htree : tree settings line with fault | formula
  · exact ⟨_, _, _, run_of_fault htree env, h ▸ run_of_fault htree env'⟩
  · exact ⟨_, _, _, run_of_tree htree env, h ▸ run_of_tree htree env'⟩

end Line

end Reckoner
