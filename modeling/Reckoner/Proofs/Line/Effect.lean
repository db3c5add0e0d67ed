import Reckoner.Proofs.Evaluation.Expression
import Reckoner.Proofs.Line.Run

/-!
What a line changes.

A line that fails, and one that assigns nothing, leave everything as it is, but that the user
is met. An assignment that succeeds gives one name of its user a value.

* `Environment.met`: the environment once a user has been met;
* `Line.run_of_expression`, `Line.run_of_assign`: what becomes of an expression, and of an
  assignment;
* `Line.Result.Unchanged`, `Line.Result.Assigned`: the two effects of lines;
* `Line.run_effect`: when a line has which of them.
-/

namespace Reckoner

open Step Evaluation

namespace Environment

/-- The environment once a user has been met: a user without a table gets the one that users
start out with. -/
def met (env : Environment) (user : UserId) : Environment :=
  match env.table? user with
  | some _ => env
  | none => env.put user (.seeded user)

variable (env : Environment) (user : UserId)

/-- Putting the table of a user back changes nothing but that the user is met. -/
lemma put_tableOf : env.put user (env.tableOf user) = env.met user := by
  rw [met, tableOf]
  rcases htable : env.table? user with _ | table
  · rfl
  · refine Std.ExtTreeMap.ext_getElem? fun other => ?_
    by_cases hother : other = user
    · subst hother
      exact (table?_put_self env other table).trans htable.symm
    · exact table?_put_of_ne hother env table

@[simp] lemma tableOf_met : (env.met user).tableOf user = env.tableOf user := by
  rw [← put_tableOf, tableOf_put]

/-- A table that is put once the user has been met is all that is left. -/
lemma put_met (table : Table) : (env.met user).put user table = env.put user table := by
  rw [← put_tableOf, put_put]

end Environment

namespace Line

variable {settings : Settings} {line : String} {user : UserId} {env : Environment}

/-! ### What becomes of a line -/

lemma run_of_error {fault : Fault} (h : tree settings line = .error fault) :
    run settings line user env = ⟨.error fault, env.met user, []⟩ := by
  rw [run_of_fault h, env.put_tableOf]

lemma run_of_empty (h : tree settings line = .ok .empty) :
    run settings line user env = ⟨.ok (.ofValue .nothing), env.met user, []⟩ := by
  rw [run_of_tree h]
  show (⟨_, env.put user (env.tableOf user), _⟩ : Result) = _
  rw [env.put_tableOf]
  rfl

/-- An expression is shown, and nothing else becomes of it. -/
lemma run_of_expression {t : Formula} (h : tree settings line = .ok t) (ht : t.IsExpression) :
    run settings line user env
      = ⟨((t.valueIn settings.precision (env.tableOf user)).mapError
          (.eval (prepare line))).map .ofValue, env.met user, []⟩ := by
  have heval := Formula.on_eval ht settings.precision (.start (env.tableOf user))
  rw [run_of_tree h, ← env.put_tableOf,
    show (t.eval settings.precision).run (.start (env.tableOf user)) = _ from heval]
  rfl

/-- What is shown for a tree that has a meaning. -/
lemma outcome_of_denote {t : Formula} {v : Value} {table : Table}
    (h : tree settings line = .ok t)
    (hv : t.denote settings.precision (env.tableOf user) = some (v, table)) :
    (run settings line user env).outcome = .ok (.ofValue v) := by
  have heval := t.succeeded_eval settings.precision (.start (env.tableOf user))
  rw [start_table, hv] at heval
  rw [run_of_tree h]
  rcases hon : on (t.eval settings.precision) (.start (env.tableOf user)) with ⟨_ | v', e⟩
  · simp [hon, succeeded] at heval
  · rw [hon, succeeded] at heval
    obtain ⟨rfl, -⟩ := Prod.mk.inj (Option.some.inj heval)
    show ((((on (t.eval settings.precision) (.start (env.tableOf user))).1.mapError _).map _) :
      Except Fault Output) = _
    rw [hon]
    rfl

lemma on_eval_assign {value : Formula} (h : value.IsExpression) (name : String) (span : Span)
    (precision : UInt64) (table : Table) :
    on ((Formula.assign name value span).eval precision) (.start table)
      = match value.valueIn precision table with
        | .ok v => (.ok (.text (confirmation name v)),
            ⟨table.set name v, if isSeeded name then [⟨name, span⟩] else []⟩)
        | .error e => (.error e, .start table) := by
  rw [Formula.eval, on_bind, Formula.on_eval h, start_table]
  cases value.valueIn precision table <;> rfl

/-- An assignment whose expression has a value gives the name this value. -/
lemma run_of_assign {name : String} {value : Formula} {span : Span}
    (h : tree settings line = .ok (.assign name value span)) (hvalue : value.IsExpression) :
    run settings line user env
      = match value.valueIn settings.precision (env.tableOf user) with
        | .ok v => ⟨.ok (.ofValue (.text (confirmation name v))),
            env.put user ((env.tableOf user).set name v),
            if isSeeded name then [⟨prepare line, ⟨name, span⟩⟩] else []⟩
        | .error e => ⟨.error (.eval (prepare line) e), env.met user, []⟩ := by
  have heval := on_eval_assign hvalue name span settings.precision (env.tableOf user)
  rw [run_of_tree h, ← env.put_tableOf,
    show ((Formula.assign name value span).eval settings.precision).run
      (.start (env.tableOf user)) = _ from heval]
  rcases value.valueIn settings.precision (env.tableOf user) with e | v
  · rfl
  · cases hseeded : isSeeded name <;> simp [Except.mapError, Except.map]

/-! ### The two effects of lines -/

/-- Nothing has changed but that the user has been met, and no warning was given. -/
structure Result.Unchanged (result : Result) (env : Environment) (user : UserId) : Prop where
  environment : result.environment = env.met user
  warnings : result.warnings = []

/-- Once the user had been met, one name of theirs has got a value, and nothing else has
changed. There is a warning only if the name is one that tables start out with, and then one. -/
structure Result.Assigned (result : Result) (env : Environment) (user : UserId) (name : String)
    (value : Value) : Prop where
  environment :
    result.environment = (env.met user).put user (((env.met user).tableOf user).set name value)
  warnings : result.warnings.length = if isSeeded name then 1 else 0

/-- **What a line changes.** A line that fails changes nothing. One that succeeds has a tree:
an assignment gives its name the value that its right-hand side has in the table of the user,
and any other tree changes nothing. -/
theorem run_effect (settings : Settings) (line : String) (user : UserId) (env : Environment) :
    (∀ fault, (run settings line user env).outcome = .error fault →
        (run settings line user env).Unchanged env user)
      ∧ ∀ output, (run settings line user env).outcome = .ok output →
        ∃ t, tree settings line = .ok t
          ∧ ((∀ name value span, t ≠ .assign name value span) →
              (run settings line user env).Unchanged env user)
          ∧ ∀ name value span, t = .assign name value span →
            ∃ v, on (value.eval settings.precision) (.start (env.tableOf user))
                = (.ok v, .start (env.tableOf user))
              ∧ (run settings line user env).Assigned env user name v := by
  rcases htree : tree settings line with fault | t
  · rw [run_of_error htree]
    exact ⟨fun _ _ => ⟨rfl, rfl⟩, by simp⟩
  · cases ofLine_of_parse (tree_eq_ok.mp htree) with
    | empty =>
        rw [run_of_empty htree]
        exact ⟨by simp, fun _ _ => ⟨.empty, rfl, fun _ => ⟨rfl, rfl⟩, by simp⟩⟩
    | expression ht =>
        rw [run_of_expression htree ht]
        refine ⟨fun _ _ => ⟨rfl, rfl⟩, fun _ _ => ⟨t, rfl, fun _ => ⟨rfl, rfl⟩, ?_⟩⟩
        rintro name value span rfl
        exact ht.elim
    | @assign name value hvalue span =>
        rw [run_of_assign htree hvalue]
        rcases hv : value.valueIn settings.precision (env.tableOf user) with e | v
        · exact ⟨fun _ _ => ⟨rfl, rfl⟩, by simp⟩
        · refine ⟨by simp, fun _ _ => ⟨_, rfl, fun hne => (hne name value span rfl).elim, ?_⟩⟩
          rintro _ _ _ ⟨⟩
          refine ⟨v, ?_, ?_, ?_⟩
          · rw [Formula.on_eval hvalue, start_table, hv]
          · rw [env.tableOf_met, env.put_met]
          · cases hseeded : isSeeded name <;> rfl

end Line

end Reckoner
