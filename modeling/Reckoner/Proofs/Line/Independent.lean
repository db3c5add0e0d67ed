import Reckoner.Proofs.Line.Effect
import Reckoner.Proofs.Line.Isolation

/-!
Lines that do not touch each other.

What becomes of a line depends on the variables that its tree reads, and a line changes only
those that its tree assigns. Of two lines of one user, where neither assigns what the other one
reads or assigns, either may be run first.

* `Formula.reads`, `Formula.assigns`: the variables that a tree reads, and those it assigns;
* `Table.AgreeOn`, `Formula.valueIn_agree`: an expression in tables that agree on what it reads;
* `Table.changed`, `Line.exists_change`: what a line does in all such tables;
* `Line.Independent`, `session_swap`: lines that can change places.
-/

namespace Reckoner

open Evaluation

/-! ### The variables of a tree -/

namespace Formula

/-- The variables that a tree reads, from left to right. -/
def reads : Formula → List String
  | literal _ _ | empty => []
  | var name _ => [name]
  | binary _ left right _ => left.reads ++ right.reads
  | call _ argument _ => argument.reads
  | assign _ value _ => value.reads

/-- The variables that a tree assigns. -/
def assigns : Formula → List String
  | literal _ _ | var _ _ | empty => []
  | binary _ left right _ => left.assigns ++ right.assigns
  | call _ argument _ => argument.assigns
  | assign name value _ => name :: value.assigns

end Formula

/-! ### Tables that agree -/

namespace Table

variable {table table' : Table} {names : List String}

/-- Two tables have the same values for these names. -/
def AgreeOn (names : List String) (table table' : Table) : Prop :=
  ∀ name ∈ names, table.get? name = table'.get? name

lemma agreeOn_append {others : List String} :
    AgreeOn (names ++ others) table table'
      ↔ AgreeOn names table table' ∧ AgreeOn others table table' :=
  List.forall_mem_append

/-- A table in which a variable has got a value, or none has. -/
def changed (table : Table) (change : Option (String × Value)) : Table :=
  match change with
  | some (name, v) => table.set name v
  | none => table

/-- Names that a change does not concern keep their values. -/
lemma agreeOn_changed {change : Option (String × Value)} (h : ∀ p ∈ change, p.1 ∉ names) :
    AgreeOn names (table.changed change) table := by
  intro name hname
  cases change with
  | none => rfl
  | some p =>
      have hne : p.1 ≠ name := fun heq => h p rfl (heq ▸ hname)
      rw [changed, get?_set, if_neg hne]

/-- Changes of different variables may be made in either order. -/
lemma changed_comm {change change' : Option (String × Value)}
    (h : ∀ p ∈ change, ∀ q ∈ change', p.1 ≠ q.1) :
    (table.changed change).changed change' = (table.changed change').changed change := by
  cases change with
  | none => rfl
  | some p =>
      cases change' with
      | none => rfl
      | some q =>
          refine Std.ExtTreeMap.ext_getElem? fun name => ?_
          show ((table.set p.1 p.2).set q.1 q.2).get? name
            = ((table.set q.1 q.2).set p.1 p.2).get? name
          have hne : p.1 ≠ q.1 := h p rfl q rfl
          by_cases hq : q.1 = name
          · have hp : p.1 ≠ name := fun hp => hne (hp.trans hq.symm)
            simp [get?_set, hp, hq]
          · simp [get?_set, hq]

end Table

/-- **What an expression is** depends on the variables that it reads. -/
theorem Formula.valueIn_agree {t : Formula} (ht : t.IsExpression) {table table' : Table}
    (h : Table.AgreeOn t.reads table table') (precision : UInt64) :
    t.valueIn precision table = t.valueIn precision table' := by
  induction t with
  | literal value span => rfl
  | var name span =>
      have hname := h name List.mem_cons_self
      rw [valueIn_var, valueIn_var, hname]
  | binary op left right span ihl ihr =>
      obtain ⟨hl, hr⟩ := Table.agreeOn_append.mp h
      rw [valueIn_binary ht.1 ht.2, valueIn_binary ht.1 ht.2, ihl ht.1 hl, ihr ht.2 hr]
  | call f argument span ih =>
      have hargument : argument.IsExpression := ht
      rw [valueIn_call hargument, valueIn_call hargument, ih hargument h]
  | assign name value span | empty => exact ht.elim

/-! ### What a line does -/

namespace Line

variable {settings : Settings} {line line' : String}

/-- The variables that a line reads; none if it has no tree. -/
def reads (settings : Settings) (line : String) : List String :=
  match tree settings line with
  | .ok t => t.reads
  | .error _ => []

/-- The variables that a line assigns; none if it has no tree. -/
def assigns (settings : Settings) (line : String) : List String :=
  match tree settings line with
  | .ok t => t.assigns
  | .error _ => []

/-- **What a line does** is the same in all tables that agree on what it reads: its outcome, its
warnings, and the change of a variable that it assigns, if it changes any. -/
theorem exists_change (settings : Settings) (line : String) (user : UserId) (table : Table) :
    ∃ outcome change warnings, (∀ p ∈ change, p.1 ∈ assigns settings line)
      ∧ ∀ env : Environment, Table.AgreeOn (reads settings line) (env.tableOf user) table →
        run settings line user env
          = ⟨outcome, env.put user ((env.tableOf user).changed change), warnings⟩ := by
  rcases htree : tree settings line with fault | t
  · exact ⟨.error fault, none, [], by simp, fun env _ => run_of_fault htree env⟩
  · have hreads : reads settings line = t.reads := by rw [reads, htree]
    have hassigns : assigns settings line = t.assigns := by rw [assigns, htree]
    rw [hreads, hassigns]
    cases ofLine_of_parse (tree_eq_ok.mp htree) with
    | empty =>
        refine ⟨.ok (.ofValue .nothing), none, [], by simp, fun env _ => ?_⟩
        rw [run_of_empty htree, ← env.put_tableOf]
        rfl
    | expression ht =>
        refine ⟨((t.valueIn settings.precision table).mapError (.eval (prepare line))).map
          .ofValue, none, [], by simp, fun env henv => ?_⟩
        rw [run_of_expression htree ht, Formula.valueIn_agree ht henv, ← env.put_tableOf]
        rfl
    | @assign name value hvalue span =>
        rcases hv : value.valueIn settings.precision table with e | v
        · refine ⟨.error (.eval (prepare line) e), none, [], by simp, fun env henv => ?_⟩
          rw [run_of_assign htree hvalue, Formula.valueIn_agree hvalue henv, hv,
            ← env.put_tableOf]
          rfl
        · refine ⟨.ok (.ofValue (.text (confirmation name v))), some (name, v),
            if isSeeded name then [⟨prepare line, ⟨name, span⟩⟩] else [], ?_,
            fun env henv => ?_⟩
          · rintro p ⟨⟩
            exact List.mem_cons_self
          · rw [run_of_assign htree hvalue, Formula.valueIn_agree hvalue henv, hv]
            rfl

/-- Two lines of which neither assigns what the other one reads or assigns. -/
structure Independent (settings : Settings) (line line' : String) : Prop where
  assigns_reads : (assigns settings line).Disjoint (reads settings line')
  reads_assigns : (reads settings line).Disjoint (assigns settings line')
  assigns_assigns : (assigns settings line).Disjoint (assigns settings line')

end Line

/-- **Independent lines can change places.** In either order each of them is answered alike, and
they leave the same environment. -/
theorem session_swap {settings : Settings} {line line' : String}
    (h : Line.Independent settings line line') (user : UserId) (env : Environment) :
    ∃ answer answer' after,
      session settings env [⟨user, line⟩, ⟨user, line'⟩] = ([answer, answer'], after)
        ∧ session settings env [⟨user, line'⟩, ⟨user, line⟩] = ([answer', answer], after) := by
  obtain ⟨outcome, change, warnings, hassigns, hrun⟩ :=
    Line.exists_change settings line user (env.tableOf user)
  obtain ⟨outcome', change', warnings', hassigns', hrun'⟩ :=
    Line.exists_change settings line' user (env.tableOf user)
  -- Neither line notices that the other one has been run.
  have hsecond : Table.AgreeOn (Line.reads settings line') ((env.tableOf user).changed change)
      (env.tableOf user) :=
    Table.agreeOn_changed fun p hp hread => h.assigns_reads (hassigns p hp) hread
  have hsecond' : Table.AgreeOn (Line.reads settings line) ((env.tableOf user).changed change')
      (env.tableOf user) :=
    Table.agreeOn_changed fun p hp hread => h.reads_assigns hread (hassigns' p hp)
  have hcomm : ((env.tableOf user).changed change).changed change'
      = ((env.tableOf user).changed change').changed change := by
    refine Table.changed_comm fun p hp q hq heq => ?_
    exact h.assigns_assigns (hassigns p hp) (heq ▸ hassigns' q hq)
  have hfirst := hrun env fun _ _ => rfl
  have hfirst' := hrun' env fun _ _ => rfl
  have hlast := hrun' (env.put user ((env.tableOf user).changed change)) <| by
    rw [Environment.tableOf_put]
    exact hsecond
  have hlast' := hrun (env.put user ((env.tableOf user).changed change')) <| by
    rw [Environment.tableOf_put]
    exact hsecond'
  rw [Environment.tableOf_put, Environment.put_put] at hlast hlast'
  refine ⟨⟨user, outcome, warnings⟩, ⟨user, outcome', warnings'⟩,
    env.put user (((env.tableOf user).changed change).changed change'), ?_, ?_⟩
  · simp [session, Entry.enter, hfirst, hlast]
  · simp [session, Entry.enter, hfirst', hlast', hcomm]

/-- The lines `x = k / 3` and `m = k + y` both read `k`, and can change places. -/
theorem session_swap_sharedConstant :
    Line.Independent .standard "x = k / 3" "m = k + y"
      ∧ ∃ answer answer' after,
        session .standard .empty [⟨.id 7, "x = k / 3"⟩, ⟨.id 7, "m = k + y"⟩]
            = ([answer, answer'], after)
          ∧ session .standard .empty [⟨.id 7, "m = k + y"⟩, ⟨.id 7, "x = k / 3"⟩]
            = ([answer', answer], after) := by
  have hreads : Line.reads .standard "x = k / 3" = ["k"] := by cbv
  have hassigns : Line.assigns .standard "x = k / 3" = ["x"] := by cbv
  have hreads' : Line.reads .standard "m = k + y" = ["k", "y"] := by cbv
  have hassigns' : Line.assigns .standard "m = k + y" = ["m"] := by cbv
  have h : Line.Independent .standard "x = k / 3" "m = k + y" := by
    constructor
    · simp [hassigns, hreads']
    · simp [hreads, hassigns']
    · simp [hassigns, hassigns']
  exact ⟨h, session_swap h (.id 7) .empty⟩

end Reckoner
