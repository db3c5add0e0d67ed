import Reckoner.Proofs.Line.Effect
import Reckoner.Proofs.Line.Isolation

/-!
Warnings about names that are taken.

A line gives a warning when it succeeds in assigning a name that tables start out with. Which
names these are is decided without the user, but the table of the anonymous user starts out
without `id`. So there is one warning for each line that assigns a name that the table of its user
started out with, and one for each line of the anonymous user that assigns `id`, which replaces
nothing that was there from the start.

* `UserId.startsOutWith`, `isSeeded_eq`: the names that the table of a user starts out with;
* `Exchange`, `exchanges`: the lines of a session with the answers to them;
* `Exchange.assigned?`, `Exchange.overwrites`, `Exchange.warnsWrongly`: what lines assign;
* `warned_enter`, `warned_of_mem`: the warnings of one line, and of all lines of a session;
* `warningCount`, `warningCount_session`: the number of warnings of a session;
* `warnings_truthful_iff`: the sessions whose warnings are about names that users started out with.
-/

namespace Reckoner

/-! ### The names that a table starts out with -/

/-- Whether the table of a user starts out with a name. -/
def UserId.startsOutWith (user : UserId) (name : String) : Bool :=
  ((Table.seeded user).get? name).isSome

/-- Setting constants binds their names, and no others. -/
lemma isSome_get?_foldl_set (cs : List (String × ℤ)) (table : Table) (name : String) :
    ((cs.foldl (fun t c => t.set c.1 (.integer c.2)) table).get? name).isSome
      = ((table.get? name).isSome || cs.any fun c => c.1 == name) := by
  induction cs generalizing table with
  | nil => rw [List.foldl_nil, List.any_nil, Bool.or_false]
  | cons c cs ih =>
      rw [List.foldl_cons, ih, List.any_cons, Table.get?_set]
      by_cases hname : c.1 = name
      · simp [hname]
      · simp [hname, beq_false_of_ne hname]

/-- The names that warnings are about: those that the table of the user starts out with, and `id`
even if the user is anonymous. -/
lemma isSeeded_eq (user : UserId) (name : String) :
    isSeeded name = (user.startsOutWith name || (user == .anonymous && name == idName)) := by
  have hconstants :
      ((constants.foldl (fun t c => t.set c.1 (.integer c.2)) (∅ : Table)).get? name).isSome
        = constants.any fun c => c.1 == name := by
    rw [isSome_get?_foldl_set]
    simp [Table.get?]
  cases user with
  | anonymous =>
      rw [isSeeded, UserId.startsOutWith, Table.seeded, hconstants, Bool.or_comm]
      rfl
  | id number =>
      rw [isSeeded, UserId.startsOutWith, Table.seeded, Table.get?_set]
      by_cases hid : name = idName
      · subst hid
        simp
      · rw [if_neg (Ne.symm hid), hconstants, beq_false_of_ne hid]
        simp

/-! ### Lines and their answers -/

/-- A line that a user enters, and what they are answered to it. -/
structure Exchange where
  entry : Entry
  answer : Answer

/-- The lines of a session that starts out empty, with the answers to them. -/
def exchanges (settings : Settings) (entries : List Entry) : List Exchange :=
  (entries.zip (session settings .empty entries).1).map fun x => ⟨x.1, x.2⟩

namespace Exchange

variable (settings : Settings) (x : Exchange)

/-- The name that a line has given a value. -/
def assigned? : Option String :=
  match Line.tree settings x.entry.line, x.answer.outcome with
  | .ok (.assign name _ _), .ok _ => some name
  | _, _ => none

/-- Whether a line has assigned a name that the table of its user started out with. -/
def overwrites : Bool := (x.assigned? settings).any x.entry.user.startsOutWith

/-- Whether a line of the anonymous user has assigned `id`. -/
def warnsWrongly : Bool :=
  x.entry.user == .anonymous && (x.assigned? settings).any (· == idName)

/-- The names that the warnings of a line are about. -/
def warned : List String := x.answer.warnings.map (·.overwrite.name)

variable {settings x}

/-- No line is both: the table of the anonymous user starts out without `id`. -/
lemma overwrites_eq_false (h : x.warnsWrongly settings = true) : x.overwrites settings = false := by
  obtain ⟨huser, hname⟩ := Bool.and_eq_true_iff.mp h
  obtain ⟨name, hassigned, hid⟩ := (Option.any_eq_true _ _).mp hname
  rw [overwrites, hassigned, eq_of_beq huser, eq_of_beq hid]
  decide

/-- A line warns once if it assigns a name that warnings are about. -/
lemma length_warnings
    (h : x.warned = (x.assigned? settings).toList.filter isSeeded) :
    x.answer.warnings.length
      = (x.overwrites settings).toNat + (x.warnsWrongly settings).toNat := by
  have hexclusive : x.warnsWrongly settings = true → x.overwrites settings = false :=
    overwrites_eq_false
  rw [← List.length_map (f := (·.overwrite.name)), ← warned, h]
  revert hexclusive
  rw [overwrites, warnsWrongly]
  cases x.assigned? settings with
  | none => simp
  | some name =>
      simp only [Option.toList_some, Option.any_some, List.filter_singleton,
        isSeeded_eq x.entry.user name]
      cases x.entry.user.startsOutWith name <;>
        cases x.entry.user == .anonymous && name == idName <;> simp

end Exchange

section Sessions

variable (settings : Settings)

/-- The warnings of a line are about the name that it assigns, if tables start out with it. -/
lemma warned_enter (env : Environment) (entry : Entry) :
    Exchange.warned ⟨entry, (entry.enter settings env).1⟩
      = (Exchange.assigned? settings ⟨entry, (entry.enter settings env).1⟩).toList.filter
          isSeeded := by
  simp only [Exchange.warned, Exchange.assigned?, Entry.enter]
  rcases htree : Line.tree settings entry.line with fault | t
  · rw [Line.run_of_error htree]
    rfl
  · cases ofLine_of_parse (Line.tree_eq_ok.mp htree) with
    | empty =>
        rw [Line.run_of_empty htree]
        rfl
    | expression ht =>
        rw [Line.run_of_expression htree ht]
        cases t with
        | assign name value span => exact ht.elim
        | _ => rfl
    | @assign name value hvalue span =>
        rw [Line.run_of_assign htree hvalue]
        rcases value.valueIn settings.precision (env.tableOf entry.user) with e | v
        · rfl
        · cases hseeded : isSeeded name <;> simp [hseeded]

/-- The warnings of every line of a session are about the name that it assigns, if tables start out
with it: in which environment the line is entered does not matter. -/
lemma warned_of_mem (entries : List Entry) :
    ∀ x ∈ exchanges settings entries,
      x.warned = (x.assigned? settings).toList.filter isSeeded := by
  rw [exchanges]
  generalize Environment.empty = env
  induction entries generalizing env with
  | nil => simp
  | cons entry entries ih =>
      rw [session, List.zip_cons_cons, List.map_cons]
      exact List.forall_mem_cons.mpr ⟨warned_enter settings env entry, ih _⟩

/-! ### The number of warnings -/

/-- The number of warnings that are given with answers. -/
def warningCount (answers : List Answer) : ℕ :=
  (answers.foldl (fun log answer => log.add answer.warnings) WarningLog.empty).count

lemma warningCount_eq_sum (answers : List Answer) :
    warningCount answers = (answers.map (·.warnings.length)).sum := by
  have hcount (log : WarningLog) :
      (answers.foldl (fun log answer => log.add answer.warnings) log).count
        = log.count + (answers.map (·.warnings.length)).sum := by
    induction answers generalizing log with
    | nil => rfl
    | cons answer answers ih =>
        rw [List.foldl_cons, ih, List.map_cons, List.sum_cons, ← add_assoc]
        rfl
  rw [warningCount, hcount, WarningLog.empty, zero_add]

lemma length_session (env : Environment) (entries : List Entry) :
    (session settings env entries).1.length = entries.length := by
  induction entries generalizing env with
  | nil => rfl
  | cons entry entries ih => rw [session, List.length_cons, ih, List.length_cons]

lemma answers_exchanges (entries : List Entry) :
    (exchanges settings entries).map (·.answer) = (session settings .empty entries).1 := by
  rw [exchanges, List.map_map]
  exact List.map_snd_zip (length_session settings _ entries).le

/-- There is one warning for each line that assigns a name that its user started out with, and one
for each line of the anonymous user that assigns `id`. -/
lemma warningCount_session (entries : List Entry) :
    warningCount (session settings .empty entries).1
      = (exchanges settings entries).countP (·.overwrites settings)
        + (exchanges settings entries).countP (·.warnsWrongly settings) := by
  have hwarned := warned_of_mem settings entries
  rw [warningCount_eq_sum, ← answers_exchanges, List.map_map]
  generalize exchanges settings entries = lines at hwarned
  induction lines with
  | nil => rfl
  | cons x lines ih =>
      obtain ⟨hx, hlines⟩ := List.forall_mem_cons.mp hwarned
      have hlength := Exchange.length_warnings hx
      rw [List.map_cons, List.sum_cons, ih hlines, Function.comp_apply, hlength,
        List.countP_cons, List.countP_cons]
      cases x.overwrites settings <;> cases x.warnsWrongly settings <;> simp <;> omega

/-- **Warnings about names that users started out with.** The warnings of a line are about the
name that it assigns. They are given exactly for the lines that replace a value which the table of
their user started out with, unless the anonymous user assigns `id`. -/
theorem warnings_truthful_iff (entries : List Entry) :
    (∀ x ∈ exchanges settings entries,
      x.warned = (x.assigned? settings).toList.filter isSeeded)
    ∧ warningCount (session settings .empty entries).1
      = (exchanges settings entries).countP (·.overwrites settings)
        + (exchanges settings entries).countP (·.warnsWrongly settings)
    ∧ (((∀ x ∈ exchanges settings entries, x.warned ≠ [] ↔ x.overwrites settings = true)
        ∧ warningCount (session settings .empty entries).1
          = (exchanges settings entries).countP (·.overwrites settings))
      ↔ ∀ x ∈ exchanges settings entries, x.warnsWrongly settings = false) := by
  have hwarned := warned_of_mem settings entries
  have hcount := warningCount_session settings entries
  have hnone : (exchanges settings entries).countP (·.warnsWrongly settings) = 0
      ↔ ∀ x ∈ exchanges settings entries, x.warnsWrongly settings = false := by
    simp only [List.countP_eq_zero, Bool.not_eq_true]
  refine ⟨hwarned, hcount, ?_, ?_⟩
  · rintro ⟨-, htruthful⟩
    exact hnone.mp (by omega)
  · intro hright
    have hzero := hnone.mpr hright
    refine ⟨?_, by omega⟩
    intro x hx
    have hlength := Exchange.length_warnings (hwarned x hx)
    rw [hright x hx, Bool.toNat_false, add_zero] at hlength
    rw [← List.length_pos_iff, Exchange.warned, List.length_map, hlength]
    cases x.overwrites settings <;> decide

/-- The anonymous user, who never had an `id`, is warned that its value is lost. -/
theorem anonymous_id_warning :
    UserId.anonymous.startsOutWith idName = false
    ∧ (exchanges .standard [⟨.anonymous, "id = 5"⟩]).map (·.warned) = [["id"]]
    ∧ (exchanges .standard [⟨.anonymous, "id = 5"⟩]).map (·.overwrites .standard) = [false]
    ∧ warningCount (session .standard .empty [⟨.anonymous, "id = 5"⟩]).1 = 1
    ∧ (exchanges .standard [⟨.anonymous, "id = 5"⟩]).countP (·.overwrites .standard) = 0 := by
  decide +kernel

end Sessions

end Reckoner
