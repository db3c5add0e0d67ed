import Reckoner.Proofs.Line.Run

/-!
Users do not notice each other.

All users share one environment, and their lines may follow each other in any order. A line
reads the table of its own user and changes no other one, so what a user is answered and the
table they are left with depend on their own lines only.

* `Entry`, `Answer`: a line that a user enters, and what they are answered;
* `session`: the course of a session;
* `table?_enter_other`, `enter_own`: what a line means for another user, and for its own;
* `session_isolated`: the lines of all other users can be left out.
-/

namespace Reckoner

/-- A line, and the user who enters it. -/
structure Entry where
  user : UserId
  line : String

/-- What a user is answered to a line. -/
structure Answer where
  user : UserId
  outcome : Except Fault Output
  warnings : List Warning

/-- What becomes of an entry: the answer, and the environment after it. -/
def Entry.enter (settings : Settings) (env : Environment) (entry : Entry) :
    Answer × Environment :=
  let result := Line.run settings entry.line entry.user env
  (⟨entry.user, result.outcome, result.warnings⟩, result.environment)

/-- The course of a session: the answers to lines that are entered one after the other, and
the environment after all of them. -/
def session (settings : Settings) (env : Environment) : List Entry → List Answer × Environment
  | [] => ([], env)
  | entry :: entries =>
      let first := entry.enter settings env
      let others := session settings first.2 entries
      (first.1 :: others.1, others.2)

section Sessions

variable (settings : Settings) {env env' : Environment} {user : UserId} {entry : Entry}

@[simp] lemma enter_user : (entry.enter settings env).1.user = entry.user := rfl

/-- A line leaves the tables of all other users as they are. -/
lemma table?_enter_other (h : entry.user ≠ user) :
    (entry.enter settings env).2.table? user = env.table? user := by
  obtain ⟨outcome, table, warnings, hrun, -⟩ :=
    Line.run_eq_of_tableOf settings entry.line (rfl : env.tableOf entry.user = _)
  rw [Entry.enter, hrun]
  exact Environment.table?_put_of_ne h.symm env table

/-- A line is answered alike, and leaves its user the same table, in environments that have
the same table for the user. -/
lemma enter_own (henv : env.table? entry.user = env'.table? entry.user) :
    (entry.enter settings env).1 = (entry.enter settings env').1
      ∧ (entry.enter settings env).2.table? entry.user
        = (entry.enter settings env').2.table? entry.user := by
  obtain ⟨outcome, table, warnings, hrun, hrun'⟩ :=
    Line.run_eq_of_tableOf settings entry.line (Environment.tableOf_congr henv)
  simp [Entry.enter, hrun, hrun']

/-- **Two sessions.** Of two environments with the same table for a user, one sees all lines
and the other one the lines of the user only: the user gets the same answers in both, and is
left with the same table. -/
lemma session_filter (henv : env.table? user = env'.table? user) (entries : List Entry) :
    (session settings env entries).1.filter (·.user = user)
        = (session settings env' (entries.filter (·.user = user))).1
      ∧ (session settings env entries).2.table? user
        = (session settings env' (entries.filter (·.user = user))).2.table? user := by
  induction entries generalizing env env' with
  | nil => exact ⟨rfl, henv⟩
  | cons entry entries ih =>
      by_cases huser : entry.user = user
      · subst huser
        obtain ⟨hanswer, htable⟩ := enter_own settings henv
        obtain ⟨hanswers, htables⟩ := ih htable
        simp [session, hanswer, hanswers, htables]
      · have hother := (table?_enter_other settings huser).trans henv
        obtain ⟨hanswers, htables⟩ := ih hother
        simp [session, huser, hanswers, htables]

/-- **Users are isolated.** In a session that starts out empty, a user gets the answers and
is left with the table that their own lines give them, however the lines of others stand
between them. -/
theorem session_isolated (user : UserId) (entries : List Entry) :
    (session settings .empty entries).1.filter (·.user = user)
        = (session settings .empty (entries.filter (·.user = user))).1
      ∧ (session settings .empty entries).2.table? user
        = (session settings .empty (entries.filter (·.user = user))).2.table? user :=
  session_filter settings rfl entries

end Sessions

end Reckoner
