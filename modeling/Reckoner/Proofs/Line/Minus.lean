import Reckoner.Proofs.Evaluation.Whole
import Reckoner.Proofs.Line.Prepare
import Reckoner.Proofs.Line.Run

/-!
Subtraction without spaces.

In `2-3` the minus sign ends up in the number `-3`, which is added. That is a subtraction
where the number is all that is taken away, but in `2-3**2` it is `-3` that is squared. The
line without spaces means what the line with spaces means after its minus sign has moved.

* `Joint`: the texts before and after the minus sign;
* `Line.tight`, `Line.apart`: the two lines;
* `Line.success?`, `Formula.shows`: what a line and a tree give when they succeed;
* `Line.tree_tight`: the trees of the two lines;
* `Line.tight_agrees_iff`: when the two lines give the same.
-/

namespace Reckoner

/-- Texts between which a minus sign stands between two digits, and is the only one. -/
structure Joint (left right : String) : Prop where
  ends : ∃ a ∈ left.toList.getLast?, a.isDigit = true
  starts : ∃ b ∈ right.toList.head?, b.isDigit = true
  noMinus_left : '-' ∉ left.toList
  noMinus_right : '-' ∉ right.toList

/-- What is shown for a tree and the table after it, if its evaluation succeeds. -/
def Formula.shows (precision : UInt64) (t : Formula) (table : Table) : Option (Output × Table) :=
  (t.denote precision table).map fun r => (.ofValue r.1, r.2)

lemma Formula.shows_congr {t t' : Formula} (h : t.bare = t'.bare) (precision : UInt64)
    (table : Table) : t.shows precision table = t'.shows precision table := by
  rw [shows, shows, denote_congr h]

namespace Line

/-- A line with a minus sign between two texts. -/
def tight (left right : String) : String := left ++ "-" ++ right

/-- The line with spaces around the minus sign. -/
def apart (left right : String) : String := left ++ " - " ++ right

/-- The output of a line and the environment after it, if the line succeeds. -/
def success? (settings : Settings) (line : String) (user : UserId) (env : Environment) :
    Option (Output × Environment) :=
  (run settings line user env).outcome.toOption.map
    (·, (run settings line user env).environment)

lemma put_injective {env : Environment} {user : UserId} {table table' : Table}
    (h : env.put user table = env.put user table') : table = table' := by
  have htable := congrArg (fun e => Environment.table? e user) h
  simpa using htable

section Success

variable {settings : Settings} {line line' : String} {user : UserId} {env : Environment}

lemma success?_of_fault {fault : Fault} (h : tree settings line = .error fault) :
    success? settings line user env = none := by
  rw [success?, run_of_fault h]
  rfl

lemma success?_of_tree {t : Formula} (h : tree settings line = .ok t) :
    success? settings line user env
      = (t.shows settings.precision (env.tableOf user)).map fun r => (r.1, env.put user r.2) := by
  have heval : Evaluation.succeeded
        ((t.eval settings.precision).run (.start (env.tableOf user)))
      = t.denote settings.precision (env.tableOf user) :=
    t.succeeded_eval settings.precision (.start (env.tableOf user))
  rw [success?, run_of_tree h, Formula.shows, ← heval]
  rcases (t.eval settings.precision).run (.start (env.tableOf user)) with ⟨_ | v, e⟩
  · rfl
  · rfl

lemma success?_eq_iff_shows {t t' : Formula} (htree : tree settings line = .ok t)
    (htree' : tree settings line' = .ok t') :
    success? settings line' user env = success? settings line user env
      ↔ t'.shows settings.precision (env.tableOf user)
        = t.shows settings.precision (env.tableOf user) := by
  have hinjective : Function.Injective fun r : Output × Table => (r.1, env.put user r.2) := by
    rintro ⟨output, table⟩ ⟨output', table'⟩ heq
    obtain ⟨rfl, hput⟩ := Prod.mk.inj heq
    exact Prod.ext rfl (put_injective hput)
  rw [success?_of_tree htree, success?_of_tree htree', (Option.map_injective hinjective).eq_iff]

end Success

/-! ### The trees of the two lines -/

section Joint

variable {left right : String}

lemma exists_prepared (h : Joint left right) :
    ∃ (b : Char) (cs ds : List Char), b.isDigit = true ∧ '-' ∉ cs ∧ '-' ∉ b :: ds
      ∧ (prepare (tight left right)).toList = cs ++ '+' :: '-' :: b :: ds
      ∧ (prepare (apart left right)).toList = cs ++ ' ' :: '-' :: ' ' :: b :: ds := by
  obtain ⟨⟨a, hlast, ha⟩, ⟨b, hfirst, hb⟩, hcs, hds⟩ := h
  obtain ⟨cs, hleft⟩ := List.getLast?_eq_some_iff.mp hlast
  obtain ⟨ds, hright⟩ := List.head?_eq_some_iff.mp hfirst
  rw [hleft] at hcs
  rw [hright] at hds
  have hcs' : '-' ∉ cs := fun hmem => hcs (List.mem_append_left _ hmem)
  have hds' : '-' ∉ ds := fun hmem => hds (List.mem_cons_of_mem _ hmem)
  refine ⟨b, spellPower (cs ++ [a]), spellPower ds, hb, minus_not_mem_spellPower hcs, ?_, ?_, ?_⟩
  · rw [List.mem_cons, not_or]
    exact ⟨(Lexer.ne_of_isDigit hb rfl).symm, minus_not_mem_spellPower hds'⟩
  · have htight : (tight left right).toList = cs ++ a :: '-' :: b :: ds := by
      simp [tight, hleft, hright]
    rw [prepare, htight, String.toList_ofList, prepare_tight ha hb hcs' hds']
  · have hapart : (apart left right).toList = (cs ++ [a]) ++ ' ' :: '-' :: ' ' :: b :: ds := by
      simp [apart, hleft, hright]
    rw [prepare, hapart, String.toList_ofList, prepare_spaced hb hcs hds]

/-- **The trees of the two lines.** Either both lines have a tree or none has, and in the
tree of the line without spaces the minus sign has moved. -/
lemma tree_tight (h : Joint left right) (settings : Settings) :
    (∀ t, tree settings (apart left right) = .ok t →
        ∃ t', tree settings (tight left right) = .ok t' ∧ t'.bare = t.moveMinus.bare)
      ∧ ∀ t', tree settings (tight left right) = .ok t' →
        ∃ t, tree settings (apart left right) = .ok t := by
  obtain ⟨b, cs, ds, hb, hcs, hds, htight, hapart⟩ := exists_prepared h
  obtain ⟨hturned, hminus⟩ := Lexer.reading_junction hb hcs hds 0
  rw [← htight, ← hapart] at hturned
  rw [← hapart] at hminus
  simp only [tree_eq_ok]
  exact parse_turned hturned hminus settings.maxDepth

lemma success?_tight_iff (h : Joint left right) (settings : Settings) (user : UserId)
    (env : Environment) :
    success? settings (tight left right) user env = success? settings (apart left right) user env
      ↔ ∀ t, tree settings (apart left right) = .ok t →
        t.moveMinus.shows settings.precision (env.tableOf user)
          = t.shows settings.precision (env.tableOf user) := by
  obtain ⟨hmoved, hback⟩ := tree_tight h settings
  rcases htree : tree settings (apart left right) with fault | t
  · obtain ⟨fault', htree'⟩ : ∃ fault', tree settings (tight left right) = .error fault' := by
      rcases htree' : tree settings (tight left right) with fault' | t'
      · exact ⟨fault', rfl⟩
      · obtain ⟨t, ht⟩ := hback t' htree'
        simp [ht] at htree
    simp [success?_of_fault htree, success?_of_fault htree']
  · obtain ⟨t', htree', hbare⟩ := hmoved t htree
    rw [success?_eq_iff_shows htree htree', Formula.shows_congr hbare]
    simp

/-- **Subtraction without spaces** gives what subtraction with spaces gives if and only if
the tree with spaces shows the same after its minus sign has moved. It does on whole numbers,
where a product is taken away. -/
theorem tight_agrees_iff (h : Joint left right) (settings : Settings) (user : UserId)
    (env : Environment) :
    (success? settings (tight left right) user env
        = success? settings (apart left right) user env
      ↔ ∀ t, tree settings (apart left right) = .ok t →
        t.moveMinus.shows settings.precision (env.tableOf user)
          = t.shows settings.precision (env.tableOf user))
      ∧ ((∀ t, tree settings (apart left right) = .ok t → t.IsWholeLine (env.tableOf user)) →
        success? settings (tight left right) user env
          = success? settings (apart left right) user env) := by
  have hiff := success?_tight_iff h settings user env
  refine ⟨hiff, fun hwhole => hiff.mpr fun t ht => ?_⟩
  rw [Formula.shows, Formula.shows, Formula.denote_moveMinus (hwhole t ht)]

/-- `7-3` is `7 - 3`, but `1-2/3` is not `1 - 2/3`: a positive quotient is rounded, and a
negative one is cut off. -/
theorem tight_agrees_difference_not_quotient :
    (Joint "7" "3"
        ∧ success? ⟨5, 100⟩ (tight "7" "3") .anonymous ∅
          = success? ⟨5, 100⟩ (apart "7" "3") .anonymous ∅)
      ∧ Joint "1" "2/3"
        ∧ success? ⟨5, 100⟩ (tight "1" "2/3") .anonymous ∅
          ≠ success? ⟨5, 100⟩ (apart "1" "2/3") .anonymous ∅ := by
  have hdifference : Joint "7" "3" := by
    refine ⟨⟨'7', ?_, ?_⟩, ⟨'3', ?_, ?_⟩, ?_, ?_⟩ <;> decide
  have hquotient : Joint "1" "2/3" := by
    refine ⟨⟨'1', ?_, ?_⟩, ⟨'2', ?_, ?_⟩, ?_, ?_⟩ <;> decide
  refine ⟨⟨hdifference, (tight_agrees_iff hdifference _ _ _).2 ?_⟩, hquotient, fun hagree => ?_⟩
  · have htree : tree ⟨5, 100⟩ (apart "7" "3")
        = .ok (.binary .sub (.literal (.int 7) ⟨0, 1⟩) (.literal (.int 3) ⟨4, 5⟩) ⟨0, 5⟩) := by
      cbv
    rw [htree]
    rintro _ ⟨⟩
    exact .inr ⟨⟨7, rfl⟩, ⟨3, rfl⟩, .inr (.inr ⟨rfl, trivial⟩)⟩
  · have htree : tree ⟨5, 100⟩ (apart "1" "2/3")
        = .ok (.binary .sub (.literal (.int 1) ⟨0, 1⟩)
          (.binary .div (.literal (.int 2) ⟨4, 5⟩) (.literal (.int 3) ⟨6, 7⟩) ⟨4, 7⟩) ⟨0, 7⟩) := by
      cbv
    have hshows := (tight_agrees_iff hquotient _ _ _).1.mp hagree _ htree
    have houtputs := congrArg (Option.map Prod.fst) hshows
    revert houtputs
    decide +kernel

end Joint

end Line

end Reckoner
