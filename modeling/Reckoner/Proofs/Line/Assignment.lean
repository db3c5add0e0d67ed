import Reckoner.Proofs.Formula.Tokens
import Reckoner.Proofs.Line.Effect
import Reckoner.Proofs.Line.Prepare
import Reckoner.Proofs.Token.Minus
import Reckoner.Proofs.Token.Written

/-!
Names stand for what they are given.

A line that shows a value can be given a name: the line that assigns it succeeds, and from
then on the name shows what the line has shown, whatever kind of value that is.

* `Line.assigning`, `Line.reading_assigning`: the line that assigns, and its tokens;
* `Line.tree_assigning`, `Line.tree_name`: the trees of the two lines that follow;
* `Line.run_assigning`: the name shows what the line has shown.
-/

namespace Reckoner

open Lexer Evaluation

lemma Line.prepare_name {name : String} (h : IsName name) : prepare name = name :=
  prepare_of_not_mem (h.not_mem rfl) (h.not_mem rfl)

lemma Clause.levels_pos (c : Clause) : 0 < c.levels := by
  cases c with
  | expression p => exact p.levels_pos
  | comparison op span left right => exact lt_max_of_lt_left left.levels_pos

namespace Line

variable {settings : Settings} {line name : String} {t : Formula}

/-! ### The line that assigns -/

/-- The line that gives a name what another line shows. -/
def assigning (name line : String) : String := name ++ " = " ++ line

lemma prepare_assigning (h : IsName name) (line : String) :
    (prepare (assigning name line)).toList
      = name.toList ++ ' ' :: '=' :: ' ' :: (prepare line).toList := by
  have htext : (assigning name line).toList = name.toList ++ ' ' :: '=' :: ' ' :: line.toList := by
    simp [assigning]
  have hminus : separateMinus (' ' :: '=' :: ' ' :: line.toList)
      = ' ' :: '=' :: ' ' :: separateMinus line.toList := by
    rw [separateMinus_cons_of_not_isDigit rfl, separateMinus_cons_of_not_isDigit rfl,
      separateMinus_cons_of_not_isDigit rfl]
  have hhead : ∀ d ∈ (' ' :: '=' :: ' ' :: line.toList).head?, d ≠ '-' := by
    rintro _ ⟨⟩
    decide
  rw [prepare, prepare, String.toList_ofList, String.toList_ofList, htext,
    separateMinus_append (h.not_mem rfl) hhead, hminus, spellPower_append,
    spellPower_of_not_mem (h.not_mem rfl), spellPower_cons (by decide),
    spellPower_cons (by decide), spellPower_cons (by decide)]

/-- The tokens of the line that assigns. -/
lemma reading_assigning (h : IsName name) (line : String) :
    reading (items (prepare (assigning name line)))
      = (reading (items (prepare line))).map ([.ident name, .assign] ++ ·) := by
  obtain ⟨size, hname⟩ := readsBack_ident h (' ' :: '=' :: ' ' :: (prepare line).toList)
    (by rintro _ ⟨⟩; rfl)
  have hassign : scan ('=' :: ' ' :: (prepare line).toList)
      = some ([(.assign, 1)], ' ' :: (prepare line).toList) := rfl
  rw [Token.literal] at hname
  rw [items, prepare_assigning h, reading_scanned 0 hname, reading_blank,
    reading_scanned 0 hassign, reading_blank, items]
  simp [Function.comp_def]

/-- What a line with an expression is written as. -/
lemma exists_clause (h : tree settings line = .ok t) (ht : t.IsExpression) :
    ∃ (c : Clause) (ending : Span), c.Layered ∧ c.levels ≤ settings.maxDepth
      ∧ tokenize (prepare line) = .ok (Sentence.statement c ending).lexemes ∧ c.tree = t := by
  obtain ⟨s, hs, hlevels, htokens, rfl⟩ := parse_ok_iff.mp (tree_eq_ok.mp h)
  cases s with
  | blank ending => exact ht.elim
  | assignment name span sign c ending => exact ht.elim
  | statement c ending => exact ⟨c, ending, hs, hlevels, htokens, rfl⟩

lemma tree_of_reading {s : Sentence} (hs : s.Layered) (hlevels : s.levels ≤ settings.maxDepth)
    (h : reading (items (prepare line)) = some (tokensOf s.lexemes)) :
    ∃ t, tree settings line = .ok t ∧ t.bare = s.tree.bare := by
  simp only [tree_eq_ok]
  exact parse_of_reading hs hlevels h

/-- The line that assigns has the tree of the other line below the name. -/
lemma tree_assigning (hname : IsName name) (h : tree settings line = .ok t)
    (ht : t.IsExpression) :
    ∃ value span, tree settings (assigning name line) = .ok (.assign name value span)
      ∧ value.IsExpression ∧ value.bare = t.bare := by
  obtain ⟨c, ending, hc, hlevels, htokens, rfl⟩ := exists_clause h ht
  have hreading : reading (items (prepare (assigning name line)))
      = some (tokensOf (Sentence.assignment name .origin .origin c ending).lexemes) := by
    rw [reading_assigning hname, reading_of_tokenize htokens]
    rfl
  obtain ⟨t', ht', hbare⟩ := tree_of_reading (s := .assignment name .origin .origin c ending) hc
    hlevels hreading
  cases ofLine_of_parse (tree_eq_ok.mp ht') with
  | empty => simp [Sentence.tree, Formula.bare] at hbare
  | expression hexpression =>
      cases t' <;> simp [Sentence.tree, Formula.bare, Formula.IsExpression] at hbare hexpression
  | @assign name' value hvalue span =>
      obtain ⟨rfl, hvalueBare⟩ : name' = name ∧ value.bare = c.tree.bare := by
        simpa [Sentence.tree, Formula.bare] using hbare
      exact ⟨value, span, ht', hvalue, hvalueBare⟩

/-- Where any expression is read, a name is. -/
lemma tree_name (hname : IsName name) (hdepth : 0 < settings.maxDepth) :
    ∃ span, tree settings name = .ok (.var name span) := by
  obtain ⟨span, ending, htokens⟩ := tokenize_name hname
  refine ⟨span, tree_eq_ok.mpr (parse_ok_iff.mpr ?_)⟩
  rw [prepare_name hname]
  exact ⟨.statement (.expression (.named name span)) ending, trivial, hdepth, htokens, rfl⟩

/-! ### What the name stands for -/

variable {user : UserId} {env : Environment} {output : Output}

/-- A line that shows something else than a confirmation, or nothing, shows the value of an
expression. -/
lemma exists_value (h : (run settings line user env).outcome = .ok output)
    (hconfirmation : ∀ name v, output ≠ .plain (.text (confirmation name v)))
    (hnothing : output ≠ .plain .nothing) :
    ∃ t v, tree settings line = .ok t ∧ t.IsExpression
      ∧ t.valueIn settings.precision (env.tableOf user) = .ok v ∧ output = .ofValue v := by
  rcases htree : tree settings line with fault | t
  · simp [run_of_error htree] at h
  · cases ofLine_of_parse (tree_eq_ok.mp htree) with
    | empty =>
        rw [run_of_empty htree] at h
        cases h
        exact absurd rfl hnothing
    | @assign name value hvalue span =>
        rw [run_of_assign htree hvalue] at h
        split at h
        · next v hv =>
          cases h
          exact absurd rfl (hconfirmation name v)
        · cases h
    | expression ht =>
        rw [run_of_expression htree ht] at h
        rcases hv : t.valueIn settings.precision (env.tableOf user) with e | v
        · simp [hv, Except.mapError, Except.map] at h
        · rw [hv] at h
          cases h
          exact ⟨t, v, rfl, ht, hv, rfl⟩

/-- **A name shows what it was given.** Where a line shows a value, the line that assigns it
succeeds and confirms this, and the name alone shows the same from then on. -/
theorem run_assigning (hname : IsName name)
    (h : (run settings line user env).outcome = .ok output)
    (hconfirmation : ∀ name v, output ≠ .plain (.text (confirmation name v)))
    (hnothing : output ≠ .plain .nothing) :
    ∃ v, output = .ofValue v
      ∧ (run settings (assigning name line) user env).outcome
        = .ok (.plain (.text (confirmation name v)))
      ∧ (run settings name user (run settings (assigning name line) user env).environment).outcome
        = .ok output := by
  obtain ⟨t, v, htree, ht, hv, rfl⟩ := exists_value h hconfirmation hnothing
  obtain ⟨value, span, hassigning, hvalue, hbare⟩ := tree_assigning hname htree ht
  obtain ⟨c, -, hc, hlevels, -, -⟩ := exists_clause htree ht
  have hdepth : 0 < settings.maxDepth := c.levels_pos.trans_le hlevels
  obtain ⟨nameSpan, hnameTree⟩ := tree_name hname hdepth
  have hv' := Formula.valueIn_congr ht hvalue hbare hv
  have henvironment : (run settings (assigning name line) user env).environment
      = env.put user ((env.tableOf user).set name v) := by
    rw [run_of_assign hassigning hvalue, hv']
  refine ⟨v, rfl, ?_, ?_⟩
  · rw [run_of_assign hassigning hvalue, hv']
    rfl
  · have hget :
        ((env.put user ((env.tableOf user).set name v)).tableOf user).get? name = some v := by
      rw [Environment.tableOf_put, Table.get?_set, if_pos rfl]
    rw [henvironment, run_of_expression hnameTree trivial, Formula.valueIn_var, hget]
    rfl

/-- `2 < 3` is true, and so is `x` after `x = 2 < 3`. -/
theorem run_assigning_comparison :
    (run .standard "2 < 3" .anonymous ∅).outcome = .ok (.plain (.boolean true))
      ∧ (run .standard "x" .anonymous
          (run .standard (assigning "x" "2 < 3") .anonymous ∅).environment).outcome
        = .ok (.plain (.boolean true)) := by
  have hname : IsName "x" := by decide
  have hshown : (run .standard "2 < 3" .anonymous ∅).outcome = .ok (.plain (.boolean true)) := by
    have htree : tree .standard "2 < 3"
        = .ok (.binary .less (.literal (.int 2) ⟨0, 1⟩) (.literal (.int 3) ⟨4, 5⟩) ⟨0, 5⟩) := by
      cbv
    rw [run_of_expression htree ⟨trivial, trivial⟩]
    cbv
  obtain ⟨v, -, -, hx⟩ := run_assigning hname hshown (by simp) (by simp)
  exact ⟨hshown, hx⟩

end Line

end Reckoner
