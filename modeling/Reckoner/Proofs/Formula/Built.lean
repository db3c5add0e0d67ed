import Reckoner.Proofs.Formula.Sentences

/-!
What the parser is built of.

The steps of the parser look at the two tokens in view and at the levels that are open, move on by
a token, open and close levels, and fail. A failure is blamed on the token in view. What holds of
these steps, and of steps that are put together from steps of which it holds, holds of the parser.

* `Parser.Built`: the steps that are put together from these;
* `Parser.built_expect`, `Parser.built_number` and their kin: single tokens and numbers;
* `Parser.built_subexpression`, `Parser.built_line`: expressions and lines.
-/

namespace Reckoner

namespace Parser

open Parse

variable {α β : Type} {P : Span → Prop}

/-- The steps that the parser is built of. A step that looks at the state sees neither what
follows the two tokens in view nor the errors of the lexer, and may fail where `P` holds if it
holds of the token in view. -/
inductive Built (P : Span → Prop) : {α : Type} → Parse α → Prop
  | done {α : Type} (a : α) : Built P (pure a : Parse α)
  | failed {α : Type} {cause : ParseCause} (hcause : ∀ e, cause ≠ .lexical e) {span : Span}
      (hspan : P span) : Built P (fail cause span : Parse α)
  | moved : Built P skip
  | levelled (g : ℕ → ℕ) :
      Built P (modify fun p => { p with depth := g p.depth } : Parse Unit)
  | next {α β : Type} {x : Parse α} {f : α → Parse β} (hx : Built P x)
      (hf : ∀ a, Built P (f a)) : Built P (x >>= f)
  | looked {β : Type} {f : Parser → Parse β} (hf : ∀ p, P p.here → Built P (f p))
      (hview : ∀ p rest errors, f { p with rest := rest, lexicalErrors := errors } = f p) :
      Built P (get >>= f)

lemma Built.discard {x : Parse α} (hx : Built P x) : Built P (discard x) :=
  hx.next fun _ => .done ()

lemma here_of_current {p : Parser} {t : Token} {span : Span} (h : p.current = some ⟨t, span⟩) :
    p.here = span := by
  rw [here, h]

lemma here_of_none {p : Parser} (h : p.current = none) : p.here = .origin := by
  rw [here, h]

/-! ### Single tokens -/

lemma built_failWanting (wanted : List Wanted) : Built P (failWanting wanted : Parse α) := by
  refine .looked (fun p hp => ?_) fun _ _ _ => rfl
  split
  · next h => exact .failed (by simp) (here_of_current h ▸ hp)
  · next h => exact .failed (by simp) (here_of_current h ▸ hp)
  · next h => exact .failed (by simp) (here_of_none h ▸ hp)

lemma built_expect (t : Token) : Built P (expect t) := by
  refine .looked (fun p _ => ?_) fun _ _ _ => rfl
  split
  · split
    · exact Built.moved.next fun _ => .done _
    · exact built_failWanting _
  · exact built_failWanting _

lemma built_expectIdent : Built P expectIdent := by
  refine .looked (fun p hp => ?_) fun _ _ _ => rfl
  split
  · exact Built.moved.next fun _ => .done _
  · next h => exact .failed (by simp) (here_of_current h ▸ hp)
  · next h => exact .failed (by simp) (here_of_none h ▸ hp)

lemma built_expectEnd : Built P expectEnd := by
  refine .looked (fun p _ => ?_) fun _ _ _ => rfl
  split
  · exact .done _
  · exact built_failWanting _

/-! ### Expressions -/

lemma built_tooDeep : Built P (tooDeep : Parse α) := by
  refine (Built.levelled (· + 1)).next fun _ => ?_
  exact .looked (fun p hp => .failed (by simp) hp) fun _ _ _ => rfl

lemma built_nested {first : Parse Formula} {more : ℕ → Formula → Parse Formula}
    (hfirst : Built P first) (hmore : ∀ t, Built P (more 1 t)) : Built P (nested first more) :=
  (Built.levelled (· + 1)).next fun _ => hfirst.next hmore

lemma built_closing (levels : ℕ) (left : Formula) :
    Built P (do closeLevels levels; return left) :=
  (Built.levelled (· - levels)).next fun _ => .done left

lemma built_number (value : Literal) (span : Span) : Built P (number value span) := by
  refine .looked (fun p _ => ?_) fun _ _ _ => rfl
  split
  · exact Built.moved.next fun _ => Built.moved.next fun _ => .done _
  · exact Built.moved.next fun _ => .done _
  · exact .done _

lemma built_operand {free : ℕ} (hsub : ∀ bound, Built P (subexpression free bound)) :
    Built P (operand free) := by
  have hinner : Built P (subexpression free .lowest) := hsub .lowest
  rw [operand]
  refine .looked (fun p _ => ?_) fun _ _ _ => rfl
  split
  · exact Built.moved.next fun _ => built_number _ _
  · exact Built.moved.next fun _ => built_number _ _
  · exact Built.moved.next fun _ => .done _
  · refine Built.moved.next fun _ => (built_expect _).discard.next fun _ => ?_
    cases free <;>
      exact hinner.next fun _ => (built_expect _).next fun _ => .done _
  · refine Built.moved.next fun _ => ?_
    cases free <;>
      exact hinner.next fun _ => (built_expect _).discard.next fun _ => .done _
  · exact built_failWanting _

lemma built_chain {free : ℕ} (hsub : ∀ g ≤ free, ∀ bound, Built P (subexpression g bound))
    (bound : Precedence) (levels : ℕ) (left : Formula) :
    Built P (chain free bound levels left) := by
  induction free generalizing levels left with
  | zero =>
      rw [chain]
      refine .looked (fun p _ => ?_) fun _ _ _ => rfl
      split
      · split
        · exact Built.moved.next fun _ => built_tooDeep
        · exact built_closing levels left
      · exact built_closing levels left
  | succ free ih =>
      rw [chain]
      refine .looked (fun p _ => ?_) fun _ _ _ => rfl
      split
      · split
        · refine Built.moved.next fun _ => (hsub _ le_rfl _).next fun _ => ?_
          refine (Built.levelled (· + 1)).next fun _ => ?_
          exact ih (fun g hg => hsub g (Nat.le_succ_of_le hg)) _ _
        · exact built_closing levels left
      · exact built_closing levels left

lemma built_subexpression (free : ℕ) (bound : Precedence) :
    Built P (subexpression free bound) := by
  induction free using Nat.strong_induction_on generalizing bound with
  | _ free ih =>
    cases free with
    | zero => exact built_tooDeep
    | succ free =>
        have hsub : ∀ g ≤ free, ∀ bound, Built P (subexpression g bound) :=
          fun g hg => ih g (Nat.lt_succ_of_le hg)
        exact built_nested (built_operand (hsub free le_rfl)) (built_chain hsub bound 1)

lemma built_expression (bound : Precedence) : Built P (expression bound) := by
  rw [expression_eq]
  exact .looked (fun p _ => built_subexpression p.freeLevels bound) fun _ _ _ => rfl

/-! ### Lines -/

lemma here_of_comparisonSign? {p : Parser} {op : Operator} {span : Span}
    (h : p.comparisonSign? = some (op, span)) : p.here = span := by
  rw [comparisonSign?] at h
  split at h
  · next hcurrent =>
    split at h
    · cases h
      exact here_of_current hcurrent
    · cases h
  · cases h

lemma built_comparison : Built P comparison := by
  refine (built_expression .lowest).next fun _ => ?_
  refine .looked (fun p _ => ?_) fun _ _ _ => rfl
  split
  · exact .done _
  · refine Built.moved.next fun _ => (built_expression .lowest).next fun _ => ?_
    refine .looked (fun p hp => ?_) fun _ _ _ => rfl
    split
    · next h => exact .failed (by simp) (here_of_comparisonSign? h ▸ hp)
    · exact .done _

lemma built_assignment : Built P assignment :=
  built_expectIdent.next fun _ => (built_expect _).discard.next fun _ =>
    built_comparison.next fun _ => built_expectEnd.next fun _ => .done _

/-- **The parser is built of these steps.** -/
lemma built_line : Built P line := by
  refine .looked (fun p _ => ?_) fun _ _ _ => rfl
  split
  · exact .done _
  · exact built_assignment
  · exact built_comparison.next fun _ => built_expectEnd.next fun _ => .done _

end Parser

end Reckoner
