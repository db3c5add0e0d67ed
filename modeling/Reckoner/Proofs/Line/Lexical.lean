import Reckoner.Proofs.Formula.Ahead
import Reckoner.Proofs.Line.Run

/-!
Lines that the lexer cannot read.

A line with a lexical error never has an output. The error itself is reported only where the
parser comes as far: an error that the lexemes before it make certain goes first.

* `Line.tree_of_lexical_error`: what is reported instead of a tree;
* `Line.lexical_error_reported_iff`: when it is the lexical error.
-/

namespace Reckoner

namespace Line

variable {line source : String} {e : LexicalError} {settings : Settings}

/-- A line with a lexical error has no tree: the lexical error is reported, or an error that
the lexemes before it make certain. -/
lemma tree_of_lexical_error (h : tokens line = .error (.lexical source e))
    (settings : Settings) :
    (tree settings line = .error (.lexical source e)
        ∧ ∀ error, ¬ FailsEarly (Lexer.lexemesOf source) settings.maxDepth error)
      ∨ ∃ error, tree settings line = .error (.parse source error)
        ∧ FailsEarly (Lexer.lexemesOf source) settings.maxDepth error := by
  obtain ⟨_, htokens, hfault⟩ := tokens_eq_error.mp h
  cases hfault
  obtain ⟨hitems, heof⟩ := Lexer.items_of_error htokens
  have htree : tree settings line
      = (parseItems (Lexer.stream (Lexer.lexemesOf (prepare line)) (some e))
          settings.maxDepth).mapError (.ofParse (prepare line)) := by
    rw [← hitems]
    rfl
  obtain ⟨hparse, hnot⟩ | ⟨error, hcause, hearly⟩ := parseItems_cut heof e settings.maxDepth
  · exact .inl ⟨by rw [htree, hparse]; rfl, hnot⟩
  · refine .inr ⟨error, ?_, hearly⟩
    have hparse := hearly [] (some e)
    rw [List.append_nil] at hparse
    rw [htree, hparse, Except.mapError, Fault.ofParse.eq_def]
    split
    · next e' he' => exact absurd he' (hcause e')
    · rfl

/-- **Which error is reported.** Where the lexer fails on a line, its error is what becomes of
the tree and of the line, unless the lexemes before it fail early; then their error is. -/
theorem lexical_error_reported_iff (h : tokens line = .error (.lexical source e))
    (settings : Settings) (user : UserId) (env : Environment) :
    (tree settings line = .error (.lexical source e)
        ↔ ∀ error, ¬ FailsEarly (Lexer.lexemesOf source) settings.maxDepth error)
      ∧ ((run settings line user env).outcome = .error (.lexical source e)
        ↔ ∀ error, ¬ FailsEarly (Lexer.lexemesOf source) settings.maxDepth error)
      ∧ ∀ error, FailsEarly (Lexer.lexemesOf source) settings.maxDepth error →
        tree settings line = .error (.parse source error)
          ∧ (run settings line user env).outcome = .error (.parse source error) := by
  obtain ⟨htree, hnot⟩ | ⟨error, htree, hearly⟩ := tree_of_lexical_error h settings
  · rw [run_of_fault htree, htree]
    exact ⟨by simpa using hnot, by simpa using hnot, fun error hearly => (hnot error hearly).elim⟩
  · rw [run_of_fault htree, htree]
    have hsome : ¬ ∀ error, ¬ FailsEarly (Lexer.lexemesOf source) settings.maxDepth error :=
      fun hnot => hnot error hearly
    refine ⟨by simpa using hsome, by simpa using hsome, fun error' hearly' => ?_⟩
    -- Only one error can be certain.
    obtain rfl : error = error' := by
      have herror := hearly [] none
      rw [hearly' [] none] at herror
      exact (Except.error.inj herror).symm
    exact ⟨rfl, rfl⟩

/-- In `1 + $` the sign that is no token is reported, but in `) 1 2 $` the parenthesis is. -/
theorem lexical_error_reported_sum_not_parenthesis :
    (tokens "1 + $" = .error (.lexical "1 + $" ⟨.unrecognized '$', ⟨4, 5⟩⟩)
        ∧ ∀ error, ¬ FailsEarly (Lexer.lexemesOf "1 + $") 256 error)
      ∧ tokens ") 1 2 $" = .error (.lexical ") 1 2 $" ⟨.unrecognized '$', ⟨6, 7⟩⟩)
        ∧ ∃ error, FailsEarly (Lexer.lexemesOf ") 1 2 $") 256 error := by
  have hsum : tokens "1 + $" = .error (.lexical "1 + $" ⟨.unrecognized '$', ⟨4, 5⟩⟩) := by cbv
  have hparenthesis :
      tokens ") 1 2 $" = .error (.lexical ") 1 2 $" ⟨.unrecognized '$', ⟨6, 7⟩⟩) := by cbv
  refine ⟨⟨hsum, ?_⟩, hparenthesis, ?_⟩
  · refine (lexical_error_reported_iff hsum ⟨28, 256⟩ (.id 1) .empty).1.mp ?_
    cbv
  · by_contra! hnot
    have htree := (lexical_error_reported_iff hparenthesis ⟨28, 256⟩ (.id 1) .empty).1.mpr hnot
    have hparse : tree ⟨28, 256⟩ ") 1 2 $" = .error (.parse ") 1 2 $"
        ⟨.unexpectedToken .rparen [.aNumber, .aVariable, .aFunctionCall, .anOpeningParenthesis],
          ⟨0, 1⟩⟩) := by cbv
    simp [hparse] at htree

/-- In `) 1 2 3 $` the lexer fails, but the parenthesis is reported. -/
theorem parenthesis_reported_before_lexical_error :
    tokens ") 1 2 3 $" = .error (.lexical ") 1 2 3 $" ⟨.unrecognized '$', ⟨8, 9⟩⟩)
      ∧ tree .standard ") 1 2 3 $" = .error (.parse ") 1 2 3 $"
        ⟨.unexpectedToken .rparen [.aNumber, .aVariable, .aFunctionCall, .anOpeningParenthesis],
          ⟨0, 1⟩⟩) := by
  constructor
  · cbv
  · cbv

end Line

end Reckoner
