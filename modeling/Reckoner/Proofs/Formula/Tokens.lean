import Reckoner.Proofs.Formula.Alike
import Reckoner.Proofs.Formula.Sentences
import Reckoner.Proofs.Token.Junction

/-!
The tree of a text from its tokens.

Of its lexemes, only the tokens decide whether a text has a tree, and which one up to spans.

* `parse_of_reading`: the tree of a text with the tokens of a layered sentence.
-/

namespace Reckoner

variable {src : String} {D : ℕ}

/-- **The tokens decide**: a text with the tokens of a layered sentence that the limit allows
has the tree of the sentence, up to spans. -/
theorem parse_of_reading {s : Sentence} (hs : s.Layered) (hlevels : s.levels ≤ D)
    (h : Lexer.reading (Lexer.items src) = some (tokensOf s.lexemes)) :
    ∃ t, parse src D = .ok t ∧ t.bare = s.tree.bare := by
  rw [Lexer.reading_items] at h
  obtain ⟨ls, hls, htokens⟩ := exists_tokenize h
  obtain ⟨s', rfl, hlayered, hlevels', hbare⟩ := s.exists_of_tokens htokens
  exact ⟨s'.tree, parse_ok_iff.mpr ⟨s', hlayered hs, hlevels' ▸ hlevels, hls, rfl⟩, hbare⟩

end Reckoner
