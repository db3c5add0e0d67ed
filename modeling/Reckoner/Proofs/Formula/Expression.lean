import Reckoner.Proofs.Formula.Sentences

/-!
The trees that lines have.

Only the root of a tree can be an assignment or the empty line, and below it stands an
expression. The numbers and names of a tree are those that its line was written with.

* `Formula.IsExpression`: trees without assignments;
* `Formula.leaves`: the numbers and names of a tree, as tokens;
* `Formula.OfLine`, `ofLine_of_parse`: what a tree can look like;
* `mem_tokens_of_parse`: where its numbers and names come from.
-/

namespace Reckoner

/-- Trees that are built from numbers and names by operators and functions. -/
def Formula.IsExpression : Formula → Prop
  | literal _ _ | var _ _ => True
  | binary _ left right _ => left.IsExpression ∧ right.IsExpression
  | call _ argument _ => argument.IsExpression
  | assign _ _ _ | empty => False

/-- The numbers and names of a tree, from left to right. -/
def Formula.leaves : Formula → List Token
  | literal value _ => [value.token]
  | var name _ => [.ident name]
  | binary _ left right _ => left.leaves ++ right.leaves
  | call _ argument _ => argument.leaves
  | assign name value _ => .ident name :: value.leaves
  | empty => []

/-- What the tree of a line can look like. -/
inductive Formula.OfLine : Formula → Prop
  | empty : OfLine .empty
  | expression {t : Formula} (h : t.IsExpression) : OfLine t
  | assign (name : String) {value : Formula} (h : value.IsExpression) (span : Span) :
      OfLine (.assign name value span)

/-! ### Expressions -/

lemma Phrase.isExpression_tree (p : Phrase) : p.tree.IsExpression := by
  induction p with
  | number value span | named name span => trivial
  | standardForm value span eSpan exponent exponentSpan => exact ⟨trivial, trivial, trivial⟩
  | multiple value span name nameSpan => exact ⟨trivial, trivial⟩
  | call f span opening argument closing ih | group opening argument closing ih => exact ih
  | operation op span left right ihl ihr => exact ⟨ihl, ihr⟩

lemma Clause.isExpression_tree (c : Clause) : c.tree.IsExpression := by
  cases c with
  | expression p => exact p.isExpression_tree
  | comparison op span left right => exact ⟨left.isExpression_tree, right.isExpression_tree⟩

/-- The base of standard form is the only number of a tree that need not be written. -/
lemma Phrase.mem_of_mem_leaves {p : Phrase} {token : Token} (h : token ∈ p.tree.leaves) :
    token ∈ tokensOf p.lexemes ∨ token = .int 10 := by
  induction p with
  | number value span | multiple value span name nameSpan | named name span => exact .inl h
  | standardForm value span eSpan exponent exponentSpan =>
      obtain rfl | rfl | rfl : token = value.token ∨ token = .int 10 ∨ token = .int exponent := by
        simpa [tree, Formula.leaves, Formula.combine, Literal.token] using h
      · exact .inl List.mem_cons_self
      · exact .inr rfl
      · exact .inl (by simp [lexemes])
  | call f span opening argument closing ih | group opening argument closing ih =>
      refine (ih h).imp_left fun hmem => ?_
      simp [lexemes, hmem]
  | operation op span left right ihl ihr =>
      obtain h | h := List.mem_append.mp h
      · refine (ihl h).imp_left fun hmem => ?_
        simp [lexemes, hmem]
      · refine (ihr h).imp_left fun hmem => ?_
        simp [lexemes, hmem]

lemma Clause.mem_of_mem_leaves {c : Clause} {token : Token} (h : token ∈ c.tree.leaves) :
    token ∈ tokensOf c.lexemes ∨ token = .int 10 := by
  cases c with
  | expression p => exact Phrase.mem_of_mem_leaves h
  | comparison op span left right =>
      obtain h | h := List.mem_append.mp h
      · refine (Phrase.mem_of_mem_leaves h).imp_left fun hmem => ?_
        simp [lexemes, hmem]
      · refine (Phrase.mem_of_mem_leaves h).imp_left fun hmem => ?_
        simp [lexemes, hmem]

/-! ### Lines -/

lemma Sentence.ofLine_tree (s : Sentence) : s.tree.OfLine := by
  cases s with
  | blank ending => exact .empty
  | statement c ending => exact .expression c.isExpression_tree
  | assignment name span sign c ending => exact .assign name c.isExpression_tree _

lemma Sentence.mem_of_mem_leaves {s : Sentence} {token : Token} (h : token ∈ s.tree.leaves) :
    token ∈ tokensOf s.lexemes ∨ token = .int 10 := by
  cases s with
  | blank ending => simp [tree, Formula.leaves] at h
  | statement c ending =>
      refine (Clause.mem_of_mem_leaves h).imp_left fun hmem => ?_
      simp [lexemes, hmem]
  | assignment name span sign c ending =>
      obtain rfl | h := List.mem_cons.mp h
      · exact .inl List.mem_cons_self
      · refine (Clause.mem_of_mem_leaves h).imp_left fun hmem => ?_
        simp [lexemes, hmem]

variable {src : String} {D : ℕ} {t : Formula}

/-- **The trees of lines**: nothing, an expression, or an expression that a name is given. -/
theorem ofLine_of_parse (h : parse src D = .ok t) : t.OfLine := by
  obtain ⟨s, -, -, -, rfl⟩ := parse_ok_iff.mp h
  exact s.ofLine_tree

/-- The numbers and names of a tree are tokens of its line. -/
theorem mem_tokens_of_parse (h : parse src D = .ok t) :
    ∃ ls, tokenize src = .ok ls
      ∧ ∀ token ∈ t.leaves, token ∈ tokensOf ls ∨ token = .int 10 := by
  obtain ⟨s, -, -, htokens, rfl⟩ := parse_ok_iff.mp h
  exact ⟨s.lexemes, htokens, fun _ => Sentence.mem_of_mem_leaves⟩

end Reckoner
