import Reckoner.Proofs.Formula.Grammar
import Reckoner.Proofs.Token.Items

/-!
Lines as they are written, parentheses included.

A tree forgets the parentheses and so cannot say how deeply a line is nested; a phrase
keeps every lexeme. `Phrase.levels` is the number of levels that reading a phrase opens:
one for the phrase itself, one more for each parenthesis around a part, and at an operator
one for each operator folded before it in the same phrase.

* `Phrase`, `Clause`, `Sentence`: expressions, comparisons and lines as written;
* `lexemes`, `tree`: what they are written with, and their tree;
* `Phrase.Layered`: operators stand where their precedence puts them;
* `Phrase.folds`, `Phrase.levels`: the levels opened;
* `Sentence.derives`, `Derives.writes`: layered sentences are the derivations of the grammar.
-/

namespace Reckoner

/-- An expression as it is written. -/
inductive Phrase where
  | number (value : Literal) (span : Span)
  | standardForm (value : Literal) (span eSpan : Span) (exponent : ℤ) (exponentSpan : Span)
  | multiple (value : Literal) (span : Span) (name : String) (nameSpan : Span)
  | named (name : String) (span : Span)
  | call (f : RealFunction) (span opening : Span) (argument : Phrase) (closing : Span)
  | group (opening : Span) (inner : Phrase) (closing : Span)
  | operation (op : Operator) (span : Span) (left right : Phrase)

namespace Phrase

/-- The lexemes a phrase is written with. -/
def lexemes : Phrase → List Lexeme
  | number value span => [⟨value.token, span⟩]
  | standardForm value span eSpan exponent exponentSpan =>
      [⟨value.token, span⟩, ⟨.ident "e", eSpan⟩, ⟨.int exponent, exponentSpan⟩]
  | multiple value span name nameSpan => [⟨value.token, span⟩, ⟨.ident name, nameSpan⟩]
  | named name span => [⟨.ident name, span⟩]
  | call f span opening argument closing =>
      ⟨.function f, span⟩ :: ⟨.lparen, opening⟩ :: (argument.lexemes ++ [⟨.rparen, closing⟩])
  | group opening inner closing => ⟨.lparen, opening⟩ :: (inner.lexemes ++ [⟨.rparen, closing⟩])
  | operation op span left right => left.lexemes ++ ⟨.operator op, span⟩ :: right.lexemes

/-- The tree of a phrase. -/
def tree : Phrase → Formula
  | number value span => .literal value span
  | standardForm value span eSpan exponent exponentSpan =>
      .combine .mul (.literal value span)
        (.combine .pow (.literal (.int 10) eSpan) (.literal (.int exponent) exponentSpan))
  | multiple value span name nameSpan =>
      .combine .mul (.literal value span) (.var name nameSpan)
  | named name span => .var name span
  | call f span _ argument closing => .call f argument.tree ⟨span.start, closing.stop⟩
  | group _ inner _ => inner.tree
  | operation op _ left right => .combine op left.tree right.tree

/-- How tightly a phrase holds together: as its operator binds, and a phrase without one
tighter than every operator. -/
def rank : Phrase → ℕ
  | operation op _ _ _ => op.precedence.rank
  | _ => 4

/-- Every operator has operands that bind as tightly as its precedence asks for: the left
one no looser than the operator, the right one tighter. -/
def Layered : Phrase → Prop
  | call _ _ _ argument _ => argument.Layered
  | group _ inner _ => inner.Layered
  | operation op _ left right =>
      0 < op.precedence.rank ∧ left.Layered ∧ right.Layered
        ∧ op.precedence.rank ≤ left.rank ∧ op.precedence.rank < right.rank
  | _ => True

/-- The operators folded into the first operand, parentheses apart. -/
def folds : Phrase → ℕ
  | operation _ _ left _ => left.folds + 1
  | _ => 0

/-- The levels of nesting that reading a phrase opens. A right operand is read while the
operators before it are still open. -/
def levels : Phrase → ℕ
  | call _ _ _ argument _ => argument.levels + 1
  | group _ inner _ => inner.levels + 1
  | operation _ _ left right => max left.levels (left.folds + 1 + right.levels)
  | _ => 1

lemma levels_pos (p : Phrase) : 0 < p.levels := by
  induction p with
  | operation op span left right ihl ihr =>
      rw [levels]
      omega
  | _ => simp [levels]

/-- Each fold keeps a level open. -/
lemma folds_lt_levels (p : Phrase) : p.folds < p.levels := by
  cases p with
  | operation op span left right =>
      have h := right.levels_pos
      rw [folds, levels]
      omega
  | _ => simp [folds, levels]

lemma rank_pos {p : Phrase} (h : p.Layered) : 0 < p.rank := by
  cases p with
  | operation op span left right => exact h.1
  | _ => simp [rank]

lemma lexemes_ne_nil (p : Phrase) : p.lexemes ≠ [] := by
  cases p <;> simp [lexemes]

end Phrase

/-- A comparison as it is written, or an expression alone. -/
inductive Clause where
  | expression (phrase : Phrase)
  | comparison (op : Operator) (span : Span) (left right : Phrase)

namespace Clause

/-- The lexemes a clause is written with. -/
def lexemes : Clause → List Lexeme
  | expression phrase => phrase.lexemes
  | comparison op span left right => left.lexemes ++ ⟨.operator op, span⟩ :: right.lexemes

/-- The tree of a clause. -/
def tree : Clause → Formula
  | expression phrase => phrase.tree
  | comparison op _ left right => .combine op left.tree right.tree

/-- The phrases are layered, and the sign between them compares. -/
def Layered : Clause → Prop
  | expression phrase => phrase.Layered
  | comparison op _ left right => op.isComparison = true ∧ left.Layered ∧ right.Layered

/-- The levels of nesting that reading a clause opens. -/
def levels : Clause → ℕ
  | expression phrase => phrase.levels
  | comparison _ _ left right => max left.levels right.levels

end Clause

/-- A line as it is written, with the end of the input. -/
inductive Sentence where
  | blank (ending : Span)
  | statement (clause : Clause) (ending : Span)
  | assignment (name : String) (span sign : Span) (clause : Clause) (ending : Span)

namespace Sentence

/-- The lexemes a line is written with. -/
def lexemes : Sentence → List Lexeme
  | blank ending => [⟨.eof, ending⟩]
  | statement clause ending => clause.lexemes ++ [⟨.eof, ending⟩]
  | assignment name span sign clause ending =>
      ⟨.ident name, span⟩ :: ⟨.assign, sign⟩ :: (clause.lexemes ++ [⟨.eof, ending⟩])

/-- The tree of a line. -/
def tree : Sentence → Formula
  | blank _ => .empty
  | statement clause _ => clause.tree
  | assignment name span _ clause _ =>
      .assign name clause.tree ⟨span.start, clause.tree.span.stop⟩

/-- The clause of the line is layered. -/
def Layered : Sentence → Prop
  | blank _ => True
  | statement clause _ => clause.Layered
  | assignment _ _ _ clause _ => clause.Layered

/-- The levels of nesting that reading a line opens. -/
def levels : Sentence → ℕ
  | blank _ => 0
  | statement clause _ => clause.levels
  | assignment _ _ _ clause _ => clause.levels

end Sentence

/-! ### Layered phrases are the derivations of the grammar -/

/-- The layer of the phrases of a rank. -/
def Nonterminal.ofRank : ℕ → Nonterminal
  | 0 | 1 => .sum
  | 2 => .product
  | 3 => .power
  | _ => .primary

/-- What a layer derives, every looser layer derives. -/
lemma Derives.loosen {m n : ℕ} (hmn : m ≤ n) {ts : List Token} {t : Formula}
    (h : Derives (.ofRank n) ts t) : Derives (.ofRank m) ts t := by
  induction hmn with
  | refl => exact h
  | @step n _ ih =>
      refine ih ?_
      match n with
      | 0 => exact h
      | 1 => exact .sum h
      | 2 => exact .product h
      | 3 => exact .power h
      | n + 4 => exact h

/-- The operators of expressions, by layer. -/
lemma Operator.rank_cases {op : Operator} (h : 0 < op.precedence.rank) :
    (op.precedence.rank = 1 ∧ (op = .add ∨ op = .sub))
      ∨ (op.precedence.rank = 2 ∧ (op = .mul ∨ op = .div))
      ∨ (op.precedence.rank = 3 ∧ op = .pow) := by
  cases op <;> simp [Operator.precedence, Precedence.rank] at h ⊢

/-- **A layered phrase is a derivation** in the layer of its rank. -/
lemma Phrase.derives {p : Phrase} (h : p.Layered) :
    Derives (.ofRank p.rank) (tokensOf p.lexemes) p.tree.bare := by
  induction p with
  | number value span => exact .number value
  | standardForm value span eSpan exponent exponentSpan => exact .standardForm value exponent
  | multiple value span name nameSpan => exact .multiple value name
  | named name span => exact .named name
  | call f span opening argument closing ih =>
      have hsum := Derives.loosen (Nat.succ_le_of_lt (rank_pos (p := argument) h)) (ih h)
      simpa [lexemes, rank, Nonterminal.ofRank, tree, Formula.bare] using Derives.call f hsum
  | group opening inner closing ih =>
      have hsum := Derives.loosen (Nat.succ_le_of_lt (rank_pos (p := inner) h)) (ih h)
      simpa [lexemes, rank, Nonterminal.ofRank, tree] using Derives.group hsum
  | operation op span left right ihl ihr =>
      obtain ⟨hop, hl, hr, hleft, hright⟩ := h
      have hl' := (ihl hl).loosen hleft
      have hr' := (ihr hr).loosen (Nat.succ_le_of_lt hright)
      simp only [lexemes, tokensOf_append, tokensOf_cons, rank, tree, Formula.bare_combine]
      obtain ⟨hk, hop⟩ | ⟨hk, hop⟩ | ⟨hk, rfl⟩ := Operator.rank_cases hop
      · rw [hk] at hl' hr' ⊢
        exact .shift hop hl' hr'
      · rw [hk] at hl' hr' ⊢
        exact .scale hop hl' hr'
      · exact .raise hl' hr'

lemma Clause.derives {c : Clause} (h : c.Layered) :
    Derives .comparison (tokensOf c.lexemes) c.tree.bare := by
  cases c with
  | expression p => exact .comparison (p.derives h |>.loosen (Nat.zero_le _))
  | comparison op span left right =>
      simp only [lexemes, tokensOf_append, tokensOf_cons, tree, Formula.bare_combine]
      exact .compare h.1 (left.derives h.2.1 |>.loosen (Nat.zero_le _))
        (right.derives h.2.2 |>.loosen (Nat.zero_le _))

/-- **A layered sentence is a derivation** of a line. -/
lemma Sentence.derives {s : Sentence} (h : s.Layered) :
    Derives .line (tokensOf s.lexemes) s.tree.bare := by
  cases s with
  | blank ending => exact .blank
  | statement c ending => simpa [lexemes, tree] using Derives.statement (c.derives h)
  | assignment name span sign c ending =>
      simpa [lexemes, tree, Formula.bare] using Derives.assignment name (c.derives h)

/-- Lexemes are written as a layer asks, and have the bare tree `t`. -/
def Nonterminal.Writes : Nonterminal → List Lexeme → Formula → Prop
  | primary, ls, t => ∃ p : Phrase, p.Layered ∧ 4 ≤ p.rank ∧ p.lexemes = ls ∧ p.tree.bare = t
  | power, ls, t => ∃ p : Phrase, p.Layered ∧ 3 ≤ p.rank ∧ p.lexemes = ls ∧ p.tree.bare = t
  | product, ls, t => ∃ p : Phrase, p.Layered ∧ 2 ≤ p.rank ∧ p.lexemes = ls ∧ p.tree.bare = t
  | sum, ls, t => ∃ p : Phrase, p.Layered ∧ 1 ≤ p.rank ∧ p.lexemes = ls ∧ p.tree.bare = t
  | comparison, ls, t => ∃ c : Clause, c.Layered ∧ c.lexemes = ls ∧ c.tree.bare = t
  | line, ls, t => ∃ s : Sentence, s.Layered ∧ s.lexemes = ls ∧ s.tree.bare = t

/-- An operation is written where its operands are. -/
lemma Phrase.exists_operation {op : Operator} {m n : ℕ} {ts us : List Token} {t u : Formula}
    (hop : op.precedence.rank = m) (hm : 0 < m) (hmn : m < n)
    (hl : ∀ ls, tokensOf ls = ts →
      ∃ p : Phrase, p.Layered ∧ m ≤ p.rank ∧ p.lexemes = ls ∧ p.tree.bare = t)
    (hr : ∀ ls, tokensOf ls = us →
      ∃ p : Phrase, p.Layered ∧ n ≤ p.rank ∧ p.lexemes = ls ∧ p.tree.bare = u)
    {ls : List Lexeme} (h : tokensOf ls = ts ++ .operator op :: us) :
    ∃ p : Phrase, p.Layered ∧ m ≤ p.rank ∧ p.lexemes = ls
      ∧ p.tree.bare = .binary op t u .origin := by
  simp only [tokensOf_eq_append, tokensOf_eq_cons] at h
  obtain ⟨ms, _, rfl, hms, span, ns, rfl, hns⟩ := h
  obtain ⟨left, hleft, hlr, rfl, rfl⟩ := hl ms hms
  obtain ⟨right, hright, hrr, rfl, rfl⟩ := hr ns hns
  refine ⟨.operation op span left right, ?_, Nat.le_of_eq hop.symm, rfl, rfl⟩
  exact ⟨by omega, hleft, hright, by omega, by omega⟩

/-- **A derivation is a layered sentence**: lexemes with derived tokens are written with
one, and it has the tree that the derivation gives. -/
lemma Derives.writes {s : Nonterminal} {ts : List Token} {t : Formula} (h : Derives s ts t) :
    ∀ ls, tokensOf ls = ts → s.Writes ls t := by
  induction h with
  | number value =>
      simp only [tokensOf_eq_cons, tokensOf_eq_nil]
      rintro ls ⟨span, _, rfl, rfl⟩
      exact ⟨.number value span, trivial, Nat.le_refl 4, rfl, rfl⟩
  | standardForm value exponent =>
      simp only [tokensOf_eq_cons, tokensOf_eq_nil]
      rintro ls ⟨span, _, rfl, eSpan, _, rfl, exponentSpan, _, rfl, rfl⟩
      exact ⟨.standardForm value span eSpan exponent exponentSpan, trivial, Nat.le_refl 4, rfl, rfl⟩
  | multiple value name =>
      simp only [tokensOf_eq_cons, tokensOf_eq_nil]
      rintro ls ⟨span, _, rfl, nameSpan, _, rfl, rfl⟩
      exact ⟨.multiple value span name nameSpan, trivial, Nat.le_refl 4, rfl, rfl⟩
  | named name =>
      simp only [tokensOf_eq_cons, tokensOf_eq_nil]
      rintro ls ⟨span, _, rfl, rfl⟩
      exact ⟨.named name span, trivial, Nat.le_refl 4, rfl, rfl⟩
  | call f _ ih =>
      simp only [tokensOf_eq_cons, tokensOf_eq_append, tokensOf_eq_nil]
      rintro ls ⟨span, _, rfl, opening, _, rfl, ms, _, rfl, hms, closing, _, rfl, rfl⟩
      obtain ⟨p, hp, -, rfl, rfl⟩ := ih ms hms
      exact ⟨.call f span opening p closing, hp, Nat.le_refl 4, rfl, rfl⟩
  | group _ ih =>
      simp only [tokensOf_eq_cons, tokensOf_eq_append, tokensOf_eq_nil]
      rintro ls ⟨opening, _, rfl, ms, _, rfl, hms, closing, _, rfl, rfl⟩
      obtain ⟨p, hp, -, rfl, rfl⟩ := ih ms hms
      exact ⟨.group opening p closing, hp, Nat.le_refl 4, rfl, rfl⟩
  | power _ ih | product _ ih | sum _ ih =>
      intro ls h
      obtain ⟨p, hp, hr, rfl, rfl⟩ := ih ls h
      exact ⟨p, hp, by omega, rfl, rfl⟩
  | raise _ _ ihl ihr =>
      exact fun ls => Phrase.exists_operation rfl (by decide) (by decide) ihl ihr
  | scale hop _ _ ihl ihr =>
      obtain rfl | rfl := hop <;>
        exact fun ls => Phrase.exists_operation rfl (by decide) (by decide) ihl ihr
  | shift hop _ _ ihl ihr =>
      obtain rfl | rfl := hop <;>
        exact fun ls => Phrase.exists_operation rfl (by decide) (by decide) ihl ihr
  | comparison _ ih =>
      intro ls h
      obtain ⟨p, hp, -, rfl, rfl⟩ := ih ls h
      exact ⟨.expression p, hp, rfl, rfl⟩
  | compare hop _ _ ihl ihr =>
      simp only [tokensOf_eq_cons, tokensOf_eq_append]
      rintro ls ⟨ms, _, rfl, hms, span, ns, rfl, hns⟩
      obtain ⟨left, hleft, -, rfl, rfl⟩ := ihl ms hms
      obtain ⟨right, hright, -, rfl, rfl⟩ := ihr ns hns
      exact ⟨.comparison _ span left right, ⟨hop, hleft, hright⟩, rfl, rfl⟩
  | blank =>
      simp only [tokensOf_eq_cons, tokensOf_eq_nil]
      rintro ls ⟨ending, _, rfl, rfl⟩
      exact ⟨.blank ending, trivial, rfl, rfl⟩
  | statement _ ih =>
      simp only [tokensOf_eq_cons, tokensOf_eq_append, tokensOf_eq_nil]
      rintro ls ⟨ms, _, rfl, hms, ending, _, rfl, rfl⟩
      obtain ⟨c, hc, rfl, rfl⟩ := ih ms hms
      exact ⟨.statement c ending, hc, rfl, rfl⟩
  | assignment name _ ih =>
      simp only [tokensOf_eq_cons, tokensOf_eq_append, tokensOf_eq_nil]
      rintro ls ⟨span, _, rfl, sign, _, rfl, ms, _, rfl, hms, ending, _, rfl, rfl⟩
      obtain ⟨c, hc, rfl, rfl⟩ := ih ms hms
      exact ⟨.assignment name span sign c ending, hc, rfl, rfl⟩

end Reckoner
