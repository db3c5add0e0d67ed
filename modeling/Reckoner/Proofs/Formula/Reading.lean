import Reckoner.Proofs.Formula.Phrase
import Reckoner.Proofs.Formula.Stream

/-!
What the parser reads of an expression.

A success of the parser has taken the lexemes of a layered phrase, in no more levels than
were free, and stopped where no operator goes on with the phrase.

* `Parser.operand_on_number`, `Parser.chain_on_operator` and their kin: one step of the
  parser;
* `Phrase.Read`: what has been read, and what is left;
* `Parser.operand_reads`, `Parser.chain_reads`: operands and the operators after them;
* `Parser.subexpression_reads`: expressions.
-/

namespace Reckoner

/-- Whether an operand can start with a token. -/
def Token.startsOperand : Token → Bool
  | int _ | decimal _ | ident _ | function _ | lparen => true
  | operator _ | assign | rparen | eof => false

lemma Precedence.rank_le (p : Precedence) : p.rank ≤ 3 := by
  cases p <;> simp [rank]

lemma Precedence.below_iff {p q : Precedence} : p.below q = true ↔ p.rank < q.rank := by
  simp [below]

/-- No operator that binds more tightly than rank `n` stands first. -/
def Loose (n : ℕ) (ls : List Lexeme) : Prop := ∀ l ∈ ls.head?, l.token.precedence.rank ≤ n

/-- The lexemes `ls` start with the phrase `p`, and `ms` are left. The phrase is layered,
holds together at least as tightly as `rank`, and opens at most `levels` levels. -/
structure Phrase.Read (p : Phrase) (rank levels : ℕ) (ls ms : List Lexeme) : Prop where
  layered : p.Layered
  rank_le : rank ≤ p.rank
  levels_le : p.levels ≤ levels
  lexemes_eq : ls = p.lexemes ++ ms

namespace Parser

open Step Parse

variable {cut : Option LexicalError} {D d : ℕ} {ls : List Lexeme}

/-! ### One step of the parser -/

/-- An expression of operators that bind more tightly than `bound`, in `free` levels. -/
def subexpression (free : ℕ) (bound : Precedence) : Parse Formula :=
  match free with
  | 0 => tooDeep
  | free + 1 => nested (operand free) (chain free bound)

/-- An expression is read in the levels that are free. -/
lemma expression_eq (bound : Precedence) :
    expression bound = get >>= fun p => subexpression p.freeLevels bound := rfl

/-- A subexpression is read in a level of its own. -/
lemma subexpression_succ_on (free : ℕ) (bound : Precedence) (ls : List Lexeme) :
    on (subexpression (free + 1) bound) (facing ls cut D d)
      = on (operand free >>= chain free bound 1) (facing ls cut D (d + 1)) := rfl

lemma operand_on_number (free : ℕ) (value : Literal) (span : Span) (ls : List Lexeme) :
    on (operand free) (facing (⟨value.token, span⟩ :: ls) cut D d)
      = on (number value span) (facing ls cut D d) := by
  rw [operand]
  cases value <;>
    simp only [on_get_bind, facing_current, List.head?_cons, Literal.token, on_skip_bind,
      shifted_facing]

lemma operand_on_name (free : ℕ) (name : String) (span : Span) (ls : List Lexeme) :
    on (operand free) (facing (⟨.ident name, span⟩ :: ls) cut D d)
      = (.ok (.var name span), facing ls cut D d) := by
  rw [operand]
  simp only [on_get_bind, facing_current, List.head?_cons, on_skip_bind, shifted_facing, on_pure]

lemma operand_on_function (free : ℕ) (f : RealFunction) (span : Span) (ls : List Lexeme) :
    on (operand free) (facing (⟨.function f, span⟩ :: ls) cut D d)
      = on (do
          let _ ← expect .lparen
          let argument ← subexpression free .lowest
          let close ← expect .rparen
          return .call f argument ⟨span.start, close.stop⟩) (facing ls cut D d) := by
  rw [operand]
  simp only [on_get_bind, facing_current, List.head?_cons, on_skip_bind, shifted_facing,
    discard_bind]
  cases free <;> rfl

lemma operand_on_lparen (free : ℕ) (span : Span) (ls : List Lexeme) :
    on (operand free) (facing (⟨.lparen, span⟩ :: ls) cut D d)
      = on (do
          let inner ← subexpression free .lowest
          let _ ← expect .rparen
          return inner) (facing ls cut D d) := by
  rw [operand]
  simp only [on_get_bind, facing_current, List.head?_cons, on_skip_bind, shifted_facing,
    discard_bind]
  cases free <;> rfl

lemma chain_on_operator (free levels : ℕ) {bound : Precedence} (left : Formula) {op : Operator}
    (span : Span) (ls : List Lexeme) (h : bound.below op.precedence = true) :
    on (chain free bound levels left) (facing (⟨.operator op, span⟩ :: ls) cut D d)
      = on (do
          let right ← subexpression free op.precedence
          openLevel
          chain (free - 1) bound (levels + 1) (.combine op left right)) (facing ls cut D d) := by
  rw [chain]
  simp only [on_get_bind, facing_current, List.head?_cons, h, if_true, on_skip_bind,
    shifted_facing]
  cases free <;> rfl

/-- The operators end where none of them binds tightly enough. There the levels are closed. -/
lemma chain_on_loose (free levels : ℕ) {bound : Precedence} (left : Formula)
    (h : Loose bound.rank ls) :
    on (chain free bound levels left) (facing ls cut D d)
      = (.ok left, facing ls cut D (d - levels)) := by
  rw [chain]
  simp only [on_get_bind, facing_current]
  split
  · next op span hl =>
    have hop : op.precedence.rank ≤ bound.rank := h _ hl
    rw [if_neg (by rw [Precedence.below_iff]; omega)]
    rfl
  · rfl

lemma loose_of_le {n : ℕ} (h : 3 ≤ n) : Loose n ls :=
  fun l _ => l.token.precedence.rank_le.trans h

/-- Otherwise an operator that binds more tightly stands first. -/
lemma exists_operator_of_not_loose {n : ℕ} (h : ¬ Loose n ls) :
    ∃ op span ms, ls = ⟨.operator op, span⟩ :: ms ∧ n < op.precedence.rank := by
  simp only [Loose, not_forall, not_le] at h
  obtain ⟨⟨token, span⟩, hl, hn⟩ := h
  obtain ⟨ms, rfl⟩ := List.head?_eq_some_iff.mp hl
  cases token with
  | operator op => exact ⟨op, span, ms, rfl, hn⟩
  | _ => simp [Token.precedence, Precedence.rank] at hn

/-! ### What a successful step has read -/

/-- A subexpression that is read in `free` levels is a phrase of no more levels. -/
def ReadsPhrases (cut : Option LexicalError) (D free : ℕ) : Prop :=
  ∀ (bound : Precedence) (ls : List Lexeme) (d : ℕ) (t : Formula) (q : Parser),
    on (subexpression free bound) (facing ls cut D d) = (.ok t, q) →
      ∃ (p : Phrase) (ms : List Lexeme), p.Read (bound.rank + 1) free ls ms ∧ p.tree = t
        ∧ q = facing ms cut D d ∧ Loose bound.rank ms

/-- What a number is followed by belongs to its phrase. -/
lemma number_reads (value : Literal) (span : Span) (levels : ℕ) {t : Formula} {q : Parser}
    (h : on (number value span) (facing ls cut D d) = (.ok t, q)) :
    ∃ (p : Phrase) (ms : List Lexeme), p.Read 4 (levels + 1) (⟨value.token, span⟩ :: ls) ms
      ∧ p.folds = 0 ∧ p.tree = t ∧ q = facing ms cut D d := by
  have hlevels : 1 ≤ levels + 1 := by omega
  by_cases hname : NoName ls
  · rw [number_on_alone value span hname] at h
    cases h
    exact ⟨.number value span, ls, ⟨trivial, le_rfl, hlevels, rfl⟩, rfl, rfl, rfl⟩
  · simp only [NoName, not_forall, not_not] at hname
    obtain ⟨⟨_, nameSpan⟩, hl, name, rfl⟩ := hname
    obtain ⟨ms, rfl⟩ := List.head?_eq_some_iff.mp hl
    by_cases hs : name ≠ "e" ∨ NoInteger ms
    · rw [number_on_multiple value span nameSpan hs] at h
      cases h
      exact ⟨.multiple value span name nameSpan, ms, ⟨trivial, le_rfl, hlevels, rfl⟩,
        rfl, rfl, rfl⟩
    · simp only [NoInteger, not_or, not_forall, not_not] at hs
      obtain ⟨rfl, ⟨_, exponentSpan⟩, hl', exponent, rfl⟩ := hs
      obtain ⟨ns, rfl⟩ := List.head?_eq_some_iff.mp hl'
      rw [number_on_standardForm] at h
      cases h
      exact ⟨.standardForm value span nameSpan exponent exponentSpan, ns,
        ⟨trivial, le_rfl, hlevels, rfl⟩, rfl, rfl, rfl⟩

/-- No operand starts with another token than a number, a name, a function or an opening
parenthesis. -/
lemma operand_on_other (free : ℕ) (h : ∀ l ∈ ls.head?, l.token.startsOperand = false) :
    on (operand free) (facing ls cut D d)
      = on (failWanting [.aNumber, .aVariable, .aFunctionCall, .anOpeningParenthesis])
          (facing ls cut D d) := by
  rw [operand]
  simp only [on_get_bind, facing_current]
  split
  · next hl => exact absurd (h _ hl) (by simp [Token.startsOperand])
  · next hl => exact absurd (h _ hl) (by simp [Token.startsOperand])
  · next hl => exact absurd (h _ hl) (by simp [Token.startsOperand])
  · next hl => exact absurd (h _ hl) (by simp [Token.startsOperand])
  · next hl => exact absurd (h _ hl) (by simp [Token.startsOperand])
  · rfl

lemma startsOperand_of_operand_ok {free : ℕ} {t : Formula} {q : Parser}
    (h : on (operand free) (facing ls cut D d) = (.ok t, q)) :
    ∃ l ms, ls = l :: ms ∧ l.token.startsOperand = true := by
  by_cases hstart : ∀ l ∈ ls.head?, l.token.startsOperand = false
  · obtain ⟨e, he⟩ := failWanting_on (α := Formula)
      [.aNumber, .aVariable, .aFunctionCall, .anOpeningParenthesis] (facing ls cut D d)
    simp [operand_on_other free hstart, he] at h
  · simp only [not_forall, Bool.not_eq_false] at hstart
    obtain ⟨l, hl, hs⟩ := hstart
    obtain ⟨ms, rfl⟩ := List.head?_eq_some_iff.mp hl
    exact ⟨l, ms, rfl, hs⟩

/-- **An operand is a phrase without operators around it.** -/
lemma operand_reads {free : ℕ} (hsub : ReadsPhrases cut D free) {t : Formula} {q : Parser}
    (h : on (operand free) (facing ls cut D d) = (.ok t, q)) :
    ∃ (p : Phrase) (ms : List Lexeme), p.Read 4 (free + 1) ls ms ∧ p.folds = 0 ∧ p.tree = t
      ∧ q = facing ms cut D d := by
  obtain ⟨⟨token, span⟩, ls, rfl, hstart⟩ := startsOperand_of_operand_ok h
  cases token with
  | int value => exact number_reads (.int value) span free (operand_on_number free _ _ ls ▸ h)
  | decimal value =>
      exact number_reads (.decimal value) span free (operand_on_number free _ _ ls ▸ h)
  | ident name =>
      rw [operand_on_name] at h
      cases h
      exact ⟨.named name span, ls, ⟨trivial, le_rfl, by simp [Phrase.levels], rfl⟩, rfl, rfl, rfl⟩
  | function f =>
      rw [operand_on_function] at h
      simp only [on_bind_ok, on_pure, expect_on_iff (t := .lparen) (by simp)] at h
      obtain ⟨opening, _, ⟨ms, rfl, rfl⟩, a, _, ha, closing, r, hclose, hend⟩ := h
      obtain ⟨p, ms, hp, rfl, rfl, -⟩ := hsub _ _ _ _ _ ha
      obtain ⟨ns, rfl, rfl⟩ := (expect_on_iff (by simp)).mp hclose
      cases hend
      refine ⟨.call f span opening p closing, ns,
        ⟨hp.layered, le_rfl, Nat.succ_le_succ hp.levels_le, ?_⟩, rfl, rfl, rfl⟩
      simp [Phrase.lexemes, hp.lexemes_eq]
  | lparen =>
      rw [operand_on_lparen] at h
      simp only [on_bind_ok, on_pure] at h
      obtain ⟨a, _, ha, closing, r, hclose, hend⟩ := h
      obtain ⟨p, ms, hp, rfl, rfl, -⟩ := hsub _ _ _ _ _ ha
      obtain ⟨ns, rfl, rfl⟩ := (expect_on_iff (by simp)).mp hclose
      cases hend
      refine ⟨.group span p closing, ns,
        ⟨hp.layered, le_rfl, Nat.succ_le_succ hp.levels_le, ?_⟩, rfl, rfl, rfl⟩
      simp [Phrase.lexemes, hp.lexemes_eq]
  | _ => simp [Token.startsOperand] at hstart

/-- **Operators are folded into layered phrases.** The phrase read so far, `left`, binds at
least as tightly as the operator that may follow it. Each fold opens a level, and in the end it is
closed with the levels that were open before. -/
lemma chain_reads {free levels : ℕ} (hsub : ∀ g ≤ free, ReadsPhrases cut D g) {bound : Precedence}
    (left : Phrase) (hl : left.Layered) (hb : bound.rank < left.rank)
    (hloose : Loose left.rank ls) (hn : left.levels ≤ free + 1 + left.folds)
    {t : Formula} {q : Parser}
    (h : on (chain free bound levels left.tree) (facing ls cut D d) = (.ok t, q)) :
    ∃ (p : Phrase) (ms : List Lexeme),
      p.Read (bound.rank + 1) (free + 1 + left.folds) (left.lexemes ++ ls) ms ∧ p.tree = t
        ∧ q = facing ms cut D (d - levels) ∧ Loose bound.rank ms := by
  induction free generalizing left levels ls d with
  | zero =>
      by_cases hstop : Loose bound.rank ls
      · rw [chain_on_loose _ _ _ hstop] at h
        cases h
        exact ⟨left, ls, ⟨hl, hb, hn, rfl⟩, rfl, rfl, hstop⟩
      · obtain ⟨op, span, ms, rfl, hop⟩ := exists_operator_of_not_loose hstop
        rw [chain_on_operator _ _ _ _ _ (Precedence.below_iff.mpr hop), on_bind_ok] at h
        obtain ⟨a, q', h, -⟩ := h
        simp [subexpression, on_tooDeep] at h
  | succ free ih =>
      by_cases hstop : Loose bound.rank ls
      · rw [chain_on_loose _ _ _ hstop] at h
        cases h
        exact ⟨left, ls, ⟨hl, hb, hn, rfl⟩, rfl, rfl, hstop⟩
      · obtain ⟨op, span, ms, rfl, hop⟩ := exists_operator_of_not_loose hstop
        rw [chain_on_operator _ _ _ _ _ (Precedence.below_iff.mpr hop), on_bind_ok] at h
        obtain ⟨a, q', hright, h⟩ := h
        obtain ⟨right, ns, hr, rfl, rfl, hloose'⟩ := hsub _ le_rfl _ _ _ _ _ hright
        have hle : op.precedence.rank ≤ left.rank := hloose _ rfl
        obtain ⟨p, ks, hp, rfl, rfl, hks⟩ := ih (fun g hg => hsub g (Nat.le_succ_of_le hg))
          (.operation op span left right)
          ⟨by omega, hl, hr.layered, hle, hr.rank_le⟩ hop hloose'
          (by have := hr.levels_le; simp only [Phrase.levels, Phrase.folds]; omega) h
        have hclosed : d + 1 - (levels + 1) = d - levels := Nat.add_sub_add_right d 1 levels
        refine ⟨p, ks, ⟨hp.layered, hp.rank_le, ?_, ?_⟩, rfl, congrArg (facing ks cut D) hclosed,
          hks⟩
        · have := hp.levels_le
          simp only [Phrase.folds] at this
          omega
        · rw [← hp.lexemes_eq, hr.lexemes_eq]
          simp [Phrase.lexemes]

/-- **An expression is a phrase**, and leaves the levels as it finds them. -/
theorem subexpression_reads (cut : Option LexicalError) (D free : ℕ) :
    ReadsPhrases cut D free := by
  induction free using Nat.strong_induction_on with
  | _ free ih =>
    intro bound ls d t q h
    cases free with
    | zero => simp [subexpression, on_tooDeep] at h
    | succ free =>
        have hfree : ∀ g ≤ free, ReadsPhrases cut D g := fun g hg => ih g (by omega)
        obtain ⟨a, q, hfirst, hmore⟩ := on_bind_ok.mp (subexpression_succ_on free bound ls ▸ h)
        obtain ⟨first, ms, hf, hfolds, rfl, rfl⟩ := operand_reads (hfree free le_rfl) hfirst
        obtain ⟨p, ns, hp, rfl, rfl, hns⟩ := chain_reads hfree first hf.layered
          (lt_of_le_of_lt bound.rank_le hf.rank_le) (loose_of_le (Nat.le_of_succ_le hf.rank_le))
          (by rw [hfolds]; exact hf.levels_le) hmore
        refine ⟨p, ns, ⟨hp.layered, hp.rank_le, ?_, ?_⟩, rfl, rfl, hns⟩
        · simpa [hfolds] using hp.levels_le
        · rw [hf.lexemes_eq, hp.lexemes_eq]

end Parser

end Reckoner
