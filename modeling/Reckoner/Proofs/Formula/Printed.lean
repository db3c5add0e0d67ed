import Reckoner.Formula.Printer
import Reckoner.Proofs.Formula.Expression
import Reckoner.Proofs.Formula.Height
import Reckoner.Proofs.Token.Minus

/-!
Printed trees are read back.

A tree is printed with parentheses around every operation, so each operand is a number, a
name, a call or a group, and operators are never up to their precedence. What follows an
operand is a space, a parenthesis or the end of the text, and none of these goes on with a
number or a name.

* `Formula.operators`: the operators of a tree;
* `Formula.phrase`: what a printed tree is written as, with `layered_phrase`, `bare_phrase`
  and `levels_phrase_lt`;
* `Formula.IsLegible`: trees whose names and decimals are read back;
* `Formula.reading_infixText`: the tokens of a printed tree.
-/

namespace Reckoner

lemma Operator.rank_pos {op : Operator} (h : op.isComparison = false) :
    0 < op.precedence.rank := by
  cases op <;> first | (cases h; done) | decide

lemma Operator.rank_lt (op : Operator) : op.precedence.rank < 4 := by
  cases op <;> decide

namespace Formula

/-- The operators of a tree, from left to right. -/
def operators : Formula → List Operator
  | literal _ _ | var _ _ | empty => []
  | binary op left right _ => left.operators ++ op :: right.operators
  | call _ argument _ => argument.operators
  | assign _ value _ => value.operators

/-! ### The phrase of a printed tree -/

/-- What a printed tree is written as: every operation is in parentheses. Of an assignment it
is what is assigned. -/
def phrase : Formula → Phrase
  | literal value span => .number value span
  | var name span => .named name span
  | binary op left right span => .group span (.operation op span left.phrase right.phrase) span
  | call f argument span => .call f span span argument.phrase span
  | assign _ value _ => value.phrase
  | empty => .named "" .origin

variable {t : Formula}

lemma rank_phrase (t : Formula) : t.phrase.rank = 4 := by
  induction t with
  | assign name value span ih => exact ih
  | _ => rfl

lemma folds_phrase (t : Formula) : t.phrase.folds = 0 := by
  induction t with
  | assign name value span ih => exact ih
  | _ => rfl

/-- Without comparisons, the phrase is layered: its operands bind tighter than any operator. -/
lemma layered_phrase (h : ∀ op ∈ t.operators, op.isComparison = false) : t.phrase.Layered := by
  induction t with
  | literal value span | var name span | empty => trivial
  | call f argument span ih | assign name argument span ih => exact ih h
  | binary op left right span ihl ihr =>
      obtain ⟨hl, hop, hr⟩ : (∀ o ∈ left.operators, o.isComparison = false)
          ∧ op.isComparison = false ∧ ∀ o ∈ right.operators, o.isComparison = false := by
        simpa [operators, or_imp, forall_and] using h
      have hrank := op.rank_lt
      refine ⟨Operator.rank_pos hop, ihl hl, ihr hr, ?_, ?_⟩
      · rw [rank_phrase]
        omega
      · rw [rank_phrase]
        omega

/-- The phrase has the tree that is printed. -/
lemma bare_phrase (h : t.IsExpression) : t.phrase.tree.bare = t.bare := by
  induction t with
  | literal value span | var name span => rfl
  | call f argument span ih =>
      show Formula.call f argument.phrase.tree.bare .origin = _
      rw [ih h]
      rfl
  | binary op left right span ihl ihr =>
      show (combine op left.phrase.tree right.phrase.tree).bare = _
      rw [bare_combine, ihl h.1, ihr h.2]
      rfl
  | assign name value span | empty => exact h.elim

/-- An operation opens two levels for each level of the tree. -/
lemma levels_phrase_lt (t : Formula) : t.phrase.levels < 2 * t.height := by
  induction t with
  | literal value span | var name span | empty => exact Nat.lt_succ_self 1
  | call f argument span ih =>
      simp only [phrase, Phrase.levels, height]
      omega
  | assign name value span ih =>
      simp only [phrase, height]
      omega
  | binary op left right span ihl ihr =>
      simp only [phrase, Phrase.levels, height, folds_phrase]
      omega

/-! ### The tokens of a printed tree -/

/-- A tree whose names and decimals are read back from what they are printed as. -/
structure IsLegible (t : Formula) : Prop where
  names : ∀ name, .ident name ∈ t.leaves → Lexer.IsName name
  decimals : ∀ a, .decimal a ∈ t.leaves → a.IsPositional

lemma IsLegible.mono {u : Formula} (h : t.IsLegible) (hsubset : u.leaves ⊆ t.leaves) :
    u.IsLegible :=
  ⟨fun name hname => h.names name (hsubset hname), fun a ha => h.decimals a (hsubset ha)⟩

/-- What can stand after an operand that is printed: a space, a closing parenthesis, or
nothing. -/
def Closes (rest : List Char) : Prop := ∀ c ∈ rest.head?, c = ' ' ∨ c = ')'

lemma Closes.head {rest : List Char} (h : Closes rest) {p : Char → Bool} (hspace : p ' ' = false)
    (hclosing : p ')' = false) : ∀ c ∈ rest.head?, p c = false := by
  intro c hc
  obtain rfl | rfl := h c hc
  · exact hspace
  · exact hclosing

lemma closes_cons {c : Char} (h : c = ' ' ∨ c = ')') (rest : List Char) : Closes (c :: rest) := by
  rintro _ ⟨⟩
  exact h

open Lexer

variable {rest : List Char}

lemma scan_literal {value : Literal} (h : ∀ a, value = .decimal a → a.IsPositional)
    (hrest : Closes rest) :
    ∃ length, scan (value.text.toList ++ rest) = some ([(value.token, length)], rest) := by
  have hdigit := hrest.head (p := Char.isDigit) (by decide) (by decide)
  cases value with
  | int n =>
      refine scan_integerText n fun c hc => ⟨hdigit c hc, ?_⟩
      obtain rfl | rfl := hrest c hc <;> decide
  | decimal a => exact scan_decimalText (h a rfl) hdigit

/-- **A printed expression is read** as its phrase, whatever closes it. -/
theorem reading_infixText (ht : t.IsExpression) (hlegible : t.IsLegible) (hrest : Closes rest)
    (pos : ℕ) :
    reading (itemsFrom pos (t.infixText.toList ++ rest))
      = (reading (itemsFrom 0 rest)).map (tokensOf t.phrase.lexemes ++ ·) := by
  induction t generalizing rest pos with
  | literal value span =>
      have hdecimal (a : Decimal) (ha : value = .decimal a) : a.IsPositional :=
        hlegible.decimals a (by simp [leaves, ha, Literal.token])
      obtain ⟨length, hscan⟩ := scan_literal hdecimal hrest
      rw [infixText, reading_scanned pos hscan]
      rfl
  | var name span =>
      obtain ⟨hne, hword, hkeyword⟩ := hlegible.names name (by simp [leaves])
      have hscan := scan_word hne (List.all_eq_true.mp hword)
        (hrest.head (p := isWordChar) rfl rfl)
      rw [splitWord_name hne hkeyword, String.ofList_toList] at hscan
      rw [infixText, reading_scanned pos hscan]
      rfl
  | call f argument span ih =>
      have hname : scan (f.name.toList ++ '(' :: (argument.infixText.toList ++ ')' :: rest))
          = some ([(.function f, f.name.length)],
            '(' :: (argument.infixText.toList ++ ')' :: rest)) :=
        scan_functionName f (by rintro _ ⟨⟩; rfl)
      have hopening (cs : List Char) : scan ('(' :: cs) = some ([(.lparen, 1)], cs) := rfl
      have hclosing (cs : List Char) : scan (')' :: cs) = some ([(.rparen, 1)], cs) := rfl
      have htext : (call f argument span).infixText.toList ++ rest
          = f.name.toList ++ '(' :: (argument.infixText.toList ++ ')' :: rest) := by
        simp [infixText]
      rw [htext, reading_scanned pos hname, reading_scanned 0 (hopening _),
        ih ht (hlegible.mono fun _ h => h) (closes_cons (.inr rfl) rest),
        reading_scanned 0 (hclosing rest)]
      simp [phrase, Phrase.lexemes, Function.comp_def]
  | binary op left right span ihl ihr =>
      have hl : left.IsLegible := hlegible.mono (List.subset_append_left _ _)
      have hr : right.IsLegible := hlegible.mono (List.subset_append_right _ _)
      have hopening (cs : List Char) : scan ('(' :: cs) = some ([(.lparen, 1)], cs) := rfl
      have hclosing (cs : List Char) : scan (')' :: cs) = some ([(.rparen, 1)], cs) := rfl
      obtain ⟨length, hsign⟩ := readsBack_sign (t := .operator op) trivial
        (' ' :: (right.infixText.toList ++ ')' :: rest)) (by rintro _ ⟨⟩; rfl)
      have htext : (binary op left right span).infixText.toList ++ rest
          = '(' :: (left.infixText.toList ++ ' ' :: ((Token.operator op).literal.toList
            ++ ' ' :: (right.infixText.toList ++ ')' :: rest))) := by
        simp [infixText, Token.literal]
      rw [htext, reading_scanned pos (hopening _), ihl ht.1 hl (closes_cons (.inl rfl) _),
        reading_blank, reading_scanned 0 hsign, reading_blank,
        ihr ht.2 hr (closes_cons (.inr rfl) rest), reading_scanned 0 (hclosing rest)]
      simp [phrase, Phrase.lexemes, Function.comp_def]
  | assign name value span | empty => exact ht.elim

end Formula

end Reckoner
