import Reckoner.Formula.Printer
import Reckoner.Proofs.Formula.Expression
import Reckoner.Proofs.Token.Distinct

/-!
Trees with each operator after its operands.

No parentheses are needed: the tokens are read back from left to right with a stack of trees, from
which each operator, function and sign of an assignment takes as many operands as it has. The text
in turn tells the tokens apart, since none of them has a space in it.

* `Formula.postfixTokens`, `Formula.toList_postfixText`: the tokens that a tree is written with;
* `Token.push?`, `Formula.ofPostfix?`: how tokens are read back;
* `Formula.ofPostfix?_postfixTokens`: that they are;
* `Formula.postfixText_inj`: the trees of lines are told apart by their texts.
-/

namespace Reckoner

open Lexer

/-! ### The tokens of a tree -/

namespace Formula

/-- The tokens a tree is written with when each operator stands after its operands. -/
def postfixTokens : Formula → List Token
  | literal value _ => [value.token]
  | var name _ => [.ident name]
  | binary op left right _ => left.postfixTokens ++ (right.postfixTokens ++ [.operator op])
  | call f argument _ => argument.postfixTokens ++ [.function f]
  | assign name value _ => .ident name :: (value.postfixTokens ++ [.assign])
  | empty => []

variable {t u : Formula}

lemma postfixTokens_ne_nil (h : t.IsExpression) : t.postfixTokens ≠ [] := by
  cases t with
  | literal | var | binary | call => simp [postfixTokens]
  | assign | empty => exact h.elim

/-- **The text of a tree** is its tokens with spaces between them. -/
lemma toList_postfixText (h : t.IsExpression) : t.postfixText.toList = spaced t.postfixTokens := by
  induction t with
  | literal value span => cases value <;> rfl
  | var name span => rfl
  | binary op left right span ihl ihr =>
      have hright := postfixTokens_ne_nil h.2
      rw [postfixTokens, spaced_append (postfixTokens_ne_nil h.1) (by simp),
        spaced_append hright (by simp), ← ihl h.1, ← ihr h.2]
      simp [postfixText, spaced, Token.literal]
  | call f argument span ih =>
      rw [postfixTokens, spaced_append (postfixTokens_ne_nil (t := argument) h) (by simp), ← ih h]
      simp [postfixText, spaced, Token.literal]
  | assign name value span | empty => exact h.elim

lemma toList_postfixText_ofLine (h : t.OfLine) :
    t.postfixText.toList = spaced t.postfixTokens := by
  cases h with
  | empty => rfl
  | expression h => exact toList_postfixText h
  | @assign name value h span =>
      have hvalue := postfixTokens_ne_nil h
      rw [postfixTokens, ← List.singleton_append, spaced_append (by simp) (by simp),
        spaced_append hvalue (by simp), ← toList_postfixText h]
      simp [postfixText, spaced, Token.literal]

end Formula

/-! ### Reading tokens back -/

/-- What a token does with the trees on a stack: numbers and names are put on it, and anything else
takes its operands from it. -/
def Token.push? : List Formula → Token → Option (List Formula)
  | stack, .int n => some (.literal (.int n) .origin :: stack)
  | stack, .decimal a => some (.literal (.decimal a) .origin :: stack)
  | stack, .ident name => some (.var name .origin :: stack)
  | right :: left :: stack, .operator op => some (.binary op left right .origin :: stack)
  | argument :: stack, .function f => some (.call f argument .origin :: stack)
  | value :: .var name _ :: stack, .assign => some (.assign name value .origin :: stack)
  | _, _ => none

namespace Formula

variable {t u : Formula}

/-- The tree that tokens are written for. -/
def ofPostfix? (ts : List Token) : Option Formula :=
  match ts.foldlM Token.push? [] with
  | some [] => some empty
  | some [t] => some t
  | _ => none

/-- The tokens of an expression put its tree on the stack. -/
lemma foldlM_postfixTokens (h : t.IsExpression) (stack : List Formula) :
    t.postfixTokens.foldlM Token.push? stack = some (t.bare :: stack) := by
  induction t generalizing stack with
  | literal value span => cases value <;> rfl
  | var name span => rfl
  | binary op left right span ihl ihr =>
      simp [postfixTokens, List.foldlM_append, ihl h.1, ihr h.2, Token.push?, bare]
  | call f argument span ih =>
      simp [postfixTokens, List.foldlM_append, ih h, Token.push?, bare]
  | assign name value span | empty => exact h.elim

/-- **The tokens of a tree are read back** as this tree, up to spans. -/
theorem ofPostfix?_postfixTokens (h : t.OfLine) : ofPostfix? t.postfixTokens = some t.bare := by
  cases h with
  | empty => rfl
  | expression h => simp [ofPostfix?, foldlM_postfixTokens h]
  | @assign name value h span =>
      simp [ofPostfix?, postfixTokens, List.foldlM_append, Token.push?,
        foldlM_postfixTokens h, bare]

/-! ### Trees are told apart -/

/-- Spans are not written. -/
lemma postfixText_bare (t : Formula) : t.bare.postfixText = t.postfixText := by
  induction t with
  | literal | var | empty => rfl
  | binary op left right span ihl ihr => simp [bare, postfixText, ihl, ihr]
  | call f argument span ih | assign name argument span ih => simp [bare, postfixText, ih]

lemma isDistinct_postfixTokens (h : ∀ token ∈ t.leaves, token.IsDistinct) :
    ∀ token ∈ t.postfixTokens, token.IsDistinct := by
  have hsign {token : Token} (htoken : token.IsDistinct) : ∀ u ∈ [token], u.IsDistinct :=
    List.forall_mem_singleton.mpr htoken
  induction t with
  | literal | var | empty => exact h
  | binary op left right span ihl ihr =>
      obtain ⟨hl, hr⟩ := List.forall_mem_append.mp h
      exact List.forall_mem_append.mpr
        ⟨ihl hl, List.forall_mem_append.mpr ⟨ihr hr, hsign trivial⟩⟩
  | call f argument span ih => exact List.forall_mem_append.mpr ⟨ih h, hsign trivial⟩
  | assign name value span ih =>
      obtain ⟨hname, hvalue⟩ := List.forall_mem_cons.mp h
      exact List.forall_mem_cons.mpr
        ⟨hname, List.forall_mem_append.mpr ⟨ih hvalue, hsign trivial⟩⟩

lemma eof_not_mem_leaves (t : Formula) : .eof ∉ t.leaves := by
  induction t with
  | literal value span => cases value <;> simp [leaves, Literal.token]
  | var | empty => simp [leaves]
  | binary op left right span ihl ihr => simp [leaves, ihl, ihr]
  | call f argument span ih | assign name argument span ih => simp [leaves, ih]

/-- In a text that is shorter than the largest scale, the numbers and names of a tree are told
apart. -/
lemma isDistinct_of_parse {source : String} {D : ℕ} (h : parse source D = .ok t)
    (hlength : source.toList.length < 2 ^ 63)
    (hzero : ∀ a : Decimal, .decimal a ∈ t.leaves → a.unscaled ≠ 0) :
    ∀ token ∈ t.leaves, token.IsDistinct := by
  obtain ⟨ls, htokens, hmem⟩ := mem_tokens_of_parse h
  intro token htoken
  obtain hwritten | rfl := hmem token htoken
  · cases token with
    | ident name => exact written_of_tokenize htokens _ hwritten
    | decimal a =>
        obtain ⟨places, hpos, hle, hscale⟩ := hasPlace_of_tokenize htokens hwritten
        refine ⟨hzero a htoken, ?_⟩
        rw [hscale, Int64.toInt_ofNat_of_lt (by omega)]
        omega
    | eof => exact absurd htoken t.eof_not_mem_leaves
    | int _ | function _ | operator _ | assign | lparen | rparen => trivial
  · trivial

/-- **The text of a tree tells it apart.** Two trees of lines whose decimals are not zero are
written in the same way if and only if they are the same up to spans. Only a line as long as the
largest scale, which no memory holds, could have decimals whose scale does not fit. -/
theorem postfixText_inj {source source' : String} {D D' : ℕ} (h : parse source D = .ok t)
    (h' : parse source' D' = .ok u) (hlength : source.toList.length < 2 ^ 63)
    (hlength' : source'.toList.length < 2 ^ 63)
    (hzero : ∀ a : Decimal, .decimal a ∈ t.leaves → a.unscaled ≠ 0)
    (hzero' : ∀ a : Decimal, .decimal a ∈ u.leaves → a.unscaled ≠ 0) :
    t.postfixText = u.postfixText ↔ t.bare = u.bare := by
  have ht := ofLine_of_parse h
  have hu := ofLine_of_parse h'
  constructor
  · intro htexts
    have hspaced : spaced t.postfixTokens = spaced u.postfixTokens := by
      rw [← toList_postfixText_ofLine ht, ← toList_postfixText_ofLine hu, htexts]
    have htokens : t.postfixTokens = u.postfixTokens :=
      spaced_inj (isDistinct_postfixTokens (isDistinct_of_parse h hlength hzero))
        (isDistinct_postfixTokens (isDistinct_of_parse h' hlength' hzero')) hspaced
    have hread := ofPostfix?_postfixTokens ht
    rw [htokens, ofPostfix?_postfixTokens hu] at hread
    exact (Option.some.inj hread).symm
  · intro hbare
    rw [← postfixText_bare t, hbare, postfixText_bare]

/-- Parentheses that do not change the tree do not change the text, in which the minus sign of the
negative number is no operator. -/
theorem postfixText_inj_parentheses :
    ∃ t u, parse "x = 8 - 4 - -0.5" 128 = .ok t ∧ parse "x = ((8 - 4) - -0.5)" 128 = .ok u
      ∧ t.postfixText = "x 8 4 - -0.5 - =" ∧ u.postfixText = "x 8 4 - -0.5 - ="
      ∧ t ≠ u ∧ t.bare = u.bare := by
  have h : parse "x = 8 - 4 - -0.5" 128
      = .ok (.assign "x" (.binary .sub
          (.binary .sub (.literal (.int 8) ⟨4, 5⟩) (.literal (.int 4) ⟨8, 9⟩) ⟨4, 9⟩)
          (.literal (.decimal ⟨-5, 1⟩) ⟨12, 16⟩) ⟨4, 16⟩) ⟨0, 16⟩) := by
    cbv
  have h' : parse "x = ((8 - 4) - -0.5)" 128
      = .ok (.assign "x" (.binary .sub
          (.binary .sub (.literal (.int 8) ⟨6, 7⟩) (.literal (.int 4) ⟨10, 11⟩) ⟨6, 11⟩)
          (.literal (.decimal ⟨-5, 1⟩) ⟨15, 19⟩) ⟨6, 19⟩) ⟨0, 19⟩) := by
    cbv
  have hbare := (postfixText_inj h h' (by decide) (by decide)
    (by simp [leaves, Literal.token]) (by simp [leaves, Literal.token])).mp (by cbv)
  exact ⟨_, _, h, h', by cbv, by cbv, by decide, hbare⟩

/-- Zero is written alike at every scale, and as the whole number. -/
example :
    (literal (.decimal ⟨0, 1⟩) .origin).postfixText = (literal (.int 0) .origin).postfixText :=
  rfl

end Formula

end Reckoner
