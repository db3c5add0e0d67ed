import Reckoner.Proofs.Formula.Printed
import Reckoner.Proofs.Line.Assignment

/-!
A printed tree is a line again.

Preparing leaves a printed tree as it is, since no digit stands right before a minus sign and
powers are printed with two stars. The line is read as the phrase of the tree, and has the same
tree up to spans where the limit leaves two levels for each level of the tree.

* `Formula.minusApart_infixText`, `Line.prepare_infixText`: preparing a printed tree;
* `Formula.IsPrintable`, `Line.isLegible_of_isPrintable`: the trees that are read back;
* `Line.tree_infixText`: that they are.
-/

namespace Reckoner

open Lexer Line

namespace Formula

variable {t : Formula}

/-! ### Preparing a printed tree -/

/-- A number is printed as its sign, and digits with at most one point. -/
lemma exists_literal_text {value : Literal} (h : ∀ a, value = .decimal a → a.IsPositional) :
    ∃ (n : ℤ) (cs : List Char), value.text.toList = (signText n).toList ++ cs
      ∧ ∀ c ∈ cs, c.isDigit = true ∨ c = '.' := by
  cases value with
  | int n =>
      refine ⟨n, digits n.natAbs, ?_, fun c hc => .inl (isDigit_of_mem_digits hc)⟩
      rw [Literal.text, integerText, String.toList_append, String.toList_ofList]
  | decimal a =>
      have hpositional := h a rfl
      have hplain := (Decimal.isPositional_iff.mp hpositional).2.2
      obtain ⟨cs, hcs, htext⟩ := a.exists_plainText
      refine ⟨a.unscaled, cs, ?_, hcs⟩
      rw [Literal.text, Decimal.text_of_plain hpositional.ne_zero hplain, htext]

lemma minusApart_literal {value : Literal} (h : ∀ a, value = .decimal a → a.IsPositional) :
    MinusApart value.text.toList := by
  obtain ⟨n, cs, htext, hcs⟩ := exists_literal_text h
  rw [htext]
  exact minusApart_signText n (Decimal.not_mem_of_digits hcs rfl (by decide))

lemma minusApart_symbol (op : Operator) : MinusApart op.symbol.toList := by
  cases op <;> simp [Operator.symbol, MinusApart]

/-- Minus signs are printed after spaces and opening parentheses only. -/
lemma minusApart_infixText (hlegible : t.IsLegible) : MinusApart t.infixText.toList := by
  have hhead {c : Char} (hc : c ≠ '-') (ds : List Char) : ∀ d ∈ (c :: ds).head?, d ≠ '-' := by
    rintro _ ⟨⟩
    exact hc
  have hclosing : MinusApart [')'] := List.isChain_singleton ')'
  induction t with
  | literal value span =>
      exact minusApart_literal fun a ha =>
        hlegible.decimals a (by simp [leaves, ha, Literal.token])
  | var name span =>
      have hname := hlegible.names name (by simp [leaves])
      exact minusApart_of_not_mem (hname.not_mem rfl)
  | call f argument span ih =>
      have hargument := ih (hlegible.mono fun _ h => h)
      have hf : MinusApart f.name.toList := minusApart_of_not_mem (not_mem_functionName f rfl)
      have htext : (call f argument span).infixText.toList
          = f.name.toList ++ '(' :: (argument.infixText.toList ++ [')']) := by
        simp [infixText]
      rw [htext]
      refine minusApart_append hf (minusApart_cons rfl ?_) (hhead (by decide) _)
      exact minusApart_append hargument hclosing (hhead (by decide) _)
  | binary op left right span ihl ihr =>
      have hl := ihl (hlegible.mono (List.subset_append_left _ _))
      have hr := ihr (hlegible.mono (List.subset_append_right _ _))
      have htext : (binary op left right span).infixText.toList
          = '(' :: (left.infixText.toList ++ ' ' :: (op.symbol.toList
            ++ ' ' :: (right.infixText.toList ++ [')']))) := by
        simp [infixText]
      have hright : MinusApart (' ' :: (right.infixText.toList ++ [')'])) :=
        minusApart_cons rfl (minusApart_append hr hclosing (hhead (by decide) _))
      have hsign := minusApart_append (minusApart_symbol op) hright (hhead (by decide) _)
      rw [htext]
      refine minusApart_cons rfl (minusApart_append hl ?_ (hhead (by decide) _))
      exact minusApart_cons rfl hsign
  | assign name value span ih =>
      have hname := hlegible.names name (by simp [leaves])
      have hvalue := ih (hlegible.mono (List.subset_cons_self _ _))
      have htext : (assign name value span).infixText.toList
          = name.toList ++ ' ' :: '=' :: ' ' :: value.infixText.toList := by
        simp [infixText]
      rw [htext]
      refine minusApart_append (minusApart_of_not_mem (hname.not_mem rfl)) ?_ (hhead (by decide) _)
      exact minusApart_cons rfl (minusApart_cons rfl (minusApart_cons rfl hvalue))
  | empty => exact List.isChain_nil

/-- Powers are printed with two stars. -/
lemma power_not_mem_infixText (hlegible : t.IsLegible) : '^' ∉ t.infixText.toList := by
  induction t with
  | literal value span =>
      obtain ⟨n, cs, htext, hcs⟩ := exists_literal_text fun a (ha : value = .decimal a) =>
        hlegible.decimals a (by simp [leaves, ha, Literal.token])
      have hsign : '^' ∉ (signText n).toList :=
        fun hmem => absurd (eq_minus_of_mem_signText hmem) (by decide)
      rw [infixText, htext, List.mem_append, not_or]
      exact ⟨hsign, Decimal.not_mem_of_digits hcs rfl (by decide)⟩
  | var name span => exact (hlegible.names name (by simp [leaves])).not_mem rfl
  | call f argument span ih =>
      have hf : '^' ∉ f.name.toList := not_mem_functionName f rfl
      simp [infixText, hf, ih (hlegible.mono fun _ h => h)]
  | binary op left right span ihl ihr =>
      have hl := ihl (hlegible.mono (List.subset_append_left _ _))
      have hr := ihr (hlegible.mono (List.subset_append_right _ _))
      have hsymbol : '^' ∉ op.symbol.toList := by
        cases op <;> simp [Operator.symbol]
      simp [infixText, hl, hr, hsymbol]
  | assign name value span ih =>
      have hname := (hlegible.names name (by simp [leaves])).not_mem (c := '^') rfl
      simp [infixText, hname, ih (hlegible.mono (List.subset_cons_self _ _))]
  | empty => simp [infixText]

/-- A tree without comparisons whose decimals are not zero and are printed without exponents. -/
structure IsPrintable (t : Formula) : Prop where
  noComparison : ∀ op ∈ t.operators, op.isComparison = false
  decimals : ∀ a : Decimal, .decimal a ∈ t.leaves →
    a.unscaled ≠ 0 ∧ a.scale.toInt - digitCount a.unscaled.natAbs ≤ 5

end Formula

namespace Line

variable {settings : Settings} {line : String} {t : Formula}

lemma prepare_infixText (h : t.IsLegible) : prepare t.infixText = t.infixText :=
  prepare_of_minusApart (Formula.minusApart_infixText h) (Formula.power_not_mem_infixText h)

/-! ### Trees that are read back -/

/-- In a line that is shorter than the largest scale, the numbers and names of such a tree are
read back. -/
lemma isLegible_of_isPrintable (h : tree settings line = .ok t)
    (hlength : (prepare line).toList.length < 2 ^ 63) (ht : t.IsPrintable) : t.IsLegible := by
  obtain ⟨ls, htokens, hmem⟩ := mem_tokens_of_parse (tree_eq_ok.mp h)
  refine ⟨fun name hname => ?_, fun a ha => ?_⟩
  · obtain hname | hten := hmem _ hname
    · exact written_of_tokenize htokens _ hname
    · cases hten
  · obtain htoken | hten := hmem _ ha
    · obtain ⟨places, hpos, hle, hscale⟩ := hasPlace_of_tokenize htokens htoken
      obtain ⟨hne, hzeros⟩ := ht.decimals a ha
      refine ⟨hne, ?_, hzeros⟩
      rw [hscale, Int64.toInt_ofNat_of_lt (by omega)]
      omega
    · cases hten

/-- What a printed expression is read as on its own. -/
lemma reading_printed (ht : t.IsExpression) (hlegible : t.IsLegible) :
    reading (items (prepare t.infixText)) = some (tokensOf t.phrase.lexemes ++ [.eof]) := by
  have hends : Formula.Closes [] := by rintro c ⟨⟩
  have hreading := Formula.reading_infixText ht hlegible hends 0
  rw [List.append_nil] at hreading
  rw [prepare_infixText hlegible, items, hreading, itemsFrom_ended rfl, reading_end,
    Option.map_some]

/-- **A printed tree is read back.** The tree of a line without comparisons, whose decimals
are printed in positional notation, is printed as a line that has the same tree up to spans,
under every limit of at least two levels for each level of the tree. Only a line as long as
the largest scale, which no memory holds, could have decimals whose scale does not fit. -/
theorem tree_infixText (h : tree settings line = .ok t)
    (hlength : (prepare line).toList.length < 2 ^ 63) (ht : t.IsPrintable)
    (settings' : Settings) (hdepth : 2 * t.height ≤ settings'.maxDepth) :
    ∃ t', tree settings' t.infixText = .ok t' ∧ t'.bare = t.bare := by
  have hlegible := isLegible_of_isPrintable h hlength ht
  have hlevels := t.levels_phrase_lt
  have hlayered := Formula.layered_phrase ht.noComparison
  cases ofLine_of_parse (tree_eq_ok.mp h) with
  | empty =>
      have hreading : reading (items (prepare Formula.empty.infixText)) = some [.eof] := by
        rw [prepare_infixText hlegible, items, Formula.infixText, String.toList_empty,
          itemsFrom_ended rfl, reading_end]
      exact tree_of_reading (s := .blank .origin) trivial (Nat.zero_le _) hreading
  | expression hexpression =>
      have hreading := reading_printed hexpression hlegible
      obtain ⟨t', ht', hbare⟩ := tree_of_reading
        (s := .statement (.expression t.phrase) .origin) hlayered
        (hlevels.le.trans hdepth) (hreading.trans (by simp [Sentence.lexemes, Clause.lexemes]))
      exact ⟨t', ht', hbare.trans (Formula.bare_phrase hexpression)⟩
  | @assign name value hvalue span =>
      have hname : IsName name := hlegible.names name (by simp [Formula.leaves])
      have hvalueLegible := hlegible.mono (List.subset_cons_self _ value.leaves)
      have hreading : reading (items (prepare (assigning name value.infixText)))
          = some (tokensOf (Sentence.assignment name .origin .origin (.expression value.phrase)
            .origin).lexemes) := by
        rw [reading_assigning hname, reading_printed hvalue hvalueLegible]
        simp [Sentence.lexemes, Clause.lexemes]
      obtain ⟨t', ht', hbare⟩ := tree_of_reading
        (s := .assignment name .origin .origin (.expression value.phrase) .origin) hlayered
        (hlevels.le.trans hdepth) hreading
      refine ⟨t', ht', hbare.trans ?_⟩
      show Formula.assign name value.phrase.tree.bare .origin = _
      rw [Formula.bare_phrase hvalue]
      rfl

/-- `x = 2e3 - -0.5` is printed as `x = ((2 * (10 ** 3)) - -0.5)`. -/
theorem tree_infixText_standardForm :
    ∃ t t', tree .standard "x = 2e3 - -0.5" = .ok t
      ∧ t.infixText = "x = ((2 * (10 ** 3)) - -0.5)"
      ∧ tree .standard t.infixText = .ok t' ∧ t'.bare = t.bare := by
  have htree : tree .standard "x = 2e3 - -0.5" = .ok (.assign "x" (.binary .sub
      (.binary .mul (.literal (.int 2) ⟨4, 5⟩) (.binary .pow (.literal (.int 10) ⟨5, 6⟩)
        (.literal (.int 3) ⟨6, 7⟩) ⟨5, 7⟩) ⟨4, 7⟩)
      (.literal (.decimal ⟨-5, 1⟩) ⟨10, 14⟩) ⟨4, 14⟩) ⟨0, 14⟩) := by
    cbv
  obtain ⟨t', ht', hbare⟩ := tree_infixText htree (by decide)
    ⟨by simp [Formula.operators, Operator.isComparison],
      by simp [Formula.leaves, Literal.token]; decide⟩ .standard (by decide)
  exact ⟨_, t', htree, by cbv, ht', hbare⟩

end Line

end Reckoner
