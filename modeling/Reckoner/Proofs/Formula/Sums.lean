import Reckoner.Proofs.Formula.Tokens

/-!
Sums of integers.

An integer and further ones that are added to it are read up to the end of the line, or up to
an integer that no sign is put before. There the parser has no use for the next token.

* `addends`: what the integers that are added are written with;
* `Formula.sumOf`: the tree of a sum;
* `Parser.chain_on_addends`, `Parser.comparison_on_sum`: how sums are read;
* `parse_sum`, `parse_sum_cut`: texts that are sums, and texts that go on with an integer.
-/

namespace Reckoner

/-- The tokens that add integers. -/
def addends (ns : List ℤ) : List Token := ns.flatMap fun n => [.operator .add, .int n]

/-- A tree that integers are added to, one after the other. -/
def Formula.sumOf (t : Formula) (ns : List ℤ) : Formula :=
  ns.foldl (fun t n => .binary .add t (.literal (.int n) .origin) .origin) t

namespace Parser

open Step Parse

variable {cut : Option LexicalError} {D d : ℕ} {ls ms : List Lexeme}

/-- What can stand after an integer that nothing is done with. -/
structure EndsSum (ms : List Lexeme) : Prop where
  loose : Loose 0 ms
  noName : NoName ms

lemma endsSum_eof (ending : Span) (ms : List Lexeme) : EndsSum (⟨.eof, ending⟩ :: ms) :=
  ⟨by rintro l ⟨⟩; exact le_rfl, by rintro l ⟨⟩; simp⟩

lemma endsSum_int (n : ℤ) (span : Span) (ms : List Lexeme) : EndsSum (⟨.int n, span⟩ :: ms) :=
  ⟨by rintro l ⟨⟩; exact le_rfl, by rintro l ⟨⟩; simp⟩

/-- No operator of an addend binds tighter than a sum. -/
lemma loose_addends {ns : List ℤ} (hls : tokensOf ls = addends ns) (hms : EndsSum ms) :
    Loose 1 (ls ++ ms) ∧ NoName (ls ++ ms) := by
  cases ns with
  | nil =>
      obtain rfl : ls = [] := tokensOf_eq_nil.mp hls
      exact ⟨fun l hl => (hms.loose l hl).trans (Nat.zero_le 1), hms.noName⟩
  | cons n ns =>
      obtain ⟨span, ls, rfl, -⟩ := tokensOf_eq_cons.mp hls
      refine ⟨?_, ?_⟩
      · rintro l ⟨⟩
        exact le_rfl
      · rintro l ⟨⟩
        simp

/-- A number is an expression of its own before anything that does not go on with it. -/
lemma subexpression_on_number {free : ℕ} {bound : Precedence} (value : Literal) (span : Span)
    (hloose : Loose bound.rank ls) (hname : NoName ls) :
    on (subexpression (free + 1) bound) (facing (⟨value.token, span⟩ :: ls) cut D d)
      = (.ok (.literal value span), facing ls cut D d) := by
  have hoperand : on (operand free) (facing (⟨value.token, span⟩ :: ls) cut D (d + 1))
      = (.ok (.literal value span), facing ls cut D (d + 1)) := by
    rw [operand_on_number, number_on_alone value span hname]
  rw [subexpression_succ_on, on_bind_of_ok hoperand, chain_on_loose _ _ _ hloose,
    Nat.add_sub_cancel]

/-- **Addends are folded** into what stands before them, each in a level of its own. These levels
are closed in the end, with those that were open before. -/
lemma chain_on_addends {ns : List ℤ} (hls : tokensOf ls = addends ns) (hms : EndsSum ms)
    {free levels : ℕ} (hfree : ns.length ≤ free) (left : Formula) :
    ∃ t, on (chain free .lowest levels left) (facing (ls ++ ms) cut D d)
        = (.ok t, facing ms cut D (d - levels))
      ∧ t.bare = left.bare.sumOf ns := by
  induction ns generalizing ls left free levels d with
  | nil =>
      obtain rfl : ls = [] := tokensOf_eq_nil.mp hls
      exact ⟨left, chain_on_loose free levels left hms.loose, rfl⟩
  | cons n ns ih =>
      obtain ⟨span, rest, rfl, hrest⟩ := tokensOf_eq_cons.mp hls
      obtain ⟨numberSpan, rest, rfl, htail⟩ := tokensOf_eq_cons.mp hrest
      rw [List.length_cons] at hfree
      obtain ⟨free, rfl⟩ : ∃ f, free = f + 1 := ⟨free - 1, by omega⟩
      obtain ⟨hloose, hname⟩ := loose_addends htail hms
      have hright : on (subexpression (free + 1) Operator.add.precedence)
            (facing (⟨.int n, numberSpan⟩ :: (rest ++ ms)) cut D d)
          = (.ok (.literal (.int n) numberSpan), facing (rest ++ ms) cut D d) :=
        subexpression_on_number (.int n) numberSpan hloose hname
      have hfold : ∃ t, on (chain free .lowest (levels + 1)
              (.combine .add left (.literal (.int n) numberSpan)))
            (facing (rest ++ ms) cut D (d + 1)) = (.ok t, facing ms cut D (d + 1 - (levels + 1)))
          ∧ t.bare = ((Formula.combine .add left (.literal (.int n) numberSpan)).bare).sumOf ns :=
        ih htail (Nat.le_of_succ_le_succ hfree) _
      obtain ⟨t, ht, hbare⟩ := hfold
      refine ⟨t, ?_, hbare⟩
      rw [List.cons_append, List.cons_append, chain_on_operator _ _ _ _ _ rfl,
        on_bind_of_ok hright, on_openLevel_bind]
      show on (chain free .lowest (levels + 1) _) (facing (rest ++ ms) cut D (d + 1)) = _
      rw [ht, Nat.add_sub_add_right]

/-- **A sum is read** up to its end. -/
lemma comparison_on_sum {ns : List ℤ} (hls : tokensOf ls = addends ns) (hms : EndsSum ms)
    (hsign : (facing ms cut D d).comparisonSign? = none) (hlevels : ns.length < D - d) (n : ℤ)
    (span : Span) :
    ∃ t, on comparison (facing (⟨.int n, span⟩ :: (ls ++ ms)) cut D d)
        = (.ok t, facing ms cut D d)
      ∧ t.bare = (Formula.literal (.int n) .origin).sumOf ns := by
  obtain ⟨free, hfree⟩ : ∃ free, D - d = free + 1 := ⟨D - d - 1, by omega⟩
  have hchain : ∃ t, on (chain free .lowest 1 (.literal (.int n) span))
        (facing (ls ++ ms) cut D (d + 1)) = (.ok t, facing ms cut D d)
      ∧ t.bare = (Formula.literal (.int n) span).bare.sumOf ns :=
    chain_on_addends hls hms (by omega) _
  obtain ⟨t, ht, hbare⟩ := hchain
  refine ⟨t, ?_, hbare⟩
  have hoperand : on (operand free) (facing (⟨.int n, span⟩ :: (ls ++ ms)) cut D (d + 1))
      = (.ok (.literal (.int n) span), facing (ls ++ ms) cut D (d + 1)) :=
    (operand_on_number free (.int n) span _).trans
      (number_on_alone _ span (loose_addends hls hms).2)
  have hexpression : on (expression .lowest) (facing (⟨.int n, span⟩ :: (ls ++ ms)) cut D d)
      = (.ok t, facing ms cut D d) := by
    rw [expression_on, hfree, subexpression_succ_on, on_bind_of_ok hoperand, ht]
  rw [comparison, on_bind_of_ok hexpression, on_get_bind, hsign]
  rfl

/-- A sum is read as a statement, whatever stands after it. -/
lemma line_on_sum (cut : Option LexicalError) {ns : List ℤ} (hls : tokensOf ls = addends ns)
    (hms : EndsSum ms)
    (hsign : (facing ms cut D d).comparisonSign? = none) (hlevels : ns.length < D - d) (n : ℤ)
    (span : Span) :
    ∃ t, on line (facing (⟨.int n, span⟩ :: (ls ++ ms)) cut D d)
        = on (do expectEnd; return t) (facing ms cut D d)
      ∧ t.bare = (Formula.literal (.int n) .origin).sumOf ns := by
  obtain ⟨t, ht, hbare⟩ := comparison_on_sum hls hms hsign hlevels n span
  refine ⟨t, ?_, hbare⟩
  rw [line_on_comparison (by rintro l ⟨⟩; simp) (by simp), on_bind_of_ok ht]

end Parser

/-! ### Source texts -/

open Reckoner.Parser Step

variable {src : String} {D : ℕ} {n : ℤ} {ns : List ℤ}

/-- **A text that is a sum** has the tree of the sum. -/
theorem parse_sum (h : Lexer.reading (Lexer.items src) = some (.int n :: (addends ns ++ [.eof])))
    (hlevels : ns.length < D) :
    ∃ t, parse src D = .ok t ∧ t.bare = (Formula.literal (.int n) .origin).sumOf ns := by
  rw [Lexer.reading_items] at h
  obtain ⟨_, htokenize, htokens⟩ := exists_tokenize h
  obtain ⟨span, _, rfl, hrest⟩ := tokensOf_eq_cons.mp htokens
  obtain ⟨ls, _, rfl, hls, hending⟩ := tokensOf_eq_append.mp hrest
  obtain ⟨ending, _, rfl, hnil⟩ := tokensOf_eq_cons.mp hending
  obtain rfl := tokensOf_eq_nil.mp hnil
  obtain ⟨t, ht, hbare⟩ := line_on_sum none (D := D) (d := 0) hls (endsSum_eof ending []) rfl
    hlevels n span
  refine ⟨t, ?_, hbare⟩
  rw [parse_of_items (items_of_tokenize htokenize), ht]
  rfl

/-- **A text that goes on with an integer** after a sum fails there. -/
theorem parse_sum_cut {m : ℤ} {more : List Token}
    (h : Lexer.reading (Lexer.items src) = some (.int n :: (addends ns ++ .int m :: more)))
    (hlevels : ns.length < D) :
    ∃ span, parse src D = .error ⟨.unexpectedToken (.int m) [.anOperator, .theEnd], span⟩ := by
  rw [Lexer.reading_items] at h
  obtain ⟨_, htokenize, htokens⟩ := exists_tokenize h
  obtain ⟨span, _, rfl, hrest⟩ := tokensOf_eq_cons.mp htokens
  obtain ⟨ls, _, rfl, hls, hnext⟩ := tokensOf_eq_append.mp hrest
  obtain ⟨nextSpan, rest, rfl, -⟩ := tokensOf_eq_cons.mp hnext
  obtain ⟨t, ht, -⟩ := line_on_sum none (D := D) (d := 0) hls (endsSum_int m nextSpan rest)
    rfl hlevels n span
  refine ⟨nextSpan, ?_⟩
  rw [parse_of_items (items_of_tokenize htokenize), ht]
  cases rest <;> rfl

end Reckoner
