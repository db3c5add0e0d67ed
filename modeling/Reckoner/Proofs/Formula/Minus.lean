import Reckoner.Proofs.Formula.Tokens
import Reckoner.Proofs.Token.Minus

/-!
Subtractions written as sums.

Where a minus sign becomes part of the number after it, the subtraction becomes a sum whose
right operand starts with the negated number. How the operators of a line group is not
affected, but a tighter operator on the right now takes the negated number.

* `Formula.negateFirst`, `Formula.moveMinus`: the tree after the minus signs have moved;
* `Phrase.moveMinus`, `Phrase.tokensOf_moveMinus`: what it is written with;
* `Sentence.exists_moveMinus`: the same for lines;
* `parse_turned`: two source texts, one with the minus signs turned.
-/

namespace Reckoner

/-- A number with its sign turned. -/
def Literal.neg : Literal → Literal
  | int n => int (-n)
  | decimal a => decimal a.neg

@[simp] lemma Literal.token_neg (value : Literal) : value.neg.token = value.token.negate := by
  cases value <;> rfl

namespace Formula

/-- The tree with its first number negated, if it starts with one. -/
def negateFirst : Formula → Formula
  | literal value span => literal value.neg span
  | binary op left right span => binary op left.negateFirst right span
  | t => t

/-- The tree in which every subtraction has become the sum with the right operand whose
first number is negated. -/
def moveMinus : Formula → Formula
  | binary op left right span =>
      if op = .sub then binary .add left.moveMinus right.moveMinus.negateFirst span
      else binary op left.moveMinus right.moveMinus span
  | call f argument span => call f argument.moveMinus span
  | assign name value span => assign name value.moveMinus span
  | t => t

@[simp] lemma span_negateFirst (t : Formula) : t.negateFirst.span = t.span := by
  cases t <;> rfl

@[simp] lemma span_moveMinus (t : Formula) : t.moveMinus.span = t.span := by
  cases t with
  | binary op left right span =>
      rw [moveMinus]
      split <;> rfl
  | _ => rfl

lemma negateFirst_combine (op : Operator) (left right : Formula) :
    (combine op left right).negateFirst = combine op left.negateFirst right := by
  simp [combine, negateFirst]

lemma moveMinus_combine_sub (left right : Formula) :
    (combine .sub left right).moveMinus
      = combine .add left.moveMinus right.moveMinus.negateFirst := by
  simp [combine, moveMinus]

lemma moveMinus_combine {op : Operator} (hop : op ≠ .sub) (left right : Formula) :
    (combine op left right).moveMinus = combine op left.moveMinus right.moveMinus := by
  simp [combine, moveMinus, hop]

end Formula

namespace Phrase

/-- The phrase with its first number negated, if it starts with one. -/
def negateFirst : Phrase → Phrase
  | number value span => number value.neg span
  | standardForm value span eSpan exponent exponentSpan =>
      standardForm value.neg span eSpan exponent exponentSpan
  | multiple value span name nameSpan => multiple value.neg span name nameSpan
  | operation op span left right => operation op span left.negateFirst right
  | p => p

/-- The phrase in which every minus sign belongs to what follows it. -/
def moveMinus : Phrase → Phrase
  | operation op span left right =>
      if op = .sub then operation .add span left.moveMinus right.moveMinus.negateFirst
      else operation op span left.moveMinus right.moveMinus
  | call f span opening argument closing => call f span opening argument.moveMinus closing
  | group opening inner closing => group opening inner.moveMinus closing
  | p => p

/-- No phrase starts with a minus sign. -/
lemma exists_first (p : Phrase) :
    ∃ t ts, tokensOf p.lexemes = t :: ts ∧ t ≠ .operator .sub := by
  induction p with
  | number value span => cases value <;> exact ⟨_, _, rfl, by simp [Literal.token]⟩
  | standardForm value span eSpan exponent exponentSpan =>
      cases value <;> exact ⟨_, _, rfl, by simp [Literal.token]⟩
  | multiple value span name nameSpan =>
      cases value <;> exact ⟨_, _, rfl, by simp [Literal.token]⟩
  | operation op span left right ihl _ =>
      obtain ⟨t, ts, hts, ht⟩ := ihl
      exact ⟨t, _, by rw [lexemes, tokensOf_append, hts, List.cons_append], ht⟩
  | _ => exact ⟨_, _, rfl, by simp⟩

/-- No phrase ends with a minus sign. -/
lemma last_ne_sub (p : Phrase) : ∀ t ∈ (tokensOf p.lexemes).getLast?, t ≠ .operator .sub := by
  induction p with
  | number value span => cases value <;> simp [lexemes, Literal.token]
  | operation op span left right _ ihr =>
      obtain ⟨t, ts, hts, -⟩ := right.exists_first
      rw [lexemes, tokensOf_append, tokensOf_cons, List.getLast?_append, List.getLast?_cons]
      rw [hts] at ihr ⊢
      simpa [List.getLast?_cons] using ihr
  | _ => simp [lexemes, List.getLast?_cons, List.getLast?_append]

lemma tokensOf_negateFirst (p : Phrase) {t : Token} {ts : List Token}
    (h : tokensOf p.lexemes = t :: ts) : tokensOf p.negateFirst.lexemes = t.negate :: ts := by
  induction p generalizing ts with
  | number value span | standardForm value span eSpan exponent exponentSpan
  | multiple value span name nameSpan =>
      obtain ⟨rfl, rfl⟩ := List.cons.inj h
      simp [negateFirst, lexemes]
  | operation op span left right ihl _ =>
      obtain ⟨u, us, hus, -⟩ := left.exists_first
      rw [lexemes, tokensOf_append, hus, List.cons_append] at h
      obtain ⟨rfl, rfl⟩ := List.cons.inj h
      rw [negateFirst, lexemes, tokensOf_append, ihl hus, List.cons_append]
  | named name span | call f span opening argument closing | group opening inner closing =>
      obtain ⟨rfl, rfl⟩ := List.cons.inj h
      rfl

/-- **The tokens after the minus signs have moved.** -/
lemma tokensOf_moveMinus (p : Phrase) :
    tokensOf p.moveMinus.lexemes = turnMinus (tokensOf p.lexemes) := by
  induction p with
  | number value span => cases value <;> rfl
  | standardForm value span eSpan exponent exponentSpan => cases value <;> rfl
  | multiple value span name nameSpan => cases value <;> rfl
  | named name span => rfl
  | call f span opening argument closing ih =>
      simp only [moveMinus, lexemes, tokensOf_cons, tokensOf_append, tokensOf_nil, ih]
      rw [turnMinus_cons (by simp), turnMinus_cons (by simp),
        turnMinus_append _ _ argument.last_ne_sub]
      rfl
  | group opening inner closing ih =>
      simp only [moveMinus, lexemes, tokensOf_cons, tokensOf_append, tokensOf_nil, ih]
      rw [turnMinus_cons (by simp), turnMinus_append _ _ inner.last_ne_sub]
      rfl
  | operation op span left right ihl ihr =>
      obtain ⟨t, ts, hts, ht⟩ := right.exists_first
      rw [lexemes, tokensOf_append, tokensOf_cons, turnMinus_append _ _ left.last_ne_sub, ← ihl]
      rw [hts, turnMinus_cons ht] at ihr
      by_cases hop : op = .sub
      · rw [moveMinus, if_pos hop, lexemes, tokensOf_append, tokensOf_cons,
          tokensOf_negateFirst _ ihr, hop, hts, turnMinus]
      · rw [moveMinus, if_neg hop, lexemes, tokensOf_append, tokensOf_cons, ihr, hts,
          turnMinus_cons (by simpa using hop), turnMinus_cons ht]

/-- Negating its first number does not change the form of a phrase. -/
lemma Like.negateFirst {p q : Phrase} (h : p.Like Token.Alike q) :
    p.Like Token.Alike q.negateFirst := by
  have hliteral {value value' : Literal} (h : value.token.Alike value'.token) :
      value.token.Alike value'.neg.token := by
    cases value <;> cases value' <;> simp_all [Literal.token, Literal.neg]
  induction h with
  | number span span' h => exact .number span span' (hliteral h)
  | standardForm span span' eSpan eSpan' exponentSpan exponentSpan' h h' =>
      exact .standardForm span span' eSpan eSpan' exponentSpan exponentSpan' (hliteral h) h'
  | multiple span span' name nameSpan nameSpan' h =>
      exact .multiple span span' name nameSpan nameSpan' (hliteral h)
  | named name span span' => exact .named name span span'
  | call f span span' opening opening' closing closing' h ih =>
      exact .call f span span' opening opening' closing closing' h
  | group opening opening' closing closing' h ih =>
      exact .group opening opening' closing closing' h
  | operation span span' hop hl hr ihl ihr => exact .operation span span' hop ihl hr

/-- Nor does moving the minus signs. -/
lemma like_moveMinus (p : Phrase) : p.Like Token.Alike p.moveMinus := by
  induction p with
  | number value span => exact .number span span (Token.alike_refl _)
  | standardForm value span eSpan exponent exponentSpan =>
      exact .standardForm span span eSpan eSpan exponentSpan exponentSpan (Token.alike_refl _)
        (Token.alike_refl _)
  | multiple value span name nameSpan =>
      exact .multiple span span name nameSpan nameSpan (Token.alike_refl _)
  | named name span => exact .named name span span
  | call f span opening argument closing ih =>
      exact .call f span span opening opening closing closing ih
  | group opening inner closing ih => exact .group opening opening closing closing ih
  | operation op span left right ihl ihr =>
      rw [moveMinus]
      split
      · next hop =>
        subst hop
        exact .operation span span (Token.alike_operator.mpr ⟨_, rfl, rfl, rfl⟩) ihl
          ihr.negateFirst
      · exact .operation span span (Token.alike_refl _) ihl ihr

/-- A phrase that starts with a number has a tree that starts with it. -/
lemma tree_negateFirst (p : Phrase) {t : Token} {ts : List Token}
    (h : tokensOf p.lexemes = t :: ts) (ht : t.isNumber = true) :
    p.negateFirst.tree = p.tree.negateFirst := by
  induction p generalizing ts with
  | operation op span left right ihl _ =>
      obtain ⟨u, us, hus, -⟩ := left.exists_first
      rw [lexemes, tokensOf_append, hus, List.cons_append] at h
      obtain ⟨rfl, rfl⟩ := List.cons.inj h
      rw [negateFirst, tree, tree, ihl hus, Formula.negateFirst_combine]
  | group opening inner closing _ =>
      obtain ⟨rfl, -⟩ := List.cons.inj h
      simp [Token.isNumber] at ht
  | _ => rfl

/-- **The tree after the minus signs have moved**, where each of them stood before a
number. -/
lemma tree_moveMinus (p : Phrase) (h : MinusBeforeNumber (tokensOf p.lexemes)) :
    p.moveMinus.tree = p.tree.moveMinus := by
  induction p with
  | call f span opening argument closing ih =>
      simp only [lexemes, tokensOf_cons, tokensOf_append] at h
      have hargument : MinusBeforeNumber (tokensOf argument.lexemes) :=
        h.of_cons.of_cons.of_append_left
      rw [moveMinus, tree, tree, Formula.moveMinus, ih hargument]
  | group opening inner closing ih =>
      simp only [lexemes, tokensOf_cons, tokensOf_append] at h
      exact ih h.of_cons.of_append_left
  | operation op span left right ihl ihr =>
      rw [lexemes, tokensOf_append, tokensOf_cons] at h
      have hleft := ihl h.of_append_left
      have hright := ihr h.of_append_right.of_cons
      by_cases hop : op = .sub
      · obtain ⟨t, ts, hts, ht⟩ := right.exists_first
        have hnumber : t.isNumber = true := h _ t ts (by rw [hts, hop])
        have hfirst : tokensOf right.moveMinus.lexemes = t :: turnMinus ts := by
          rw [tokensOf_moveMinus, hts, turnMinus_cons ht]
        rw [moveMinus, if_pos hop, tree, tree, tree_negateFirst _ hfirst hnumber, hleft, hright,
          hop, Formula.moveMinus_combine_sub]
      · rw [moveMinus, if_neg hop, tree, tree, hleft, hright, Formula.moveMinus_combine hop]
  | _ => rfl

end Phrase

/-! ### Lines -/

lemma Operator.ne_sub_of_isComparison {op : Operator} (h : op.isComparison = true) :
    op ≠ .sub := by
  rintro rfl
  simp [isComparison] at h

/-- What can be said of the clause or line that is left when the minus signs have moved. -/
lemma Clause.exists_moveMinus (c : Clause) (hc : c.Layered)
    (h : MinusBeforeNumber (tokensOf c.lexemes)) :
    ∃ c' : Clause, tokensOf c'.lexemes = turnMinus (tokensOf c.lexemes) ∧ c'.Layered
      ∧ c'.levels = c.levels ∧ c'.tree = c.tree.moveMinus := by
  cases c with
  | expression p =>
      exact ⟨.expression p.moveMinus, p.tokensOf_moveMinus,
        p.like_moveMinus.layered (fun _ _ => id) hc, p.like_moveMinus.levels_eq,
        p.tree_moveMinus h⟩
  | comparison op span left right =>
      obtain ⟨hop, hl, hr⟩ := hc
      have hne := Operator.ne_sub_of_isComparison hop
      rw [lexemes, tokensOf_append, tokensOf_cons] at h
      have hleft := left.tree_moveMinus h.of_append_left
      have hright := right.tree_moveMinus h.of_append_right.of_cons
      refine ⟨.comparison op span left.moveMinus right.moveMinus, ?_, ⟨hop, ?_, ?_⟩, ?_, ?_⟩
      · rw [lexemes, lexemes, tokensOf_append, tokensOf_append, tokensOf_cons, tokensOf_cons,
          turnMinus_append _ _ left.last_ne_sub, turnMinus_cons (by simpa using hne),
          left.tokensOf_moveMinus, right.tokensOf_moveMinus]
      · exact left.like_moveMinus.layered (fun _ _ => id) hl
      · exact right.like_moveMinus.layered (fun _ _ => id) hr
      · rw [levels, levels, left.like_moveMinus.levels_eq, right.like_moveMinus.levels_eq]
      · rw [tree, tree, hleft, hright, Formula.moveMinus_combine hne]

lemma Clause.last_ne_sub (c : Clause) :
    ∀ t ∈ (tokensOf c.lexemes).getLast?, t ≠ .operator .sub := by
  cases c with
  | expression p => exact p.last_ne_sub
  | comparison op span left right =>
      have hlast := (Phrase.operation op span left right).last_ne_sub
      exact hlast

lemma Sentence.exists_moveMinus (s : Sentence) (hs : s.Layered)
    (h : MinusBeforeNumber (tokensOf s.lexemes)) :
    ∃ s' : Sentence, tokensOf s'.lexemes = turnMinus (tokensOf s.lexemes) ∧ s'.Layered
      ∧ s'.levels = s.levels ∧ s'.tree = s.tree.moveMinus := by
  cases s with
  | blank ending => exact ⟨.blank ending, rfl, trivial, rfl, rfl⟩
  | statement c ending =>
      rw [lexemes, tokensOf_append] at h
      obtain ⟨c', htokens, hc', hlevels, htree⟩ := c.exists_moveMinus hs h.of_append_left
      refine ⟨.statement c' ending, ?_, hc', hlevels, htree⟩
      rw [lexemes, lexemes, tokensOf_append, tokensOf_append, htokens,
        turnMinus_append _ _ c.last_ne_sub]
      rfl
  | assignment name span sign c ending =>
      simp only [lexemes, tokensOf_cons, tokensOf_append] at h
      have hclause : MinusBeforeNumber (tokensOf c.lexemes) :=
        h.of_cons.of_cons.of_append_left
      obtain ⟨c', htokens, hc', hlevels, htree⟩ := c.exists_moveMinus hs hclause
      refine ⟨.assignment name span sign c' ending, ?_, hc', hlevels, ?_⟩
      · simp only [lexemes, tokensOf_cons, tokensOf_append]
        rw [turnMinus_cons (by simp), turnMinus_cons (by simp),
          turnMinus_append _ _ c.last_ne_sub, htokens]
        rfl
      · rw [tree, tree, htree, Formula.span_moveMinus, Formula.moveMinus]

/-- Tokens are of the same kinds before and after the minus signs are turned. -/
lemma alike_turnMinus (ts : List Token) : List.Forall₂ Token.Alike (turnMinus ts) ts := by
  have hnegate (t : Token) : t.negate.Alike t := by
    cases t <;> simp [Token.negate]
  induction ts using turnMinus.induct with
  | case1 t ts ih =>
      rw [turnMinus]
      exact .cons (Token.alike_operator.mpr ⟨_, rfl, rfl, rfl⟩) (.cons (hnegate t) ih)
  | case2 t ts h ih =>
      rw [turnMinus]
      · exact .cons t.alike_refl ih
      · exact h
  | case3 => exact .nil

/-- **Two source texts**, of which one has the tokens of the other one with the minus signs
turned: either both have a tree or none has, and the minus signs have moved in the tree. -/
theorem parse_turned {src src' : String}
    (h : Lexer.reading (Lexer.items src') = (Lexer.reading (Lexer.items src)).map turnMinus)
    (hminus : ∀ ts ∈ Lexer.reading (Lexer.items src), MinusBeforeNumber ts) (D : ℕ) :
    (∀ t, parse src D = .ok t → ∃ t', parse src' D = .ok t' ∧ t'.bare = t.moveMinus.bare)
      ∧ ∀ t', parse src' D = .ok t' → ∃ t, parse src D = .ok t := by
  rw [Lexer.reading_items, Lexer.reading_items] at h
  rw [Lexer.reading_items] at hminus
  constructor
  · intro t ht
    obtain ⟨s, hs, hlevels, htokens, rfl⟩ := parse_ok_iff.mp ht
    rw [htokens] at h hminus
    obtain ⟨m, htokens', hm, hmlevels, htree⟩ := s.exists_moveMinus hs (hminus _ rfl)
    rw [← htree]
    refine parse_of_reading hm (hmlevels ▸ hlevels) ?_
    rw [Lexer.reading_items, h, htokens']
    rfl
  · intro t' ht'
    obtain ⟨s', hs', hlevels', htokens', -⟩ := parse_ok_iff.mp ht'
    rw [htokens'] at h
    obtain ⟨ts, hts, hturned⟩ := Option.map_eq_some_iff.mp h.symm
    obtain ⟨ls, hls, rfl⟩ := exists_tokenize hts
    obtain ⟨s, rfl, hs, hlevels⟩ :=
      s'.exists_of_alike (hturned ▸ alike_turnMinus (tokensOf ls))
    exact ⟨s.tree, parse_ok_iff.mpr ⟨s, hs hs', hlevels ▸ hlevels', hls, rfl⟩⟩

end Reckoner
