import Reckoner.Proofs.Formula.Built

/-!
Raising the limit.

Under a higher limit the parser takes the same steps, until the lower one is hit. An error of the
lexer that has been met by then is not forgotten, so that it is reported under both.

* `Parser.limited`: a state under another limit;
* `Parser.Paired`, `Parser.Outlasts`: steps under two limits;
* `Parser.Outlasts.bind`, `Parser.outlasts_get_bind` and their kin: steps of such steps;
* `Parser.rising`, `Parser.outlasts_line`: expressions and lines;
* `Parser.parse_of_line`, `Parser.parse_of_line_lexical`: what is reported of a text;
* `parse_of_le`: the limit only cuts off.
-/

namespace Reckoner

namespace Parser

open Step Parse

variable {α β : Type} {D E : ℕ}

/-- A state under the limit `D`. -/
def limited (D : ℕ) (p : Parser) : Parser := { p with maxDepth := D }

lemma limited_of_maxDepth {p : Parser} (h : p.maxDepth = D) : limited D p = p := by
  rw [← h]
  rfl

lemma shifted_limited (D : ℕ) (p : Parser) : (limited D p).shifted = limited D p.shifted := by
  obtain ⟨current, ahead, rest, errors, maxDepth, depth⟩ := p
  rcases rest with _ | ⟨e | l, rest⟩ <;> rfl

lemma ofItems_eq_limited (items : List Lexer.Item) (D : ℕ) :
    ofItems items D = limited D (ofItems items 0) := by
  simp only [ofItems, ← shifted_limited]
  rfl

lemma lexicalErrors_shifted (p : Parser) : p.lexicalErrors <+: p.shifted.lexicalErrors := by
  rw [shifted]
  split
  · exact List.prefix_rfl
  · exact List.prefix_rfl
  · exact List.prefix_append _ _

/-- A state that can be reached from a state under the limit `D` in which these errors of the
lexer have been met. -/
structure Beyond (D : ℕ) (errors : List LexicalError) (p : Parser) : Prop where
  maxDepth : p.maxDepth = D
  lexicalErrors : errors <+: p.lexicalErrors

/-- The limit stays as it is, and no error of the lexer is forgotten. -/
lemma Built.keeps_beyond {x : Parse α} (h : Built (fun _ => True) x) (D : ℕ)
    (errors : List LexicalError) : Keeps (Beyond D errors) (fun _ => True) x := by
  induction h with
  | done a => exact keeps_pure a
  | failed _ _ => exact keeps_throw trivial
  | moved =>
      refine keeps_modify fun p hp => ⟨?_, hp.lexicalErrors.trans (lexicalErrors_shifted p)⟩
      rw [← limited_of_maxDepth hp.maxDepth, shifted_limited]
      rfl
  | levelled g => exact keeps_modify fun _ hp => ⟨hp.maxDepth, hp.lexicalErrors⟩
  | next _ _ ihx ihf => exact ihx.bind ihf
  | looked _ _ ih => exact keeps_get_bind fun p _ => ih p trivial

/-! ### Steps under two limits -/

/-- What `x` gives under the limit `D`, and `y` under the limit `E`, from the state `p`: the same,
unless `x` hits the limit. In that case `y` has met at least the errors of the lexer that `x`
has. -/
structure Paired (D E : ℕ) (x y : Parse α) (p : Parser) (result : Except ParseError α) (q : Parser)
    (result' : Except ParseError α) (q' : Parser) : Prop where
  lower : on x (limited D p) = (result, limited D q)
  higher : on y (limited E p) = (result', limited E q')
  lexicalErrors : p.lexicalErrors <+: q'.lexicalErrors
  agree : (result', q') = (result, q)
    ∨ HitsLimit result ∧ q.lexicalErrors <+: q'.lexicalErrors

/-- Under the limit `E` the step `y` does what `x` does under the limit `D`, as long as `x` does not
hit the limit. -/
def Outlasts (D E : ℕ) (x y : Parse α) : Prop :=
  ∀ p, ∃ result q result' q', Paired D E x y p result q result' q'

lemma outlasts_pure (a : α) : Outlasts D E (pure a) (pure a) := fun p =>
  ⟨.ok a, p, .ok a, p, rfl, rfl, List.prefix_rfl, .inl rfl⟩

lemma outlasts_fail (cause : ParseCause) (span : Span) :
    Outlasts D E (fail cause span : Parse α) (fail cause span) := fun p =>
  ⟨.error ⟨cause, span⟩, p, .error ⟨cause, span⟩, p, rfl, rfl, List.prefix_rfl, .inl rfl⟩

lemma outlasts_skip : Outlasts D E skip skip := fun p =>
  ⟨.ok (), p.shifted, .ok (), p.shifted, congrArg (Prod.mk _) (shifted_limited D p),
    congrArg (Prod.mk _) (shifted_limited E p), lexicalErrors_shifted p, .inl rfl⟩

/-- Levels are opened and closed without looking at the limit. -/
lemma outlasts_modify (g : ℕ → ℕ) :
    Outlasts D E (modify fun p => { p with depth := g p.depth } : Parse Unit)
      (modify fun p => { p with depth := g p.depth }) := fun p =>
  ⟨.ok (), { p with depth := g p.depth }, .ok (), { p with depth := g p.depth }, rfl, rfl,
    List.prefix_rfl, .inl rfl⟩

/-- Where the limit is hit, it does not matter what is done under the higher one. -/
lemma outlasts_tooDeep {y : Parse α} (hy : Built (fun _ => True) y) :
    Outlasts D E tooDeep y := by
  intro p
  obtain ⟨⟨hlimit, herrors⟩, -⟩ :=
    hy.keeps_beyond E p.lexicalErrors (limited E p) ⟨rfl, List.prefix_rfl⟩
  refine ⟨_, { p with depth := p.depth + 1 }, (on y (limited E p)).1, (on y (limited E p)).2,
    on_tooDeep (limited D p), ?_, herrors, .inr ⟨⟨_, _, rfl⟩, herrors⟩⟩
  exact Prod.ext rfl (limited_of_maxDepth hlimit).symm

/-- **One step after another.** If the first one hits the limit, the steps under the higher limit
go on, and do not forget errors of the lexer. -/
lemma Outlasts.bind {x y : Parse α} {f g : α → Parse β} (hx : Outlasts D E x y)
    (hf : ∀ a, Outlasts D E (f a) (g a)) : Outlasts D E (x >>= f) (y >>= g) := by
  intro p
  obtain ⟨result, q, result', q', h⟩ := hx p
  obtain hagree | ⟨⟨limit, span, rfl⟩, herrors⟩ := h.agree
  · obtain ⟨rfl, rfl⟩ := Prod.mk.inj hagree
    obtain error | a := result'
    · exact ⟨.error error, q', .error error, q', on_bind_of_error h.lower f,
        on_bind_of_error h.higher g, h.lexicalErrors, .inl rfl⟩
    · obtain ⟨result, r, result', r', hr⟩ := hf a q'
      exact ⟨result, r, result', r', (on_bind_of_ok h.lower f).trans hr.lower,
        (on_bind_of_ok h.higher g).trans hr.higher, h.lexicalErrors.trans hr.lexicalErrors,
        hr.agree⟩
  · have hlower := on_bind_of_error h.lower f
    obtain error | b := result'
    · exact ⟨_, q, .error error, q', hlower, on_bind_of_error h.higher g, h.lexicalErrors,
        .inr ⟨⟨limit, span, rfl⟩, herrors⟩⟩
    · obtain ⟨_, _, result', r', hr⟩ := hf b q'
      exact ⟨_, q, result', r', hlower, (on_bind_of_ok h.higher g).trans hr.higher,
        h.lexicalErrors.trans hr.lexicalErrors,
        .inr ⟨⟨limit, span, rfl⟩, herrors.trans hr.lexicalErrors⟩⟩

lemma outlasts_get_bind {f g : Parser → Parse β}
    (h : ∀ p, Outlasts D E (f (limited D p)) (g (limited E p))) :
    Outlasts D E (get >>= f) (get >>= g) := by
  intro p
  obtain ⟨result, q, result', q', h⟩ := h p p
  exact ⟨result, q, result', q', h.lower, h.higher, h.lexicalErrors, h.agree⟩

/-- Two steps may look at everything but the limit. -/
lemma outlasts_look {f g : Parser → Parse β} (h : ∀ p, Outlasts D E (f p) (g p))
    (hf : ∀ p limit, f (limited limit p) = f p) (hg : ∀ p limit, g (limited limit p) = g p) :
    Outlasts D E (get >>= f) (get >>= g) :=
  outlasts_get_bind fun p => by
    rw [hf, hg]
    exact h p

lemma Outlasts.discard {x y : Parse α} (h : Outlasts D E x y) :
    Outlasts D E (discard x) (discard y) := h.bind fun _ => outlasts_pure ()

/-! ### Single tokens -/

lemma outlasts_failWanting (wanted : List Wanted) :
    Outlasts D E (failWanting wanted : Parse α) (failWanting wanted) := by
  refine outlasts_look (fun p => ?_) (fun _ _ => rfl) fun _ _ => rfl
  split <;> exact outlasts_fail _ _

lemma outlasts_expect (t : Token) : Outlasts D E (expect t) (expect t) := by
  refine outlasts_look (fun p => ?_) (fun _ _ => rfl) fun _ _ => rfl
  split
  · split
    · exact outlasts_skip.bind fun _ => outlasts_pure _
    · exact outlasts_failWanting _
  · exact outlasts_failWanting _

lemma outlasts_expectIdent : Outlasts D E expectIdent expectIdent := by
  refine outlasts_look (fun p => ?_) (fun _ _ => rfl) fun _ _ => rfl
  split
  · exact outlasts_skip.bind fun _ => outlasts_pure _
  · exact outlasts_fail _ _
  · exact outlasts_fail _ _

lemma outlasts_expectEnd : Outlasts D E expectEnd expectEnd := by
  refine outlasts_look (fun p => ?_) (fun _ _ => rfl) fun _ _ => rfl
  split
  · exact outlasts_pure _
  · exact outlasts_failWanting _

/-! ### Expressions -/

lemma outlasts_number (value : Literal) (span : Span) :
    Outlasts D E (number value span) (number value span) := by
  refine outlasts_look (fun p => ?_) (fun _ _ => rfl) fun _ _ => rfl
  split
  · exact outlasts_skip.bind fun _ => outlasts_skip.bind fun _ => outlasts_pure _
  · exact outlasts_skip.bind fun _ => outlasts_pure _
  · exact outlasts_pure _

lemma outlasts_nested {first first' : Parse Formula} {more more' : ℕ → Formula → Parse Formula}
    (hfirst : Outlasts D E first first') (hmore : ∀ t, Outlasts D E (more 1 t) (more' 1 t)) :
    Outlasts D E (nested first more) (nested first' more') :=
  (outlasts_modify (· + 1)).bind fun _ => hfirst.bind hmore

lemma outlasts_closing (levels : ℕ) (left : Formula) :
    Outlasts D E (do closeLevels levels; return left) (do closeLevels levels; return left) :=
  (outlasts_modify (· - levels)).bind fun _ => outlasts_pure left

lemma outlasts_operand {free free' : ℕ}
    (hsub : Outlasts D E (subexpression free .lowest) (subexpression free' .lowest)) :
    Outlasts D E (operand free) (operand free') := by
  rw [operand, operand]
  refine outlasts_look (fun p => ?_) (fun _ _ => rfl) fun _ _ => rfl
  split
  · exact outlasts_skip.bind fun _ => outlasts_number _ _
  · exact outlasts_skip.bind fun _ => outlasts_number _ _
  · exact outlasts_skip.bind fun _ => outlasts_pure _
  · refine outlasts_skip.bind fun _ => (outlasts_expect _).discard.bind fun _ => ?_
    cases free <;> cases free' <;>
      exact hsub.bind fun _ => (outlasts_expect _).bind fun _ => outlasts_pure _
  · refine outlasts_skip.bind fun _ => ?_
    cases free <;> cases free' <;>
      exact hsub.bind fun _ => (outlasts_expect _).discard.bind fun _ => outlasts_pure _
  · exact outlasts_failWanting _

/-- In more levels, expressions are read as in fewer ones. -/
def Rising (D E free free' : ℕ) : Prop :=
  ∀ bound, Outlasts D E (subexpression free bound) (subexpression free' bound)

lemma outlasts_chain {free free' : ℕ} (hle : free ≤ free')
    (hsub : ∀ g ≤ free, ∀ g', g ≤ g' → Rising D E g g') (bound : Precedence) (levels : ℕ)
    (left : Formula) :
    Outlasts D E (chain free bound levels left) (chain free' bound levels left) := by
  induction free generalizing free' levels left with
  | zero =>
      rw [chain, chain]
      refine outlasts_look (fun p => ?_) (fun _ _ => rfl) fun _ _ => rfl
      split
      · split
        · refine outlasts_skip.bind fun _ => outlasts_tooDeep ?_
          cases free' with
          | zero => exact built_tooDeep
          | succ free' =>
              refine (built_subexpression (free' + 1) _).next fun _ => ?_
              refine (Built.levelled (· + 1)).next fun _ => ?_
              exact built_chain (fun g _ => built_subexpression g) _ _ _
        · exact outlasts_closing levels left
      · exact outlasts_closing levels left
  | succ free ih =>
      obtain ⟨free', rfl⟩ : ∃ n, free' = n + 1 := ⟨free' - 1, by omega⟩
      rw [chain, chain]
      refine outlasts_look (fun p => ?_) (fun _ _ => rfl) fun _ _ => rfl
      split
      · split
        · refine outlasts_skip.bind fun _ => (hsub _ le_rfl _ hle _).bind fun _ => ?_
          refine (outlasts_modify (· + 1)).bind fun _ => ?_
          exact ih (Nat.le_of_succ_le_succ hle) (fun g hg => hsub g (Nat.le_succ_of_le hg)) _ _
        · exact outlasts_closing levels left
      · exact outlasts_closing levels left

lemma rising (free free' : ℕ) (hle : free ≤ free') : Rising D E free free' := by
  induction free using Nat.strong_induction_on generalizing free' with
  | _ free ih =>
    intro bound
    cases free with
    | zero => exact outlasts_tooDeep (built_subexpression free' bound)
    | succ free =>
        obtain ⟨free', rfl⟩ : ∃ n, free' = n + 1 := ⟨free' - 1, by omega⟩
        have hfree : free ≤ free' := Nat.le_of_succ_le_succ hle
        have hsub : ∀ g ≤ free, ∀ g', g ≤ g' → Rising D E g g' :=
          fun g hg g' hg' => ih g (Nat.lt_succ_of_le hg) g' hg'
        exact outlasts_nested (outlasts_operand (hsub free le_rfl free' hfree .lowest))
          fun t => outlasts_chain hfree hsub bound 1 t

lemma outlasts_expression (hle : D ≤ E) (bound : Precedence) :
    Outlasts D E (expression bound) (expression bound) := by
  rw [expression_eq]
  exact outlasts_get_bind fun p => rising _ _ (Nat.sub_le_sub_right hle p.depth) bound

/-! ### Lines -/

lemma outlasts_comparison (hle : D ≤ E) : Outlasts D E comparison comparison := by
  refine (outlasts_expression hle .lowest).bind fun _ => ?_
  refine outlasts_look (fun p => ?_) (fun _ _ => rfl) fun _ _ => rfl
  split
  · exact outlasts_pure _
  · refine outlasts_skip.bind fun _ => (outlasts_expression hle .lowest).bind fun _ => ?_
    refine outlasts_look (fun p => ?_) (fun _ _ => rfl) fun _ _ => rfl
    split
    · exact outlasts_fail _ _
    · exact outlasts_pure _

lemma outlasts_assignment (hle : D ≤ E) : Outlasts D E assignment assignment :=
  outlasts_expectIdent.bind fun _ => (outlasts_expect _).discard.bind fun _ =>
    (outlasts_comparison hle).bind fun _ => outlasts_expectEnd.bind fun _ => outlasts_pure _

/-- **A line goes on under a higher limit** as it did under the lower one. -/
lemma outlasts_line (hle : D ≤ E) : Outlasts D E line line := by
  refine outlasts_look (fun p => ?_) (fun _ _ => rfl) fun _ _ => rfl
  split
  · exact outlasts_pure _
  · exact outlasts_assignment hle
  · exact (outlasts_comparison hle).bind fun _ => outlasts_expectEnd.bind fun _ => outlasts_pure _

/-! ### Texts -/

/-- Where no error of the lexer has come into view, what has become of the line is reported. -/
lemma parse_of_line {src : String} {result : Except ParseError Formula} {q : Parser}
    (h : on line (limited D (ofItems (Lexer.items src) 0)) = (result, q))
    (hq : q.lexicalErrors = []) : parse src D = result := by
  rw [parse, parseItems_eq, ofItems_eq_limited, h]
  simp only [hq]

/-- Where one has, the first of them is reported. -/
lemma parse_of_line_lexical {src : String} {result : Except ParseError Formula} {q : Parser}
    {e : LexicalError} {errors : List LexicalError}
    (h : on line (limited D (ofItems (Lexer.items src) 0)) = (result, q))
    (hq : q.lexicalErrors = e :: errors) : parse src D = .error ⟨.lexical e, e.span⟩ := by
  rw [parse, parseItems_eq, ofItems_eq_limited, h]
  simp only [hq]

end Parser

open Reckoner.Parser

/-- **The limit only cuts off.** What is reported of a text, if it is not that the limit has been
hit, is reported under every higher limit as well. -/
theorem parse_of_le {src : String} {D E : ℕ} (hle : D ≤ E) (h : ¬ HitsLimit (parse src D)) :
    parse src E = parse src D := by
  obtain ⟨result, q, result', q', hline⟩ := outlasts_line hle (ofItems (Lexer.items src) 0)
  rcases hq : q.lexicalErrors with _ | ⟨e, errors⟩
  · have hlower : parse src D = result := parse_of_line hline.lower hq
    obtain hagree | ⟨hlimit, -⟩ := hline.agree
    · obtain ⟨rfl, rfl⟩ := Prod.mk.inj hagree
      rw [hlower, parse_of_line hline.higher hq]
    · rw [hlower] at h
      exact absurd hlimit h
  · -- An error of the lexer may hide that the limit has been hit.
    have herrors : q.lexicalErrors <+: q'.lexicalErrors := by
      obtain hagree | ⟨-, herrors⟩ := hline.agree
      · rw [(Prod.mk.inj hagree).2]
      · exact herrors
    rw [hq] at herrors
    obtain ⟨more, hmore⟩ := herrors
    rw [parse_of_line_lexical hline.lower hq, parse_of_line_lexical hline.higher hmore.symm]

/-- The sign that is not known hides that the limit has been hit before it. -/
theorem parse_of_le_hiddenLimit :
    1 ≤ 5 ∧ ¬ HitsLimit (parse "(($" 1) ∧ parse "(($" 5 = parse "(($" 1 := by
  have hparse : parse "(($" 1 = .error ⟨.lexical ⟨.unrecognized '$', ⟨2, 3⟩⟩, ⟨2, 3⟩⟩ := by
    cbv
  have hlimit : ¬ HitsLimit (parse "(($" 1) := by
    rw [hparse]
    rintro ⟨limit, span, h⟩
    cases h
  exact ⟨by decide, hlimit, parse_of_le (by decide) hlimit⟩

end Reckoner
