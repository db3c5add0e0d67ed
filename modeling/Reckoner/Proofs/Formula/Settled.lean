import Reckoner.Proofs.Formula.Sentences

/-!
Where the parser stops.

A step that stops in front of a lexeme has seen this lexeme and those before it, but nothing
behind it: whatever follows, it stops there with the same result. A failure is blamed on the
lexeme that it stops at.

* `ParseError.Blames`: the errors at a place of the stream;
* `Parser.Settles`, `Parser.Settled`: steps that stop at a lexeme, whatever follows it;
* `Parser.Settled.bind`, `Parser.settled_get_bind` and their kin: steps of such steps;
* `Parser.settled_subexpression`, `Parser.settled_comparison`: expressions and comparisons;
* `Parser.settled_line`: lines.
-/

namespace Reckoner

/-- **What is blamed** in front of the lexemes that are left. The limit of nesting may be hit
anywhere. -/
inductive ParseError.Blames : ParseError → List Lexeme → Prop
  | token {l : Lexeme} (h : l.token ≠ .eof) (wanted : List Wanted) (ls : List Lexeme) :
      Blames ⟨.unexpectedToken l.token wanted, l.span⟩ (l :: ls)
  | ending (span : Span) (ls : List Lexeme) : Blames ⟨.unexpectedEof, span⟩ (⟨.eof, span⟩ :: ls)
  | nothing : Blames ⟨.unexpectedEof, .origin⟩ []
  | chained {op : Operator} (h : op.isComparison = true) (span : Span) (ls : List Lexeme) :
      Blames ⟨.chainedComparison, span⟩ (⟨.operator op, span⟩ :: ls)
  | tooDeep (limit : ℕ) (span : Span) (ls : List Lexeme) : Blames ⟨.nestingTooDeep limit, span⟩ ls

namespace Parser

open Step Parse

variable {α β : Type} {cut : Option LexicalError} {D d : ℕ} {ls : List Lexeme}

/-! ### Steps that stop at a lexeme -/

/-- In front of the lexemes `ls` a step stops at `ms`, and would do so whatever followed the first
of these. -/
structure Settles (x : Parse α) (ls : List Lexeme) (cut : Option LexicalError) (D d : ℕ)
    (result : Except ParseError α) (ms : List Lexeme) (d' : ℕ) : Prop where
  on_facing : on x (facing ls cut D d) = (result, facing ms cut D d')
  suffix : ms <:+ ls
  blames : ∀ e, result = .error e → e.Blames ms
  settled : ∀ ks l ns, ls = ks ++ l :: ns → ms = l :: ns → ∀ ns' cut',
    on x (facing (ks ++ l :: ns') cut' D d) = (result, facing (l :: ns') cut' D d')

/-- A step stops somewhere in front of these lexemes. -/
def Settled (x : Parse α) (ls : List Lexeme) (cut : Option LexicalError) (D d : ℕ) : Prop :=
  ∃ result ms d', Settles x ls cut D d result ms d'

/-- A step that does not move stops at the first lexeme. -/
lemma settled_here {x : Parse α} (result : Except ParseError α) (d' : ℕ)
    (hnil : ls = [] → on x (facing [] cut D d) = (result, facing [] cut D d'))
    (hcons : ∀ l ns, ls = l :: ns → ∀ ns' cut',
      on x (facing (l :: ns') cut' D d) = (result, facing (l :: ns') cut' D d'))
    (hblames : ∀ e, result = .error e → e.Blames ls) : Settled x ls cut D d := by
  refine ⟨result, ls, d', ?_, List.suffix_rfl, hblames, ?_⟩
  · cases ls with
    | nil => exact hnil rfl
    | cons l ns => exact hcons l ns rfl ns cut
  · rintro ks l ns hls rfl
    obtain rfl : ks = [] := List.append_left_eq_self.mp hls.symm
    exact hcons l ns rfl

lemma settled_pure (a : α) : Settled (pure a : Parse α) ls cut D d :=
  settled_here _ _ (fun _ => rfl) (fun _ _ _ _ _ => rfl) (by simp)

lemma settled_fail {cause : ParseCause} {span : Span} (h : ParseError.Blames ⟨cause, span⟩ ls) :
    Settled (fail cause span : Parse α) ls cut D d :=
  settled_here _ _ (fun _ => rfl) (fun _ _ _ _ _ => rfl) (by rintro _ ⟨⟩; exact h)

/-- Opening and closing levels does not move. -/
lemma settled_modify (g : ℕ → ℕ) :
    Settled (modify fun p => { p with depth := g p.depth } : Parse Unit) ls cut D d :=
  settled_here _ _ (fun _ => rfl) (fun _ _ _ _ _ => rfl) (by simp)

lemma settled_skip : Settled skip ls cut D d := by
  cases ls with
  | nil =>
      refine ⟨.ok (), [], d, ?_, List.suffix_rfl, by simp, by simp⟩
      cases cut <;> rfl
  | cons l ls =>
      refine ⟨.ok (), ls, d, congrArg (Prod.mk _) (shifted_facing l ls), List.suffix_cons l ls,
        by simp, ?_⟩
      rintro ks l' ns hls rfl ns' cut'
      obtain rfl : [l] = ks := List.append_cancel_right hls
      exact congrArg (Prod.mk _) (shifted_facing l (l' :: ns'))

lemma Settled.bind {x : Parse α} {f : α → Parse β} (hx : Settled x ls cut D d)
    (hf : ∀ a ms d', Settled (f a) ms cut D d') : Settled (x >>= f) ls cut D d := by
  obtain ⟨error | a, ms, d', hms⟩ := hx
  · refine ⟨.error error, ms, d', on_bind_of_error hms.on_facing f, hms.suffix, ?_, ?_⟩
    · rintro _ ⟨⟩
      exact hms.blames error rfl
    · intro ks l ns hls hns ns' cut'
      exact on_bind_of_error (hms.settled ks l ns hls hns ns' cut') f
  · obtain ⟨result, ks, d'', hks⟩ := hf a ms d'
    refine ⟨result, ks, d'', ?_, hks.suffix.trans hms.suffix, hks.blames, ?_⟩
    · rw [on_bind_of_ok hms.on_facing, hks.on_facing]
    · intro front l ns hls hns ns' cut'
      -- The first step stops at this lexeme too, or at one before it.
      obtain ⟨before, rfl⟩ := hks.suffix
      obtain ⟨first, hfirst⟩ := hms.suffix
      obtain rfl : first ++ before = front := by
        rw [← hfirst, hns, ← List.append_assoc] at hls
        exact List.append_cancel_right hls
      cases before with
      | nil =>
          have hstop := hms.settled first l ns (by rw [← hfirst, hns]; rfl) hns
          rw [List.append_nil, on_bind_of_ok (hstop ns' cut')]
          exact hks.settled [] l ns (by rw [hns]) hns ns' cut'
      | cons b before =>
          have hstop := hms.settled first b (before ++ ks) hfirst.symm rfl (before ++ l :: ns')
          rw [List.append_assoc, List.cons_append, on_bind_of_ok (hstop cut')]
          exact hks.settled (b :: before) l ns (by rw [hns]) hns ns' cut'

/-- The first lexeme in view is the same whatever follows the lexeme `l`. -/
lemma facing_eq (ks : List Lexeme) (l : Lexeme) (ns ns' : List Lexeme)
    (cut cut' : Option LexicalError) (D d : ℕ) :
    ∃ ahead rest errors, facing (ks ++ l :: ns') cut' D d
      = { facing (ks ++ l :: ns) cut D d with
          ahead := ahead, rest := rest, lexicalErrors := errors } := by
  cases ks <;> exact ⟨_, _, _, rfl⟩

/-- A step may look at the first lexeme and at the levels that are open. -/
lemma settled_get_bind {f : Parser → Parse β}
    (hview : ∀ p ahead rest errors,
      f { p with ahead := ahead, rest := rest, lexicalErrors := errors } = f p)
    (hf : Settled (f (facing ls cut D d)) ls cut D d) : Settled (get >>= f) ls cut D d := by
  obtain ⟨result, ms, d', hms⟩ := hf
  refine ⟨result, ms, d', hms.on_facing, hms.suffix, hms.blames, ?_⟩
  intro ks l ns hls hns ns' cut'
  obtain ⟨ahead, rest, errors, hfacing⟩ := facing_eq ks l ns ns' cut cut' D d
  rw [on_get_bind, hfacing, hview, ← hfacing, ← hls]
  exact hms.settled ks l ns hls hns ns' cut'

/-- A step that takes some lexemes first, and is then another one. -/
lemma Settled.after {x y : Parse α} (front ls : List Lexeme)
    (hstep : ∀ ms cut', ms.head? = ls.head? →
      on x (facing (front ++ ms) cut' D d) = on y (facing ms cut' D d))
    (hy : Settled y ls cut D d) : Settled x (front ++ ls) cut D d := by
  obtain ⟨result, ms, d', hms⟩ := hy
  refine ⟨result, ms, d', (hstep ls cut rfl).trans hms.on_facing,
    hms.suffix.trans (List.suffix_append front ls), hms.blames, ?_⟩
  intro ks l ns hls hns ns' cut'
  obtain ⟨back, rfl⟩ := hms.suffix
  obtain rfl : front ++ back = ks := by
    rw [hns, ← List.append_assoc] at hls
    exact List.append_cancel_right hls
  have hhead : (back ++ l :: ns').head? = (back ++ ms).head? := by
    rw [hns]
    cases back <;> rfl
  rw [List.append_assoc, hstep _ cut' hhead]
  exact hms.settled back l ns (by rw [hns]) hns ns' cut'

/-! ### Single tokens -/

lemma settled_failWanting (wanted : List Wanted) :
    Settled (failWanting wanted : Parse α) ls cut D d := by
  refine settled_get_bind (fun _ _ _ _ => rfl) ?_
  match ls with
  | [] => exact settled_fail .nothing
  | ⟨token, span⟩ :: ls =>
    simp only [facing_current, List.head?_cons]
    split
    · next h =>
      cases h
      exact settled_fail (.ending span ls)
    · next heof h =>
      cases h
      exact settled_fail (.token (l := ⟨token, span⟩) heof wanted ls)
    · next h => cases h

lemma settled_expect (t : Token) : Settled (expect t) ls cut D d := by
  refine settled_get_bind (fun _ _ _ _ => rfl) ?_
  split
  · split
    · exact settled_skip.bind fun _ _ _ => settled_pure _
    · exact settled_failWanting _
  · exact settled_failWanting _

lemma settled_expectEnd : Settled expectEnd ls cut D d := by
  refine settled_get_bind (fun _ _ _ _ => rfl) ?_
  split
  · exact settled_pure _
  · exact settled_failWanting _

lemma settled_tooDeep : Settled (tooDeep : Parse α) ls cut D d := by
  refine (settled_modify (· + 1)).bind fun _ _ _ => ?_
  exact settled_get_bind (fun _ _ _ _ => rfl) (settled_fail (.tooDeep _ _ _))

/-! ### Expressions -/

lemma settled_nested {first : Parse Formula} {more : ℕ → Formula → Parse Formula}
    (hfirst : ∀ ls d, Settled first ls cut D d)
    (hmore : ∀ t ls d, Settled (more 1 t) ls cut D d) : Settled (nested first more) ls cut D d :=
  (settled_modify (· + 1)).bind fun _ _ _ => (hfirst _ _).bind hmore

lemma settled_closing (levels : ℕ) (left : Formula) :
    Settled (do closeLevels levels; return left) ls cut D d :=
  (settled_modify (· - levels)).bind fun _ _ _ => settled_pure left

/-- A number looks two lexemes ahead, but at the second one only if it takes the first. -/
lemma settled_number (value : Literal) (span : Span) : Settled (number value span) ls cut D d := by
  by_cases hname : NoName ls
  · refine settled_here (.ok (.literal value span)) d (fun hnil => ?_)
      (fun l ns hls ns' cut' => ?_) (by simp)
    · exact number_on_alone value span (hnil ▸ hname)
    · exact number_on_alone value span fun l' hl' => hname l' (by rwa [hls])
  · simp only [NoName, not_forall, not_not] at hname
    obtain ⟨⟨_, nameSpan⟩, hl, name, rfl⟩ := hname
    obtain ⟨ms, rfl⟩ := List.head?_eq_some_iff.mp hl
    by_cases hs : name ≠ "e" ∨ NoInteger ms
    · refine ⟨_, ms, d, number_on_multiple value span nameSpan hs, List.suffix_cons _ ms,
        by simp, ?_⟩
      rintro ks l ns hls rfl ns' cut'
      obtain rfl : [⟨.ident name, nameSpan⟩] = ks := List.append_cancel_right hls
      exact number_on_multiple value span nameSpan hs
    · simp only [NoInteger, not_or, not_forall, not_not] at hs
      obtain ⟨rfl, ⟨_, exponentSpan⟩, hl', exponent, rfl⟩ := hs
      obtain ⟨ns, rfl⟩ := List.head?_eq_some_iff.mp hl'
      refine ⟨_, ns, d, number_on_standardForm value span nameSpan exponent exponentSpan,
        (List.suffix_cons _ ns).trans (List.suffix_cons _ _), by simp, ?_⟩
      rintro ks l ms hls rfl ns' cut'
      obtain rfl : [⟨.ident "e", nameSpan⟩, ⟨.int exponent, exponentSpan⟩] = ks :=
        List.append_cancel_right hls
      exact number_on_standardForm value span nameSpan exponent exponentSpan

lemma settled_operand {free : ℕ}
    (hsub : ∀ bound ls d, Settled (subexpression free bound) ls cut D d) :
    Settled (operand free) ls cut D d := by
  have hinner (ls : List Lexeme) (d : ℕ) : Settled (subexpression free .lowest) ls cut D d :=
    hsub .lowest ls d
  have hdiscard (t : Token) (ls : List Lexeme) (d : ℕ) :
      Settled (discard (expect t)) ls cut D d :=
    (settled_expect t).bind fun _ _ _ => settled_pure _
  rw [operand]
  refine settled_get_bind (fun _ _ _ _ => rfl) ?_
  split
  · exact settled_skip.bind fun _ _ _ => settled_number _ _
  · exact settled_skip.bind fun _ _ _ => settled_number _ _
  · exact settled_skip.bind fun _ _ _ => settled_pure _
  · refine settled_skip.bind fun _ _ _ => (hdiscard _ _ _).bind fun _ _ _ => ?_
    cases free <;>
      exact (hinner _ _).bind fun _ _ _ => (settled_expect _).bind fun _ _ _ => settled_pure _
  · refine settled_skip.bind fun _ _ _ => ?_
    cases free <;>
      exact (hinner _ _).bind fun _ _ _ => (hdiscard _ _ _).bind fun _ _ _ => settled_pure _
  · exact settled_failWanting _

lemma settled_chain {free : ℕ}
    (hsub : ∀ g ≤ free, ∀ bound ls d, Settled (subexpression g bound) ls cut D d)
    (bound : Precedence) (levels : ℕ) (left : Formula) :
    Settled (chain free bound levels left) ls cut D d := by
  induction free generalizing levels left ls d with
  | zero =>
      rw [chain]
      refine settled_get_bind (fun _ _ _ _ => rfl) ?_
      split
      · split
        · exact settled_skip.bind fun _ _ _ => settled_tooDeep
        · exact settled_closing levels left
      · exact settled_closing levels left
  | succ free ih =>
      rw [chain]
      refine settled_get_bind (fun _ _ _ _ => rfl) ?_
      split
      · split
        · refine settled_skip.bind fun _ _ _ => (hsub _ le_rfl _ _ _).bind fun _ _ _ => ?_
          refine (settled_modify (· + 1)).bind fun _ _ _ => ?_
          exact ih (fun g hg => hsub g (Nat.le_succ_of_le hg)) _ _
        · exact settled_closing levels left
      · exact settled_closing levels left

lemma settled_subexpression (free : ℕ) (bound : Precedence) :
    Settled (subexpression free bound) ls cut D d := by
  induction free using Nat.strong_induction_on generalizing bound ls d with
  | _ free ih =>
    cases free with
    | zero => exact settled_tooDeep
    | succ free =>
        have hsub : ∀ g ≤ free, ∀ bound ls d, Settled (subexpression g bound) ls cut D d :=
          fun g hg bound ls d => ih g (Nat.lt_succ_of_le hg) bound
        exact settled_nested (fun _ _ => settled_operand (hsub free le_rfl))
          fun t _ _ => settled_chain hsub bound 1 t

lemma settled_expression (bound : Precedence) : Settled (expression bound) ls cut D d := by
  rw [expression_eq]
  exact settled_get_bind (fun _ _ _ _ => rfl) (settled_subexpression _ bound)

/-! ### Lines -/

/-- What may follow the first expression of a line. -/
def comparedTo (left : Formula) : Parse Formula := do
  match (← get).comparisonSign? with
  | none => return left
  | some (op, _) =>
    skip
    let right ← expression .lowest
    match (← get).comparisonSign? with
    | some (_, span) => fail .chainedComparison span
    | none => return .combine op left right

lemma settled_comparedTo (left : Formula) : Settled (comparedTo left) ls cut D d := by
  refine settled_get_bind (fun _ _ _ _ => rfl) ?_
  split
  · exact settled_pure _
  · refine settled_skip.bind fun _ _ _ => (settled_expression .lowest).bind fun _ _ _ => ?_
    refine settled_get_bind (fun _ _ _ _ => rfl) ?_
    split
    · next h =>
      obtain ⟨hop, ns, rfl⟩ := comparisonSign?_facing.mp h
      exact settled_fail (.chained hop _ ns)
    · exact settled_pure _

lemma settled_comparison : Settled comparison ls cut D d :=
  (settled_expression .lowest).bind fun left _ _ => settled_comparedTo left

/-- A comparison that starts with a name goes on behind it, unless the limit is hit before. -/
lemma comparison_on_name {free : ℕ} (hfree : D - d = free + 1) (name : String) (span : Span)
    (ls : List Lexeme) :
    on comparison (facing (⟨.ident name, span⟩ :: ls) cut D d)
      = on (nested (pure (.var name span)) (chain free .lowest) >>= comparedTo)
          (facing ls cut D d) := by
  have hname : on (expression .lowest) (facing (⟨.ident name, span⟩ :: ls) cut D d)
      = on (nested (pure (.var name span)) (chain free .lowest)) (facing ls cut D d) := by
    rw [expression_on, hfree, subexpression_succ_on,
      on_bind_of_ok (operand_on_name free name span ls)]
    rfl
  show on (expression .lowest >>= comparedTo) _ = _
  rw [on_bind, on_bind, hname]

/-- A comparison, and the end of the line. -/
lemma settled_statement {x : Parse Formula} (hx : Settled x ls cut D d) (f : Formula → Formula) :
    Settled (do
      let tree ← x
      expectEnd
      return f tree) ls cut D d :=
  hx.bind fun _ _ _ => settled_expectEnd.bind fun _ _ _ => settled_pure _

/-- The second lexeme of a line matters only behind a name, which does not wait for it where no
value is assigned. -/
lemma settled_line_on_name {name : String} {span : Span} {ms : List Lexeme}
    (hsign : ∀ sign ns, ms ≠ ⟨.assign, sign⟩ :: ns)
    (hlimit : ¬ HitsLimit (on line (facing (⟨.ident name, span⟩ :: ms) cut D d)).1) :
    Settled line (⟨.ident name, span⟩ :: ms) cut D d := by
  have hline (ms' : List Lexeme) (cut' : Option LexicalError) (hhead : ms'.head? = ms.head?) :
      on line (facing (⟨.ident name, span⟩ :: ms') cut' D d)
        = on (do
            let tree ← comparison
            expectEnd
            return tree) (facing (⟨.ident name, span⟩ :: ms') cut' D d) := by
    refine line_on_comparison (by simp) ?_
    rintro _ _ sign ns ⟨⟩
    obtain ⟨ns', rfl⟩ := List.head?_eq_some_iff.mp hhead.symm
    exact hsign sign ns' rfl
  cases hfree : D - d with
  | zero =>
      have hdeep : on (expression .lowest) (facing (⟨.ident name, span⟩ :: ms) cut D d)
          = on tooDeep (facing (⟨.ident name, span⟩ :: ms) cut D d) := by
        rw [expression_on, hfree, subexpression]
      have hcomparison := on_bind_of_error (hdeep.trans (on_tooDeep _)) comparedTo
      rw [hline ms cut rfl] at hlimit
      exact absurd
        ⟨D, span, congrArg Prod.fst (on_bind_of_error (x := comparison) hcomparison _)⟩ hlimit
  | succ free =>
      refine Settled.after [⟨.ident name, span⟩] ms (fun ms' cut' hhead => ?_)
        (settled_statement (x := nested (pure (.var name span)) (chain free .lowest)
          >>= comparedTo) ?_ fun tree => tree)
      · rw [List.singleton_append, hline ms' cut' hhead, on_bind, comparison_on_name hfree,
          ← on_bind]
      · refine (settled_nested (fun _ _ => settled_pure _) fun t _ _ => ?_).bind
          fun left _ _ => settled_comparedTo left
        exact settled_chain (fun g _ bound _ _ => settled_subexpression g bound) _ _ t

/-- **A line stops at a lexeme**, whatever follows it, unless the limit is hit. -/
lemma settled_line (hlimit : ¬ HitsLimit (on line (facing ls cut D d)).1) :
    Settled line ls cut D d := by
  obtain ⟨ending, ms, rfl⟩ | ⟨name, span, sign, ms, rfl⟩ | ⟨hend, hassign⟩ := line_cases ls
  · refine Settled.after [] _ (fun ms' cut' hhead => ?_) (settled_pure .empty)
    obtain ⟨ns, rfl⟩ := List.head?_eq_some_iff.mp hhead
    exact line_on_blank ending ns
  · exact Settled.after [⟨.ident name, span⟩, ⟨.assign, sign⟩] ms
      (fun ms' _ _ => line_on_assignment name span sign ms')
      (settled_statement settled_comparison fun value =>
        .assign name value ⟨span.start, value.span.stop⟩)
  · by_cases hname : ∃ name span ms, ls = ⟨.ident name, span⟩ :: ms
    · obtain ⟨name, span, ms, rfl⟩ := hname
      refine settled_line_on_name ?_ hlimit
      rintro sign ns rfl
      exact hassign name span sign ns rfl
    · refine Settled.after [] _ (fun ms' cut' hhead => ?_)
        (settled_statement settled_comparison fun tree => tree)
      refine line_on_comparison (hhead ▸ hend) ?_
      rintro name span sign ns rfl
      obtain ⟨ns', rfl⟩ := List.head?_eq_some_iff.mp hhead.symm
      exact hname ⟨name, span, ns', rfl⟩

end Parser

end Reckoner
