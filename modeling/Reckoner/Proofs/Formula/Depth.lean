import Reckoner.Proofs.Formula.Height

/-!
The levels that are free bound what an expression gives.

An expression can be read in any state of the parser. It closes all the levels that it opens, and
its tree is as high as a tree can be that is read in the levels that are free.

* `Parser.gives_number`, `Parser.gives_operand`, `Parser.gives_chain`: how high the parts of an
  expression are, and how many levels they leave open;
* `Parser.gives_subexpression`: an expression in a number of levels;
* `height_within_limit`: how high the trees of lines get, and of expressions anywhere.
-/

namespace Reckoner

namespace Parser

open Step Parse

/-! ### Levels, failures and numbers -/

@[simp] lemma depth_shifted (p : Parser) : p.shifted.depth = p.depth := by
  rw [shifted]
  split <;> rfl

lemma gives_skip : Gives (fun _ => True) depth id skip := gives_modify depth_shifted

lemma gives_openLevel : Gives (fun _ => True) depth (· + 1) openLevel := gives_modify fun _ => rfl

lemma gives_closeLevels (levels : ℕ) :
    Gives (fun _ => True) depth (· - levels) (closeLevels levels) := gives_modify fun _ => rfl

section Failures

variable {α : Type} {P : α → Prop} {g : ℕ → ℕ}

lemma gives_fail (cause : ParseCause) (span : Span) :
    Gives P depth g (fail cause span : Parse α) := gives_throw _

lemma gives_failWanting (wanted : List Wanted) :
    Gives P depth g (failWanting wanted : Parse α) := by
  refine gives_get_bind fun p => ?_
  split <;> exact gives_fail _ _

/-- A level past the limit stays open, but only where an expression fails. -/
lemma gives_tooDeep : Gives P depth g (tooDeep : Parse α) := by
  rintro p a q ⟨⟩

end Failures

lemma gives_expect (t : Token) : Gives (fun _ => True) depth id (expect t) := by
  refine gives_get_bind fun p => ?_
  split
  · split
    · exact gives_skip.then fun _ _ => gives_pure trivial
    · exact gives_failWanting _
  · exact gives_failWanting _

/-- Standard form is the highest that follows from a number. -/
lemma gives_number (value : Literal) (span : Span) :
    Gives (fun t => t.height ≤ 3) depth id (number value span) := by
  refine gives_get_bind fun p => ?_
  split
  · refine gives_skip.then fun _ _ => gives_skip.then fun _ _ => ?_
    exact gives_pure (by simp [Formula.height])
  · exact gives_skip.then fun _ _ => gives_pure (by simp [Formula.height])
  · exact gives_pure (by simp [Formula.height])

/-! ### Expressions -/

/-- In `free` levels expressions are read that are as high as `triangle`, and that leave as many
levels open as there were before them. -/
def Bounded (free : ℕ) : Prop :=
  ∀ bound, Gives (fun t => t.height ≤ triangle free + 2) depth id (subexpression free bound)

/-- A function adds one to the height of its argument, and a group nothing. Neither opens a level
itself. -/
lemma gives_operand {free : ℕ} (hsub : Bounded free) :
    Gives (fun t => t.height ≤ triangle free + 3) depth id (operand free) := by
  have hinner : Gives (fun t => t.height ≤ triangle free + 2) depth id
      (subexpression free .lowest) := hsub .lowest
  have hnumber (value : Literal) (span : Span) :
      Gives (fun t => t.height ≤ triangle free + 3) depth id (number value span) :=
    (gives_number value span).imp fun _ ht => ht.trans (Nat.le_add_left 3 _)
  rw [operand]
  refine gives_get_bind fun p => ?_
  split
  · exact gives_skip.then fun _ _ => hnumber _ _
  · exact gives_skip.then fun _ _ => hnumber _ _
  · exact gives_skip.then fun _ _ => gives_pure (by simp [Formula.height])
  · refine gives_skip.then fun _ _ => ?_
    rw [discard_bind]
    refine (gives_expect _).then fun _ _ => ?_
    cases free <;>
      exact hinner.then fun _ ht => (gives_expect _).then fun _ _ =>
        gives_pure (Nat.succ_le_succ ht)
  · refine gives_skip.then fun _ _ => ?_
    simp only [discard_bind]
    cases free <;>
      exact hinner.then fun _ ht => (gives_expect _).then fun _ _ =>
        gives_pure (Nat.le_succ_of_le ht)
  · exact gives_failWanting _

/-- **Each fold adds one to the height, and opens one level**, and there are no more folds than
levels that are free. In the end the levels are closed that are open for the operand in front. -/
lemma gives_chain {free : ℕ} (hsub : ∀ g ≤ free, Bounded g) (bound : Precedence)
    (levels : ℕ) (left : Formula) :
    Gives (fun t => t.height ≤ max left.height (triangle free + 2) + free) depth (· - levels)
      (chain free bound levels left) := by
  have hclosed {P : Formula → Prop} {levels : ℕ} {left : Formula} (hleft : P left) :
      Gives P depth (· - levels) (do closeLevels levels; return left) :=
    (gives_closeLevels levels).bind (fun _ _ => gives_pure hleft) fun _ => rfl
  induction free generalizing levels left with
  | zero =>
      have hleft : left.height ≤ max left.height (triangle 0 + 2) + 0 := le_max_left _ _
      rw [chain]
      refine gives_get_bind fun p => ?_
      split
      · split
        · exact gives_skip.then fun _ _ => gives_tooDeep
        · exact hclosed hleft
      · exact hclosed hleft
  | succ free ih =>
      have hleft : left.height ≤ max left.height (triangle (free + 1) + 2) + (free + 1) :=
        (le_max_left _ _).trans (Nat.le_add_right _ _)
      rw [chain]
      refine gives_get_bind fun p => ?_
      split
      · next op span hop =>
        split
        · refine gives_skip.then fun _ _ => (hsub _ le_rfl _).then fun right hright => ?_
          have hfold := ih (fun g hg => hsub g (Nat.le_succ_of_le hg)) (levels + 1)
            (.combine op left right)
          -- the fold opens one level, and the rest of the chain closes one more
          refine gives_openLevel.bind (fun _ _ => hfold.imp fun t ht => ?_)
            fun d => Nat.add_sub_add_right d 1 levels
          have htriangle : triangle free ≤ triangle (free + 1) := triangle_mono free.le_succ
          rw [Formula.height_combine] at ht
          omega
        · exact hclosed hleft
      · exact hclosed hleft

/-- **An expression closes all the levels that it opens**, the one of its first operand and those
of its folds, and the levels bound its height. -/
lemma gives_subexpression (free : ℕ) : Bounded free := by
  induction free using Nat.strong_induction_on with
  | _ free ih =>
    intro bound
    cases free with
    | zero => exact gives_tooDeep
    | succ free =>
        have hsub : ∀ g ≤ free, Bounded g := fun g hg => ih g (Nat.lt_succ_of_le hg)
        have hmore (left : Formula) (hleft : left.height ≤ triangle free + 3) :
            Gives (fun t => t.height ≤ triangle (free + 1) + 2) depth (· - 1)
              (chain free bound 1 left) := by
          refine (gives_chain hsub bound 1 left).imp fun t ht => ?_
          have htriangle := triangle_succ free
          omega
        exact gives_openLevel.bind (fun _ _ => (gives_operand (hsub free le_rfl)).then hmore)
          fun d => Nat.add_sub_cancel d 1

end Parser

open Reckoner.Parser Reckoner.Step

/-- **How high trees get**, exactly: under a limit that allows an expression at all, the highest
tree of a line has the sum of the levels and four more nodes on its longest way. Wherever an
expression is read, it leaves the levels as they are, and stays two nodes lower than that for the
levels that are free. -/
theorem height_within_limit :
    (∀ D ≥ 1, IsGreatest {n | ∃ src t, parse src D = .ok t ∧ t.height = n}
      (D * (D + 1) / 2 + 4))
    ∧ ∀ bound p t q, on (expression bound) p = (.ok t, q) →
        q.depth = p.depth
          ∧ t.height ≤ (p.maxDepth - p.depth) * (p.maxDepth - p.depth + 1) / 2 + 2 := by
  refine ⟨fun D hD => ⟨?_, ?_⟩, fun bound p t q h => ?_⟩
  · obtain ⟨n, rfl⟩ : ∃ n, D = n + 1 := ⟨D - 1, by omega⟩
    exact exists_parse_height n
  · rintro n ⟨src, t, ht, rfl⟩
    exact height_le_of_parse ht
  · rw [expression_eq, on_get_bind] at h
    exact (gives_subexpression p.freeLevels bound p t q h).symm

/-- A number in standard form is as high as an expression can be in one level. -/
theorem height_within_limit_standardForm :
    (1 ≤ 1 ∧ IsGreatest {n | ∃ src t, parse src 1 = .ok t ∧ t.height = n} 5)
    ∧ ∃ t q, on (expression .lowest) (ofItems (Lexer.items "1e2") 1) = (.ok t, q)
        ∧ q.depth = 0 ∧ t.height = 3 ∧ t.height ≤ 3 := by
  refine ⟨⟨le_rfl, height_within_limit.1 1 le_rfl⟩, ?_⟩
  have hstart : ofItems (Lexer.items "1e2") 1
      = ⟨some ⟨.int 1, ⟨0, 1⟩⟩, some ⟨.ident "e", ⟨1, 2⟩⟩,
          [.ok ⟨.int 2, ⟨2, 3⟩⟩, .ok ⟨.eof, .point 3⟩], [], 1, 0⟩ := by
    cbv
  have h : on (expression .lowest) (ofItems (Lexer.items "1e2") 1)
      = (.ok (.combine .mul (.literal (.int 1) ⟨0, 1⟩)
          (.combine .pow (.literal (.int 10) ⟨1, 2⟩) (.literal (.int 2) ⟨2, 3⟩))),
        ⟨some ⟨.eof, .point 3⟩, none, [], [], 1, 0⟩) := by
    rw [hstart]
    cbv
  obtain ⟨hdepth, hle⟩ := height_within_limit.2 _ _ _ _ h
  rw [hstart] at hdepth hle
  exact ⟨_, _, h, hdepth, rfl, hle⟩

end Reckoner
