import Reckoner.Proofs.Formula.Sentences
import Reckoner.Proofs.Formula.Alike
import Reckoner.Proofs.Token.Spaced

/-!
How high a tree can get within the nesting limit.

Every group opens one level, and so does every fold; but the levels of a group are closed
before the folds around it open theirs. A tree can therefore pass through the folds of each
of the groups it is nested in, and gets as high as `triangle` of the limit.

* `Formula.height`: the nodes on the longest way from the root to a leaf;
* `Phrase.height_le`, `height_le_of_parse`: how high trees get;
* `Phrase.deepest`, `exists_parse_height`: that they get as high;
* `height_le_limit_iff`: the limits that bound heights by themselves.
-/

namespace Reckoner

/-- The number of nodes on the longest way from the root of a tree to a leaf. -/
def Formula.height : Formula → ℕ
  | literal _ _ | var _ _ | empty => 1
  | binary _ left right _ => max left.height right.height + 1
  | call _ argument _ => argument.height + 1
  | assign _ value _ => value.height + 1

lemma Formula.height_pos (t : Formula) : 0 < t.height := by
  cases t <;> simp [height]

@[simp] lemma Formula.height_combine (op : Operator) (left right : Formula) :
    (combine op left right).height = max left.height right.height + 1 := rfl

@[simp] lemma Formula.height_bare (t : Formula) : t.bare.height = t.height := by
  induction t with
  | binary op left right span ihl ihr => simp [bare, height, ihl, ihr]
  | call f argument span ih | assign name argument span ih => simp [bare, height, ih]
  | _ => rfl

/-- The sum of the numbers up to `n`. -/
def triangle (n : ℕ) : ℕ := n * (n + 1) / 2

lemma triangle_succ (n : ℕ) : triangle (n + 1) = triangle n + (n + 1) := by
  rw [triangle, triangle, show (n + 1) * (n + 1 + 1) = n * (n + 1) + (n + 1) * 2 by ring,
    Nat.add_mul_div_right _ _ (by decide)]

lemma triangle_mono {m n : ℕ} (h : m ≤ n) : triangle m ≤ triangle n := by
  induction h with
  | refl => rfl
  | step _ ih => exact ih.trans (by rw [triangle_succ]; omega)

/-! ### How high trees get -/

/-- The tree of a phrase of `n + 1` levels is as high as one of `n` levels can be, and then
higher by its folds. -/
lemma Phrase.height_le {p : Phrase} {n : ℕ} (h : p.levels ≤ n + 1) :
    p.tree.height ≤ triangle n + 3 + p.folds := by
  induction p generalizing n with
  | call f span opening argument closing ih | group opening argument closing ih =>
      -- All levels within are closed again, folds included.
      obtain ⟨m, rfl⟩ : ∃ m, n = m + 1 :=
        ⟨n - 1, by have := argument.levels_pos; simp only [levels] at h; omega⟩
      have hm : argument.levels ≤ m + 1 := Nat.le_of_succ_le_succ h
      have hheight := ih hm
      have hfolds := argument.folds_lt_levels
      have htriangle := triangle_succ m
      simp only [tree, Formula.height, folds]
      omega
  | operation op span left right ihl ihr =>
      obtain ⟨hleft, hright⟩ := max_le_iff.mp h
      obtain ⟨m, hm⟩ : ∃ m, right.levels = m + 1 :=
        ⟨right.levels - 1, by have := right.levels_pos; omega⟩
      have hl := ihl hleft
      have hr := ihr hm.le
      have hfolds := right.folds_lt_levels
      -- The right operand has fewer levels than the whole.
      have htriangle : triangle (m + 1) ≤ triangle n := triangle_mono (by omega)
      rw [triangle_succ] at htriangle
      simp only [tree, Formula.height_combine, folds]
      omega
  | _ => simp [tree, Formula.height, Formula.combine, folds]

lemma Phrase.height_le_triangle {p : Phrase} {n : ℕ} (h : p.levels ≤ n) :
    p.tree.height ≤ triangle n + 2 := by
  obtain ⟨m, rfl⟩ : ∃ m, n = m + 1 := ⟨n - 1, by have := p.levels_pos; omega⟩
  have hheight := Phrase.height_le h
  have hfolds := p.folds_lt_levels
  rw [triangle_succ]
  omega

lemma Clause.height_le_triangle {c : Clause} {n : ℕ} (h : c.levels ≤ n) :
    c.tree.height ≤ triangle n + 3 := by
  cases c with
  | expression p => exact (Phrase.height_le_triangle h).trans (Nat.le_succ _)
  | comparison op span left right =>
      obtain ⟨hleft, hright⟩ := max_le_iff.mp h
      have hl := Phrase.height_le_triangle hleft
      have hr := Phrase.height_le_triangle hright
      simp only [tree, Formula.height_combine]
      omega

/-- **How high trees get**: as high as a comparison of the highest expressions, assigned to
a name. -/
theorem height_le_of_parse {src : String} {D : ℕ} {t : Formula} (h : parse src D = .ok t) :
    t.height ≤ triangle D + 4 := by
  obtain ⟨s, -, hlevels, -, rfl⟩ := parse_ok_iff.mp h
  cases s with
  | blank ending => simp [Sentence.tree, Formula.height]
  | statement c ending => exact (Clause.height_le_triangle hlevels).trans (Nat.le_succ _)
  | assignment name span sign c ending =>
      exact Nat.succ_le_succ (Clause.height_le_triangle hlevels)

/-! ### Trees as high as that -/

namespace Phrase

/-- A phrase to which one is added `k` times. -/
def plusOnes (p : Phrase) : ℕ → Phrase
  | 0 => p
  | k + 1 => operation .add .origin (p.plusOnes k) (number (.int 1) .origin)

/-- A phrase of `n + 1` levels whose tree is as high as such a tree can be: within each
level as many ones are added as the level leaves room for. -/
def deepest : ℕ → Phrase
  | 0 => standardForm (.int 1) .origin .origin 1 .origin
  | n + 1 => (call .sqrt .origin .origin (deepest n) .origin).plusOnes (n + 1)

variable {p : Phrase}

lemma folds_plusOnes (k : ℕ) : (p.plusOnes k).folds = p.folds + k := by
  induction k with
  | zero => rfl
  | succ k ih => simp only [plusOnes, folds, ih]; omega

lemma levels_plusOnes (k : ℕ) : (p.plusOnes k).levels = max p.levels (p.folds + k + 1) := by
  induction k with
  | zero =>
      have := p.folds_lt_levels
      simp only [plusOnes]
      omega
  | succ k ih =>
      simp only [plusOnes, levels, ih, folds_plusOnes]
      omega

lemma height_plusOnes (k : ℕ) : (p.plusOnes k).tree.height = p.tree.height + k := by
  induction k with
  | zero => rfl
  | succ k ih =>
      have := p.tree.height_pos
      simp only [plusOnes, tree, Formula.height_combine, ih, Formula.height]
      omega

lemma layered_plusOnes (hp : p.Layered) (k : ℕ) : (p.plusOnes k).Layered := by
  induction k with
  | zero => exact hp
  | succ k ih => exact ⟨Nat.one_pos, ih, trivial, rank_pos ih, by decide⟩

lemma layered_deepest (n : ℕ) : (deepest n).Layered := by
  induction n with
  | zero => trivial
  | succ n ih =>
      have hcall : (call .sqrt .origin .origin (deepest n) .origin).Layered := ih
      exact layered_plusOnes hcall (n + 1)

lemma levels_deepest (n : ℕ) : (deepest n).levels = n + 1 := by
  induction n with
  | zero => rfl
  | succ n ih =>
      simp only [deepest, levels_plusOnes, levels, folds, ih]
      omega

lemma height_deepest (n : ℕ) : (deepest n).tree.height = triangle (n + 1) + 2 := by
  induction n with
  | zero => rfl
  | succ n ih =>
      rw [deepest, height_plusOnes, tree, Formula.height, ih, triangle_succ (n + 1)]
      omega

open Lexer

lemma readsBack_plusOnes (hp : ∀ t ∈ tokensOf p.lexemes, ReadsBack t) (k : ℕ) :
    ∀ t ∈ tokensOf (p.plusOnes k).lexemes, ReadsBack t := by
  induction k with
  | zero => exact hp
  | succ k ih =>
      simp only [plusOnes, lexemes, tokensOf_append, tokensOf_cons, tokensOf_nil,
        List.forall_mem_append, List.forall_mem_cons]
      exact ⟨ih, readsBack_sign trivial, readsBack_int 1, by simp⟩

lemma readsBack_deepest (n : ℕ) : ∀ t ∈ tokensOf (deepest n).lexemes, ReadsBack t := by
  induction n with
  | zero =>
      simp only [deepest, lexemes, tokensOf_cons, tokensOf_nil, List.forall_mem_cons]
      exact ⟨readsBack_int 1, readsBack_ident (by decide), readsBack_int 1, by simp⟩
  | succ n ih =>
      refine readsBack_plusOnes ?_ (n + 1)
      simp only [lexemes, tokensOf_append, tokensOf_cons, tokensOf_nil,
        List.forall_mem_append, List.forall_mem_cons]
      exact ⟨readsBack_function .sqrt, readsBack_sign trivial, ih, readsBack_sign trivial,
        by simp⟩

end Phrase

/-- A line of `n + 1` levels whose tree is as high as that of such a line can be. -/
def Sentence.deepest (n : ℕ) : Sentence :=
  .assignment "x" .origin .origin
    (.comparison .equal .origin (.deepest n) (.number (.int 1) .origin)) .origin

namespace Sentence

lemma layered_deepest (n : ℕ) : (deepest n).Layered :=
  ⟨rfl, Phrase.layered_deepest n, trivial⟩

lemma levels_deepest (n : ℕ) : (deepest n).levels = n + 1 := by
  simp only [deepest, levels, Clause.levels, Phrase.levels_deepest, Phrase.levels]
  omega

lemma height_deepest (n : ℕ) : (deepest n).tree.height = triangle (n + 1) + 4 := by
  simp only [deepest, tree, Formula.height, Clause.tree, Formula.height_combine,
    Phrase.height_deepest, Phrase.tree]
  omega

open Lexer

/-- The tokens of the line, without the end of the input, are read back. -/
lemma readsBack_deepest (n : ℕ) :
    ∃ ts, tokensOf (deepest n).lexemes = ts ++ [.eof] ∧ ∀ t ∈ ts, ReadsBack t := by
  refine ⟨.ident "x" :: .assign
    :: (tokensOf (Phrase.deepest n).lexemes ++ [.operator .equal, .int 1]), ?_, ?_⟩
  · simp [deepest, lexemes, Clause.lexemes, Phrase.lexemes, Literal.token]
  · simp only [List.forall_mem_append, List.forall_mem_cons]
    exact ⟨readsBack_ident (by decide), readsBack_sign trivial, Phrase.readsBack_deepest n,
      readsBack_sign trivial, readsBack_int 1, by simp⟩

end Sentence

/-- **Trees get as high as they can** at every limit that allows an expression at all. -/
theorem exists_parse_height (n : ℕ) :
    ∃ src t, parse src (n + 1) = .ok t ∧ t.height = triangle (n + 1) + 4 := by
  obtain ⟨ts, htokens, hts⟩ := Sentence.readsBack_deepest n
  obtain ⟨ls, hls, hts⟩ := Lexer.tokenize_spaced hts
  obtain ⟨s, rfl, hlayered, hlevels, hbare⟩ :=
    (Sentence.deepest n).exists_of_tokens (hts.trans htokens.symm)
  refine ⟨_, s.tree, parse_ok_iff.mpr
    ⟨s, hlayered (Sentence.layered_deepest n), ?_, hls, rfl⟩, ?_⟩
  · rw [hlevels, Sentence.levels_deepest]
  · rw [← Formula.height_bare, hbare, Formula.height_bare, Sentence.height_deepest]

/-! ### Limits and heights -/

/-- **Which limits bound the height of trees** by themselves and the four levels that
standard form, comparison and assignment add: only those that leave no room for an
expression within an expression. -/
theorem height_le_limit_iff (D : ℕ) :
    (∀ src t, parse src D = .ok t → t.height ≤ D + 4) ↔ D ≤ 1 := by
  constructor
  · intro h
    by_contra hD
    obtain ⟨n, rfl⟩ : ∃ n, D = n + 1 + 1 := ⟨D - 2, by omega⟩
    obtain ⟨src, t, ht, hheight⟩ := exists_parse_height (n + 1)
    have hle := h src t ht
    rw [hheight, triangle_succ, triangle_succ] at hle
    omega
  · intro hD src t ht
    have hheight := height_le_of_parse ht
    have htriangle : triangle D ≤ D := by
      obtain rfl | rfl : D = 0 ∨ D = 1 := by omega
      · rfl
      · rfl
    omega

end Reckoner
