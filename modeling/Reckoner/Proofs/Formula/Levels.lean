import Reckoner.Proofs.Formula.Reading

/-!
How far the levels of nesting reach.

A layered phrase is read where as many levels are free as it needs, and fails at the limit
where fewer are. Whatever the lexemes, the limit is not hit while more levels are free than
lexemes are left.

* `Follows`: what can stand after a phrase;
* `Parser.takesIn`, `Parser.subexpression_on`: enough levels;
* `Parser.runsOut`, `Parser.subexpression_tooDeep`: too few of them;
* `HitsLimit`, `Parser.subexpression_shallow`: more levels than lexemes.
-/

namespace Reckoner

/-- A result is the failure at the limit. -/
def HitsLimit {α : Type} (r : Except ParseError α) : Prop :=
  ∃ limit span, r = .error ⟨.nestingTooDeep limit, span⟩

namespace Parser

open Step Parse

variable {cut : Option LexicalError} {D d : ℕ} {ls : List Lexeme}

/-! ### How a phrase is read -/

/-- What can stand after a phrase whose operators bind at least as tightly as rank `n`. -/
structure Follows (n : ℕ) (ls : List Lexeme) : Prop where
  loose : Loose n ls
  noName : NoName ls
  noInteger : NoInteger ls

lemma Follows.mono {m n : ℕ} (h : Follows m ls) (hmn : m ≤ n) : Follows n ls :=
  ⟨fun l hl => (h.loose l hl).trans hmn, h.noName, h.noInteger⟩

lemma follows_operator {n : ℕ} {op : Operator} (span : Span) (ls : List Lexeme)
    (h : op.precedence.rank ≤ n) : Follows n (⟨.operator op, span⟩ :: ls) :=
  ⟨by rintro l ⟨⟩; exact h, by rintro l ⟨⟩; simp, by rintro l ⟨⟩; simp⟩

lemma follows_rparen (n : ℕ) (span : Span) (ls : List Lexeme) :
    Follows n (⟨.rparen, span⟩ :: ls) :=
  ⟨by rintro l ⟨⟩; exact Nat.zero_le n, by rintro l ⟨⟩; simp, by rintro l ⟨⟩; simp⟩

/-- An operand and the operators after it take in the phrase `p`, and go on with its tree
where the levels of its folds are open. -/
def TakesIn (cut : Option LexicalError) (D : ℕ) (p : Phrase) : Prop :=
  ∀ (free levels : ℕ) (bound : Precedence) (ls : List Lexeme) (d : ℕ), bound.rank < p.rank →
    Follows p.rank ls → p.levels ≤ free + 1 →
    on (operand free >>= chain free bound levels) (facing (p.lexemes ++ ls) cut D d)
      = on (chain (free - p.folds) bound (levels + p.folds) p.tree)
          (facing ls cut D (d + p.folds))

lemma subexpression_on {p : Phrase} {free : ℕ} (bound : Precedence) (hp : TakesIn cut D p)
    (hlevels : p.levels ≤ free) (hb : bound.rank < p.rank) (hls : Follows bound.rank ls) :
    on (subexpression free bound) (facing (p.lexemes ++ ls) cut D d)
      = (.ok p.tree, facing ls cut D d) := by
  obtain ⟨free, rfl⟩ : ∃ f, free = f + 1 := ⟨free - 1, by have := p.levels_pos; omega⟩
  have hclosed : d + 1 + p.folds - (1 + p.folds) = d := by omega
  rw [subexpression_succ_on, hp free 1 bound ls (d + 1) hb (hls.mono hb.le) hlevels,
    chain_on_loose _ _ _ hls.loose, hclosed]

/-- **A phrase is taken in** where as many levels are free as it needs. -/
theorem takesIn {p : Phrase} (hp : p.Layered) : TakesIn cut D p := by
  induction p with
  | number value span =>
      intro free levels bound ls d hb hls hlevels
      refine on_bind_of_ok ?_ _
      rw [Phrase.lexemes, List.singleton_append, operand_on_number,
        number_on_alone value span hls.noName]
      rfl
  | standardForm value span eSpan exponent exponentSpan =>
      intro free levels bound ls d hb hls hlevels
      refine on_bind_of_ok ?_ _
      simp only [Phrase.lexemes, List.cons_append, List.nil_append]
      rw [operand_on_number, number_on_standardForm]
      rfl
  | multiple value span name nameSpan =>
      intro free levels bound ls d hb hls hlevels
      refine on_bind_of_ok ?_ _
      simp only [Phrase.lexemes, List.cons_append, List.nil_append]
      rw [operand_on_number, number_on_multiple value span nameSpan (.inr hls.noInteger)]
      rfl
  | named name span =>
      intro free levels bound ls d hb hls hlevels
      refine on_bind_of_ok ?_ _
      rw [Phrase.lexemes, List.singleton_append, operand_on_name]
      rfl
  | call f span opening argument closing ih =>
      intro free levels bound ls d hb hls hlevels
      refine on_bind_of_ok ?_ _
      simp only [Phrase.lexemes, List.cons_append, List.append_assoc, List.nil_append]
      rw [operand_on_function, on_bind_of_ok (expect_on (by simp) _ _),
        on_bind_of_ok (subexpression_on .lowest (ih hp) (Nat.le_of_succ_le_succ hlevels)
          (Phrase.rank_pos (p := argument) hp) (follows_rparen _ _ _)),
        on_bind_of_ok (expect_on (by simp) _ _)]
      rfl
  | group opening inner closing ih =>
      intro free levels bound ls d hb hls hlevels
      refine on_bind_of_ok ?_ _
      simp only [Phrase.lexemes, List.cons_append, List.append_assoc, List.nil_append]
      rw [operand_on_lparen, on_bind_of_ok (subexpression_on .lowest (ih hp)
          (Nat.le_of_succ_le_succ hlevels) (Phrase.rank_pos (p := inner) hp)
          (follows_rparen _ _ _)),
        on_bind_of_ok (expect_on (by simp) _ _)]
      rfl
  | operation op span left right ihl ihr =>
      intro free levels bound ls d hb hls hlevels
      obtain ⟨hop, hl, hr, hleft, hright⟩ := hp
      simp only [Phrase.rank, Phrase.levels, max_le_iff] at hb hls hlevels
      simp only [Phrase.lexemes, List.append_assoc, List.cons_append]
      rw [ihl hl free levels bound _ d (by omega) (follows_operator span _ hleft) hlevels.1,
        chain_on_operator _ _ _ _ _ (Precedence.below_iff.mpr hb),
        on_bind_of_ok (subexpression_on _ (ihr hr) (by omega) hright hls), on_openLevel_bind,
        Nat.sub_sub]
      rfl

/-! ### Too few levels -/

/-- Where fewer levels are free than the phrase `p` needs, reading it fails at the limit. -/
def RunsOut (cut : Option LexicalError) (D : ℕ) (p : Phrase) : Prop :=
  ∀ (free levels : ℕ) (bound : Precedence) (ls : List Lexeme) (d : ℕ), bound.rank < p.rank →
    Follows p.rank ls → free + 1 < p.levels →
    ∃ (span : Span) (ms : List Lexeme) (e : ℕ),
      on (operand free >>= chain free bound levels) (facing (p.lexemes ++ ls) cut D d)
        = (.error ⟨.nestingTooDeep D, span⟩, facing ms cut D e)

/-- A subexpression fails at the limit where fewer levels are free than its phrase needs. -/
lemma subexpression_tooDeep {p : Phrase} {free : ℕ} (bound : Precedence) (d : ℕ)
    (hp : RunsOut cut D p) (hlevels : free < p.levels) (hb : bound.rank < p.rank)
    (hls : Follows bound.rank ls) :
    ∃ (span : Span) (ms : List Lexeme) (e : ℕ),
      on (subexpression free bound) (facing (p.lexemes ++ ls) cut D d)
        = (.error ⟨.nestingTooDeep D, span⟩, facing ms cut D e) := by
  cases free with
  | zero => exact ⟨_, p.lexemes ++ ls, d + 1, rfl⟩
  | succ free => exact hp free 1 bound ls (d + 1) hb (hls.mono hb.le) hlevels

/-- **A phrase runs out of levels** where fewer are free than it needs. -/
theorem runsOut {p : Phrase} (hp : p.Layered) : RunsOut cut D p := by
  induction p with
  | call f span opening argument closing ih =>
      intro free levels bound ls d hb hls hlevels
      obtain ⟨span', ms, e, h⟩ := subexpression_tooDeep .lowest d (ih hp)
        (Nat.lt_of_succ_lt_succ hlevels)
        (Phrase.rank_pos (p := argument) hp) (follows_rparen _ closing ls)
      refine ⟨span', ms, e, on_bind_of_error ?_ _⟩
      simp only [Phrase.lexemes, List.cons_append, List.append_assoc, List.nil_append]
      rw [operand_on_function, on_bind_of_ok (expect_on (by simp) _ _), on_bind_of_error h]
  | group opening inner closing ih =>
      intro free levels bound ls d hb hls hlevels
      obtain ⟨span', ms, e, h⟩ := subexpression_tooDeep .lowest d (ih hp)
        (Nat.lt_of_succ_lt_succ hlevels)
        (Phrase.rank_pos (p := inner) hp) (follows_rparen _ closing ls)
      refine ⟨span', ms, e, on_bind_of_error ?_ _⟩
      simp only [Phrase.lexemes, List.cons_append, List.append_assoc, List.nil_append]
      rw [operand_on_lparen, on_bind_of_error h]
  | operation op span left right ihl ihr =>
      intro free levels bound ls d hb hls hlevels
      obtain ⟨hop, hl, hr, hleft, hright⟩ := hp
      simp only [Phrase.rank, Phrase.levels, lt_max_iff] at hb hls hlevels
      simp only [Phrase.lexemes, List.append_assoc, List.cons_append]
      have hfollows := follows_operator span (right.lexemes ++ ls) hleft
      -- The limit is hit in the left operand, or else in the right one.
      by_cases hfree : free + 1 < left.levels
      · exact ihl hl free levels bound _ d (by omega) hfollows hfree
      · have hfolds := left.folds_lt_levels
        have hlt : free - left.folds < right.levels := by omega
        obtain ⟨span', ms, e, h⟩ :=
          subexpression_tooDeep op.precedence (d + left.folds) (ihr hr) hlt hright hls
        refine ⟨span', ms, e, ?_⟩
        rw [takesIn hl free levels bound _ d (by omega) hfollows (by omega),
          chain_on_operator _ _ _ _ _ (Precedence.below_iff.mpr hb), on_bind_of_error h]
  | _ =>
      intro free levels bound ls d hb hls hlevels
      simp [Phrase.levels] at hlevels

/-! ### More levels than lexemes -/

lemma not_hitsLimit_ok {α : Type} (a : α) : ¬ HitsLimit (Except.ok a) := by
  rintro ⟨_, _, ⟨⟩⟩

lemma not_hitsLimit_bind {α β : Type} {x : Parse α} {f : α → Parse β} {p : Parser}
    (hx : ¬ HitsLimit (on x p).1)
    (hf : ∀ a q, on x p = (.ok a, q) → ¬ HitsLimit (on (f a) q).1) :
    ¬ HitsLimit (on (x >>= f) p).1 := by
  rw [on_bind]
  rcases h : on x p with ⟨e | a, q⟩
  · simpa [h, HitsLimit] using hx
  · exact hf a q h

lemma not_hitsLimit_failWanting {α : Type} (wanted : List Wanted) (p : Parser) :
    ¬ HitsLimit (on (failWanting wanted : Parse α) p).1 := by
  simp only [failWanting, on_get_bind]
  split <;> simp [HitsLimit]

lemma not_hitsLimit_expect (t : Token) (p : Parser) : ¬ HitsLimit (on (expect t) p).1 := by
  simp only [expect, on_get_bind]
  split
  · split
    · exact not_hitsLimit_ok _
    · exact not_hitsLimit_failWanting _ _
  · exact not_hitsLimit_failWanting _ _

lemma not_hitsLimit_number (value : Literal) (span : Span) (p : Parser) :
    ¬ HitsLimit (on (number value span) p).1 := by
  simp only [number, on_get_bind]
  split <;> exact not_hitsLimit_ok _

/-- What has been read is not there to be read again. -/
lemma length_lt_of_read {p : Phrase} {rank levels : ℕ} {ms : List Lexeme}
    (h : p.Read rank levels ls ms) : ms.length < ls.length := by
  have := List.length_pos_of_ne_nil p.lexemes_ne_nil
  rw [h.lexemes_eq, List.length_append]
  omega

/-- While more levels are free than lexemes are left the limit is not hit. -/
def Roomy (cut : Option LexicalError) (D free : ℕ) : Prop :=
  ∀ (bound : Precedence) (ls : List Lexeme) (d : ℕ), ls.length < free →
    ¬ HitsLimit (on (subexpression free bound) (facing ls cut D d)).1

lemma operand_shallow {free : ℕ} (hroom : Roomy cut D free) (hls : ls.length ≤ free) :
    ¬ HitsLimit (on (operand free) (facing ls cut D d)).1 := by
  by_cases hstart : ∀ l ∈ ls.head?, l.token.startsOperand = false
  · rw [operand_on_other free hstart]
    exact not_hitsLimit_failWanting _ _
  · simp only [not_forall, Bool.not_eq_false] at hstart
    obtain ⟨⟨token, span⟩, hl, hstart⟩ := hstart
    obtain ⟨ms, rfl⟩ := List.head?_eq_some_iff.mp hl
    rw [List.length_cons] at hls
    cases token with
    | int value => exact operand_on_number free (.int value) span ms ▸ not_hitsLimit_number _ _ _
    | decimal value =>
        exact operand_on_number free (.decimal value) span ms ▸ not_hitsLimit_number _ _ _
    | ident name =>
        rw [operand_on_name]
        exact not_hitsLimit_ok _
    | function f =>
        rw [operand_on_function]
        refine not_hitsLimit_bind (not_hitsLimit_expect _ _) fun opening q hopening => ?_
        obtain ⟨ns, rfl, rfl⟩ := (expect_on_iff (by simp)).mp hopening
        rw [List.length_cons] at hls
        refine not_hitsLimit_bind (hroom _ _ _ (by omega)) fun _ _ _ => ?_
        exact not_hitsLimit_bind (not_hitsLimit_expect _ _) fun _ _ _ => not_hitsLimit_ok _
    | lparen =>
        rw [operand_on_lparen]
        refine not_hitsLimit_bind (hroom _ _ _ (by omega)) fun _ _ _ => ?_
        exact not_hitsLimit_bind (not_hitsLimit_expect _ _) fun _ _ _ => not_hitsLimit_ok _
    | _ => simp [Token.startsOperand] at hstart

lemma chain_shallow {free levels : ℕ} (hroom : ∀ g ≤ free, Roomy cut D g) {bound : Precedence}
    (left : Formula) (hls : ls.length ≤ free) :
    ¬ HitsLimit (on (chain free bound levels left) (facing ls cut D d)).1 := by
  induction free generalizing left levels ls d with
  | zero =>
      obtain rfl : ls = [] := List.length_eq_zero_iff.mp (Nat.le_zero.mp hls)
      rw [chain_on_loose _ _ _ (by rintro l ⟨⟩)]
      exact not_hitsLimit_ok _
  | succ free ih =>
      by_cases hstop : Loose bound.rank ls
      · rw [chain_on_loose _ _ _ hstop]
        exact not_hitsLimit_ok _
      · obtain ⟨op, span, ms, rfl, hop⟩ := exists_operator_of_not_loose hstop
        rw [chain_on_operator _ _ _ _ _ (Precedence.below_iff.mpr hop)]
        rw [List.length_cons] at hls
        refine not_hitsLimit_bind (hroom _ le_rfl _ _ _ (by omega)) fun right q hright => ?_
        obtain ⟨p, ns, hp, -, rfl, -⟩ := subexpression_reads _ _ _ _ _ _ _ _ hright
        have := length_lt_of_read hp
        exact ih (fun g hg => hroom g (Nat.le_succ_of_le hg)) _ (by omega)

/-- **The limit is far away** while more levels are free than lexemes are left. -/
theorem subexpression_shallow (cut : Option LexicalError) (D free : ℕ) : Roomy cut D free := by
  induction free using Nat.strong_induction_on with
  | _ free ih =>
    intro bound ls d hls
    cases free with
    | zero => exact absurd hls (Nat.not_lt_zero _)
    | succ free =>
        have hfree : ∀ g ≤ free, Roomy cut D g := fun g hg => ih g (by omega)
        rw [subexpression_succ_on]
        refine not_hitsLimit_bind (operand_shallow (hfree _ le_rfl) (by omega)) ?_
        intro first q hfirst
        obtain ⟨p, ms, hp, -, -, rfl⟩ := operand_reads (subexpression_reads cut D free) hfirst
        have := length_lt_of_read hp
        exact chain_shallow hfree _ (by omega)

end Parser

end Reckoner
