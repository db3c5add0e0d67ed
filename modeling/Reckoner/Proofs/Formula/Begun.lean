import Reckoner.Proofs.Formula.Sentences

/-!
What has been read before a failure.

Wherever the parser fails, the lexemes that it has taken begin a layered sentence. Names and
parentheses are enough to complete it.

* `IsFiller`: the lexemes that phrases are completed with;
* `BeginsPhrase`, `BeginsClause`, `BeginsSentence`: the beginnings of phrases, clauses and lines;
* `Parser.operand_begins`, `Parser.chain_begins`, `Parser.subexpression_begins`: expressions that
  fail;
* `Parser.comparison_begins`, `Parser.line_begins`: lines that fail.
-/

namespace Reckoner

/-! ### Beginnings -/

/-- The name that stands for whatever is missing. -/
def fillerName : String := "x"

/-- A lexeme that phrases are completed with. -/
def IsFiller (l : Lexeme) : Prop :=
  l.token = .ident fillerName ∨ l.token = .lparen ∨ l.token = .rparen

/-- Lexemes that begin a phrase which holds together at least as tightly as `rank`. -/
def BeginsPhrase (rank : ℕ) (ks : List Lexeme) : Prop :=
  ∃ (p : Phrase) (ns : List Lexeme), p.Layered ∧ rank ≤ p.rank ∧ p.lexemes = ks ++ ns
    ∧ ∀ l ∈ ns, IsFiller l

/-- Lexemes that begin a clause. -/
def BeginsClause (ks : List Lexeme) : Prop :=
  ∃ (c : Clause) (ns : List Lexeme), c.Layered ∧ c.lexemes = ks ++ ns ∧ ∀ l ∈ ns, IsFiller l

/-- Lexemes that begin a line. -/
def BeginsSentence (ks : List Lexeme) : Prop :=
  ∃ (s : Sentence) (ns : List Lexeme) (ending : Span), s.Layered
    ∧ s.lexemes = ks ++ ns ++ [⟨.eof, ending⟩] ∧ ∀ l ∈ ns, IsFiller l

namespace BeginsPhrase

variable {m n : ℕ} {ks : List Lexeme}

lemma mono (h : BeginsPhrase n ks) (hmn : m ≤ n) : BeginsPhrase m ks := by
  obtain ⟨p, ns, hp, hrank, hlexemes, hns⟩ := h
  exact ⟨p, ns, hp, hmn.trans hrank, hlexemes, hns⟩

/-- Nothing begins every phrase. -/
lemma nil (hn : n ≤ 4) : BeginsPhrase n [] :=
  ⟨.named fillerName .origin, [⟨.ident fillerName, .origin⟩], trivial, hn, rfl,
    List.forall_mem_singleton.mpr (.inl rfl)⟩

lemma whole {p : Phrase} (hp : p.Layered) (hrank : n ≤ p.rank) : BeginsPhrase n p.lexemes :=
  ⟨p, [], hp, hrank, (List.append_nil _).symm, by simp⟩

/-- A parenthesis that is open begins what its content begins. -/
lemma group (h : BeginsPhrase m ks) (opening : Span) :
    BeginsPhrase 4 (⟨.lparen, opening⟩ :: ks) := by
  obtain ⟨p, ns, hp, -, hlexemes, hns⟩ := h
  refine ⟨.group opening p .origin, ns ++ [⟨.rparen, .origin⟩], hp, le_rfl, ?_, ?_⟩
  · rw [Phrase.lexemes, hlexemes]
    simp
  · exact List.forall_mem_append.mpr ⟨hns, List.forall_mem_singleton.mpr (.inr (.inr rfl))⟩

/-- So does a call. -/
lemma call (h : BeginsPhrase m ks) (f : RealFunction) (span opening : Span) :
    BeginsPhrase 4 (⟨.function f, span⟩ :: ⟨.lparen, opening⟩ :: ks) := by
  obtain ⟨p, ns, hp, -, hlexemes, hns⟩ := h
  refine ⟨.call f span opening p .origin, ns ++ [⟨.rparen, .origin⟩], hp, le_rfl, ?_, ?_⟩
  · rw [Phrase.lexemes, hlexemes]
    simp
  · exact List.forall_mem_append.mpr ⟨hns, List.forall_mem_singleton.mpr (.inr (.inr rfl))⟩

/-- A function alone begins a call. -/
lemma function (f : RealFunction) (span : Span) : BeginsPhrase 4 [⟨.function f, span⟩] := by
  obtain ⟨p, ns, hp, hrank, hlexemes, hns⟩ := call (nil (Nat.zero_le 4)) f span .origin
  refine ⟨p, ⟨.lparen, .origin⟩ :: ns, hp, hrank, hlexemes, ?_⟩
  exact List.forall_mem_cons.mpr ⟨.inr (.inl rfl), hns⟩

/-- An operator between a phrase and what begins another one. -/
lemma operation {op : Operator} {left : Phrase} (hop : n < op.precedence.rank)
    (hl : left.Layered) (hle : op.precedence.rank ≤ left.rank) (span : Span)
    (h : BeginsPhrase (op.precedence.rank + 1) ks) :
    BeginsPhrase (n + 1) (left.lexemes ++ ⟨.operator op, span⟩ :: ks) := by
  obtain ⟨right, ns, hr, hrank, hlexemes, hns⟩ := h
  refine ⟨.operation op span left right, ns, ⟨by omega, hl, hr, hle, hrank⟩, hop, ?_, hns⟩
  rw [Phrase.lexemes, hlexemes]
  simp

end BeginsPhrase

namespace Parser

open Step Parse

variable {cut : Option LexicalError} {D d : ℕ} {ls : List Lexeme} {e : ParseError} {q : Parser}

/-! ### Steps that fail where they start -/

lemma failWanting_error {α : Type} {wanted : List Wanted} {p : Parser}
    (h : on (failWanting wanted : Parse α) p = (.error e, q)) : q = p := by
  obtain ⟨e', he'⟩ := failWanting_on (α := α) wanted p
  rw [he'] at h
  exact (congrArg Prod.snd h).symm

lemma expect_error {t : Token} {p : Parser} (h : on (expect t) p = (.error e, q)) : q = p := by
  rw [expect, on_get_bind] at h
  split at h
  · split at h
    · cases h
    · exact failWanting_error h
  · exact failWanting_error h

lemma expectEnd_error {p : Parser} (h : on expectEnd p = (.error e, q)) : q = p := by
  rw [expectEnd, on_get_bind] at h
  split at h
  · cases h
  · exact failWanting_error h

lemma number_ne_error (value : Literal) (span : Span) (p : Parser) :
    on (number value span) p ≠ (.error e, q) := by
  rw [number, on_get_bind]
  split <;> rintro ⟨⟩

/-! ### Expressions -/

/-- In front of the lexemes `ls` the parser has taken lexemes of which `P` holds. -/
def Took (P : List Lexeme → Prop) (ls : List Lexeme) (cut : Option LexicalError) (D : ℕ)
    (q : Parser) : Prop :=
  ∃ ks ms d, ls = ks ++ ms ∧ q = facing ms cut D d ∧ P ks

/-- A subexpression that fails has begun a phrase. -/
def BeginsPhrases (cut : Option LexicalError) (D free : ℕ) : Prop :=
  ∀ (bound : Precedence) (ls : List Lexeme) (d : ℕ) (e : ParseError) (q : Parser),
    on (subexpression free bound) (facing ls cut D d) = (.error e, q) →
      Took (BeginsPhrase (bound.rank + 1)) ls cut D q

/-- **An operand that fails** has begun a phrase without operators around it. -/
lemma operand_begins {free : ℕ} (hsub : BeginsPhrases cut D free)
    (h : on (operand free) (facing ls cut D d) = (.error e, q)) :
    Took (BeginsPhrase 4) ls cut D q := by
  by_cases hstart : ∀ l ∈ ls.head?, l.token.startsOperand = false
  · rw [operand_on_other free hstart] at h
    exact ⟨[], ls, d, rfl, failWanting_error h, .nil le_rfl⟩
  · simp only [not_forall, Bool.not_eq_false] at hstart
    obtain ⟨⟨token, span⟩, hl, hstart⟩ := hstart
    obtain ⟨ls, rfl⟩ := List.head?_eq_some_iff.mp hl
    cases token with
    | int value =>
        exact absurd (operand_on_number free (.int value) span ls ▸ h) (number_ne_error _ _ _)
    | decimal value =>
        exact absurd (operand_on_number free (.decimal value) span ls ▸ h) (number_ne_error _ _ _)
    | ident name =>
        rw [operand_on_name] at h
        cases h
    | function f =>
        rw [operand_on_function, on_bind_error] at h
        obtain h | ⟨opening, _, hopening, h⟩ := h
        · exact ⟨[_], ls, d, rfl, expect_error h, .function f span⟩
        · obtain ⟨ms, rfl, rfl⟩ := (expect_on_iff (by simp)).mp hopening
          rw [on_bind_error] at h
          obtain h | ⟨a, _, ha, h⟩ := h
          · obtain ⟨ks, ns, d', rfl, rfl, hks⟩ := hsub _ _ _ _ _ h
            exact ⟨_ :: _ :: ks, ns, d', rfl, rfl, hks.call f span opening⟩
          · obtain ⟨p, ns, hp, -, rfl, -⟩ := subexpression_reads _ _ _ _ _ _ _ _ ha
            rw [on_bind_error] at h
            obtain h | ⟨closing, _, -, h⟩ := h
            · refine ⟨_ :: _ :: p.lexemes, ns, d, by rw [hp.lexemes_eq]; rfl, expect_error h, ?_⟩
              exact (BeginsPhrase.whole hp.layered hp.rank_le).call f span opening
            · cases h
    | lparen =>
        rw [operand_on_lparen, on_bind_error] at h
        obtain h | ⟨a, _, ha, h⟩ := h
        · obtain ⟨ks, ns, d', rfl, rfl, hks⟩ := hsub _ _ _ _ _ h
          exact ⟨_ :: ks, ns, d', rfl, rfl, hks.group span⟩
        · obtain ⟨p, ns, hp, -, rfl, -⟩ := subexpression_reads _ _ _ _ _ _ _ _ ha
          rw [on_bind_error] at h
          obtain h | ⟨closing, _, -, h⟩ := h
          · refine ⟨_ :: p.lexemes, ns, d, by rw [hp.lexemes_eq]; rfl, expect_error h, ?_⟩
            exact (BeginsPhrase.whole hp.layered hp.rank_le).group span
          · cases h
    | _ => simp [Token.startsOperand] at hstart

/-- **Operators that fail** have begun a phrase together with the one that they stand after. -/
lemma chain_begins {free levels : ℕ} (hsub : ∀ g ≤ free, BeginsPhrases cut D g) {bound : Precedence}
    (left : Phrase) (hl : left.Layered) (hloose : Loose left.rank ls)
    (h : on (chain free bound levels left.tree) (facing ls cut D d) = (.error e, q)) :
    Took (fun ks => BeginsPhrase (bound.rank + 1) (left.lexemes ++ ks)) ls cut D q := by
  induction free using Nat.strong_induction_on generalizing left levels ls d with
  | _ free ih =>
    by_cases hstop : Loose bound.rank ls
    · rw [chain_on_loose _ _ _ hstop] at h
      cases h
    · obtain ⟨op, span, ms, rfl, hop⟩ := exists_operator_of_not_loose hstop
      have hle : op.precedence.rank ≤ left.rank := hloose _ rfl
      rw [chain_on_operator _ _ _ _ _ (Precedence.below_iff.mpr hop), on_bind_error] at h
      obtain h | ⟨a, q', hright, h⟩ := h
      · obtain ⟨ks, ns, d', rfl, rfl, hks⟩ := hsub free le_rfl _ _ _ _ _ h
        exact ⟨⟨.operator op, span⟩ :: ks, ns, d', rfl, rfl, hks.operation hop hl hle span⟩
      · cases free with
        | zero => simp [subexpression, on_tooDeep] at hright
        | succ free =>
            obtain ⟨right, ns, hr, rfl, rfl, hloose'⟩ := subexpression_reads _ _ _ _ _ _ _ _ hright
            obtain ⟨ks, ms', d', rfl, rfl, hks⟩ := ih free (Nat.lt_succ_self free)
              (fun g hg => hsub g (Nat.le_succ_of_le hg)) (.operation op span left right)
              ⟨by omega, hl, hr.layered, hle, hr.rank_le⟩ hloose' h
            refine ⟨⟨.operator op, span⟩ :: (right.lexemes ++ ks), ms', d', ?_, rfl, ?_⟩
            · rw [hr.lexemes_eq]
              simp
            · simpa [Phrase.lexemes] using hks

/-- **An expression that fails** has begun a phrase. -/
theorem subexpression_begins (cut : Option LexicalError) (D free : ℕ) :
    BeginsPhrases cut D free := by
  induction free using Nat.strong_induction_on with
  | _ free ih =>
    intro bound ls d e q h
    have hbound : bound.rank + 1 ≤ 4 := Nat.succ_le_succ bound.rank_le
    cases free with
    | zero =>
        cases h
        exact ⟨[], ls, d + 1, rfl, rfl, .nil hbound⟩
    | succ free =>
        have hfree : ∀ g ≤ free, BeginsPhrases cut D g := fun g hg => ih g (by omega)
        rw [subexpression_succ_on] at h
        obtain hfirst | ⟨a, q, hfirst, hmore⟩ := on_bind_error.mp h
        · obtain ⟨ks, ms, d', rfl, rfl, hks⟩ := operand_begins (hfree free le_rfl) hfirst
          exact ⟨ks, ms, d', rfl, rfl, hks.mono hbound⟩
        · obtain ⟨first, ms, hf, -, rfl, rfl⟩ :=
            operand_reads (subexpression_reads cut D free) hfirst
          obtain ⟨ks, ns, d', rfl, rfl, hks⟩ := chain_begins hfree first hf.layered
            (loose_of_le (Nat.le_of_succ_le hf.rank_le)) hmore
          refine ⟨first.lexemes ++ ks, ns, d', ?_, rfl, hks⟩
          rw [hf.lexemes_eq, List.append_assoc]

/-! ### Lines -/

/-- **A comparison that fails** has begun a clause. -/
lemma comparison_begins (h : on comparison (facing ls cut D d) = (.error e, q)) :
    Took BeginsClause ls cut D q := by
  rw [comparison, on_bind_error] at h
  obtain h | ⟨a, q', hleft, h⟩ := h
  · rw [expression_on] at h
    obtain ⟨ks, ms, d', rfl, rfl, p, ns, hp, -, hlexemes, hns⟩ :=
      subexpression_begins _ _ _ _ _ _ _ _ h
    exact ⟨ks, ms, d', rfl, rfl, .expression p, ns, hp, hlexemes, hns⟩
  · rw [expression_on] at hleft
    obtain ⟨left, ms, hl, rfl, rfl, -⟩ := subexpression_reads _ _ _ _ _ _ _ _ hleft
    rw [on_get_bind] at h
    split at h
    · cases h
    · next op span hsign =>
      obtain ⟨hop, ms, rfl⟩ := comparisonSign?_facing.mp hsign
      rw [on_skip_bind, shifted_facing, on_bind_error] at h
      obtain h | ⟨b, q'', hright, h⟩ := h
      · rw [expression_on] at h
        obtain ⟨ks, ns, d', rfl, rfl, right, more, hr, -, hlexemes, hmore⟩ :=
          subexpression_begins _ _ _ _ _ _ _ _ h
        refine ⟨left.lexemes ++ ⟨.operator op, span⟩ :: ks, ns, d', ?_, rfl,
          .comparison op span left right, more, ⟨hop, hl.layered, hr⟩, ?_, hmore⟩
        · rw [hl.lexemes_eq]
          simp
        · rw [Clause.lexemes, hlexemes]
          simp
      · rw [expression_on] at hright
        obtain ⟨right, ns, hr, rfl, rfl, -⟩ := subexpression_reads _ _ _ _ _ _ _ _ hright
        rw [on_get_bind] at h
        split at h
        · next sign span' hsign' =>
          cases h
          refine ⟨(Clause.comparison op span left right).lexemes, ns, d, ?_, rfl,
            .comparison op span left right, [], ⟨hop, hl.layered, hr.layered⟩, by simp, by simp⟩
          rw [hl.lexemes_eq, hr.lexemes_eq, Clause.lexemes]
          simp
        · cases h

/-- What is left of a line behind the clause it begins with. -/
lemma statement_begins {f : Formula → Formula}
    (h : on (do
      let tree ← comparison
      expectEnd
      return f tree) (facing ls cut D d) = (.error e, q)) : Took BeginsClause ls cut D q := by
  rw [on_bind_error] at h
  obtain h | ⟨a, q', htree, h⟩ := h
  · exact comparison_begins h
  · obtain ⟨c, ms, hc, -, rfl, -, rfl⟩ := comparison_reads htree
    rw [on_bind_error] at h
    obtain h | ⟨_, _, -, h⟩ := h
    · exact ⟨c.lexemes, ms, d, rfl, expectEnd_error h, c, [], hc, by simp, by simp⟩
    · cases h

/-- **A line that fails** has begun a sentence. -/
theorem line_begins (h : on line (facing ls cut D d) = (.error e, q)) :
    Took BeginsSentence ls cut D q := by
  obtain ⟨ending, ms, rfl⟩ | ⟨name, span, sign, ms, rfl⟩ | ⟨hend, hassign⟩ := line_cases ls
  · rw [line_on_blank] at h
    cases h
  · rw [line_on_assignment] at h
    obtain ⟨ks, ns, d', rfl, rfl, c, more, hc, hlexemes, hmore⟩ := statement_begins h
    refine ⟨_ :: _ :: ks, ns, d', rfl, rfl, .assignment name span sign c .origin, more, .origin,
      hc, ?_, hmore⟩
    rw [Sentence.lexemes, hlexemes]
    rfl
  · rw [line_on_comparison hend hassign] at h
    obtain ⟨ks, ns, d', rfl, rfl, c, more, hc, hlexemes, hmore⟩ :=
      statement_begins (f := fun tree => tree) h
    refine ⟨ks, ns, d', rfl, rfl, .statement c .origin, more, .origin, hc, ?_, hmore⟩
    rw [Sentence.lexemes, hlexemes]

end Parser

end Reckoner
