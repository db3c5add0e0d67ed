import Reckoner.Proofs.Formula.Levels

/-!
What the parser reads of a line.

A source text is parsed if its lexemes are those of a layered sentence that needs no more
levels than the limit allows, and only then. Where the sentence needs more levels the
parser fails at the limit.

* `Parser.line_cases`: how lines start;
* `Parser.comparison_reads`, `Parser.line_reads`: what has been read by a success;
* `Parser.comparison_on`, `Parser.line_on`: how sentences are read;
* `parse_ok_iff`: the successes of `parse`;
* `parse_tooDeep`, `not_hitsLimit_parse`: when the limit is hit.
-/

namespace Reckoner

/-- The signs that only lines are written with stand in no phrase. -/
lemma Phrase.token_ne (p : Phrase) : ∀ l ∈ p.lexemes, l.token ≠ .assign ∧ l.token ≠ .eof := by
  have hnumber (value : Literal) : value.token ≠ .assign ∧ value.token ≠ .eof := by
    cases value <;> simp [Literal.token]
  induction p with
  | call f span opening argument closing ih | group opening argument closing ih =>
      intro l hl
      simp only [lexemes, List.mem_cons, List.mem_append, List.not_mem_nil, or_false] at hl
      aesop
  | operation op span left right ihl ihr =>
      intro l hl
      simp only [lexemes, List.mem_cons, List.mem_append] at hl
      obtain hl | rfl | hl := hl
      · exact ihl l hl
      · simp
      · exact ihr l hl
  | _ => simp [lexemes, hnumber]

lemma Clause.token_ne (c : Clause) : ∀ l ∈ c.lexemes, l.token ≠ .assign ∧ l.token ≠ .eof := by
  cases c with
  | expression p => exact p.token_ne
  | comparison op span left right =>
      intro l hl
      simp only [lexemes, List.mem_append, List.mem_cons] at hl
      obtain hl | rfl | hl := hl
      · exact left.token_ne l hl
      · simp
      · exact right.token_ne l hl

lemma Clause.lexemes_ne_nil (c : Clause) : c.lexemes ≠ [] := by
  cases c <;> simp [lexemes, Phrase.lexemes_ne_nil]

/-- The last lexeme of a line is the end of the input. -/
lemma Sentence.exists_ending (s : Sentence) :
    ∃ ending ns, s.lexemes = ns ++ [⟨.eof, ending⟩] := by
  cases s with
  | blank ending => exact ⟨ending, [], rfl⟩
  | statement c ending => exact ⟨ending, _, rfl⟩
  | assignment name span sign c ending => exact ⟨ending, _ :: _ :: _, rfl⟩

/-- The end of the input is the last lexeme of a sentence only. -/
lemma Sentence.token_ne_eof (s : Sentence) {ls : List Lexeme} {ending : Span}
    (h : s.lexemes = ls ++ [⟨.eof, ending⟩]) : ∀ l ∈ ls, l.token ≠ .eof := by
  obtain rfl : s.lexemes.dropLast = ls := by rw [h, List.dropLast_concat]
  cases s with
  | blank ending' => simp [lexemes]
  | statement c ending' => simpa [lexemes] using fun l hl => (c.token_ne l hl).2
  | assignment name span sign c ending' =>
      have hfront : (assignment name span sign c ending').lexemes.dropLast
          = ⟨.ident name, span⟩ :: ⟨.assign, sign⟩ :: c.lexemes := by
        rw [lexemes, ← List.cons_append, ← List.cons_append, List.dropLast_concat]
      simpa [hfront] using fun l hl => (c.token_ne l hl).2

namespace Parser

open Step Parse

variable {cut : Option LexicalError} {D d : ℕ} {ls : List Lexeme} {t : Formula} {q : Parser}

/-! ### Steps of a line -/

lemma expression_on (bound : Precedence) :
    on (expression bound) (facing ls cut D d)
      = on (subexpression (D - d) bound) (facing ls cut D d) := by
  rw [expression_eq, on_get_bind]
  rfl

lemma comparisonSign?_facing {op : Operator} {span : Span} :
    (facing ls cut D d).comparisonSign? = some (op, span)
      ↔ op.isComparison = true ∧ ∃ ms, ls = ⟨.operator op, span⟩ :: ms := by
  rw [comparisonSign?, facing_current]
  constructor
  · intro h
    split at h
    · next hl =>
      obtain ⟨ms, rfl⟩ := List.head?_eq_some_iff.mp hl
      split at h
      · next hop =>
        cases h
        exact ⟨hop, ms, rfl⟩
      · simp at h
    · simp at h
  · rintro ⟨hop, ms, rfl⟩
    simp [hop]

lemma expectEnd_on_iff :
    on expectEnd (facing ls cut D d) = (.ok (), q)
      ↔ (∃ ending ms, ls = ⟨.eof, ending⟩ :: ms) ∧ q = facing ls cut D d := by
  rw [expectEnd, on_get_bind, facing_current]
  constructor
  · intro h
    split at h
    · next hl =>
      obtain ⟨ms, rfl⟩ := List.head?_eq_some_iff.mp hl
      cases h
      exact ⟨⟨_, ms, rfl⟩, rfl⟩
    · obtain ⟨e, he⟩ := failWanting_on (α := Unit) [.anOperator, .theEnd] (facing ls cut D d)
      simp [he] at h
  · rintro ⟨⟨ending, ms, rfl⟩, rfl⟩
    rfl

lemma expectIdent_on (name : String) (span : Span) (ls : List Lexeme) :
    on expectIdent (facing (⟨.ident name, span⟩ :: ls) cut D d)
      = (.ok (name, span), facing ls cut D d) := by
  simp only [expectIdent, on_get_bind, facing_current, List.head?_cons, on_skip_bind,
    shifted_facing, on_pure]

lemma line_on_blank (ending : Span) (ls : List Lexeme) :
    on line (facing (⟨.eof, ending⟩ :: ls) cut D d)
      = (.ok .empty, facing (⟨.eof, ending⟩ :: ls) cut D d) := by
  simp only [line, on_get_bind, facing_current, List.head?_cons, on_pure]

lemma line_on_assignment (name : String) (span sign : Span) (ls : List Lexeme) :
    on line (facing (⟨.ident name, span⟩ :: ⟨.assign, sign⟩ :: ls) cut D d)
      = on (do
          let value ← comparison
          expectEnd
          return .assign name value ⟨span.start, value.span.stop⟩) (facing ls cut D d) := by
  simp only [line, on_get_bind, facing_current, facing_ahead, List.head?_cons, List.tail_cons,
    assignment, discard_bind]
  rw [on_bind_of_ok (expectIdent_on _ _ _), on_bind_of_ok (expect_on (by simp) _ _)]

/-- A line that neither ends at once nor gives a name anything is a comparison. -/
lemma line_on_comparison (hend : ∀ l ∈ ls.head?, l.token ≠ .eof)
    (hassign : ∀ name span sign ms, ls ≠ ⟨.ident name, span⟩ :: ⟨.assign, sign⟩ :: ms) :
    on line (facing ls cut D d)
      = on (do
          let tree ← comparison
          expectEnd
          return tree) (facing ls cut D d) := by
  simp only [line, on_get_bind, facing_current, facing_ahead]
  split
  · next hl => exact absurd rfl (hend _ hl)
  · next hl hl' =>
    obtain ⟨ms, rfl⟩ := List.head?_eq_some_iff.mp hl
    obtain ⟨ns, rfl⟩ := List.head?_eq_some_iff.mp hl'
    exact absurd rfl (hassign _ _ _ ns)
  · rfl

/-- How lines start: a comparison starts as neither of the others does. -/
lemma line_cases (ls : List Lexeme) :
    (∃ ending ms, ls = ⟨.eof, ending⟩ :: ms)
      ∨ (∃ name span sign ms, ls = ⟨.ident name, span⟩ :: ⟨.assign, sign⟩ :: ms)
      ∨ ((∀ l ∈ ls.head?, l.token ≠ .eof)
        ∧ ∀ name span sign ms, ls ≠ ⟨.ident name, span⟩ :: ⟨.assign, sign⟩ :: ms) := by
  by_cases hend : ∀ l ∈ ls.head?, l.token ≠ .eof
  · by_cases hassign : ∃ name span sign ms, ls = ⟨.ident name, span⟩ :: ⟨.assign, sign⟩ :: ms
    · exact .inr (.inl hassign)
    · simp only [not_exists] at hassign
      exact .inr (.inr ⟨hend, hassign⟩)
  · simp only [not_forall, not_not] at hend
    obtain ⟨⟨_, ending⟩, hl, rfl⟩ := hend
    obtain ⟨ms, rfl⟩ := List.head?_eq_some_iff.mp hl
    exact .inl ⟨ending, ms, rfl⟩

/-! ### What a successful line has read -/

lemma comparison_reads (h : on comparison (facing ls cut D d) = (.ok t, q)) :
    ∃ (c : Clause) (ms : List Lexeme), c.Layered ∧ c.levels ≤ D - d ∧ ls = c.lexemes ++ ms
      ∧ c.tree = t ∧ q = facing ms cut D d := by
  rw [comparison, on_bind_ok] at h
  obtain ⟨a, q', hleft, h⟩ := h
  rw [expression_on] at hleft
  obtain ⟨left, ms, hl, rfl, rfl, -⟩ := subexpression_reads _ _ _ _ _ _ _ _ hleft
  rw [on_get_bind] at h
  split at h
  · cases h
    exact ⟨.expression left, ms, hl.layered, hl.levels_le, hl.lexemes_eq, rfl, rfl⟩
  · next op span hsign =>
    obtain ⟨hop, ms, rfl⟩ := comparisonSign?_facing.mp hsign
    rw [on_skip_bind, shifted_facing, on_bind_ok] at h
    obtain ⟨b, q'', hright, h⟩ := h
    rw [expression_on] at hright
    obtain ⟨right, ns, hr, rfl, rfl, -⟩ := subexpression_reads _ _ _ _ _ _ _ _ hright
    rw [on_get_bind] at h
    split at h
    · simp at h
    · cases h
      refine ⟨.comparison op span left right, ns, ⟨hop, hl.layered, hr.layered⟩,
        max_le hl.levels_le hr.levels_le, ?_, rfl, rfl⟩
      rw [hl.lexemes_eq, hr.lexemes_eq, Clause.lexemes, List.append_assoc, List.cons_append]

/-- **A line that is read is a layered sentence** of no more levels than are free. -/
lemma line_reads (h : on line (facing ls cut D d) = (.ok t, q)) :
    ∃ (s : Sentence) (ms : List Lexeme), s.Layered ∧ s.levels ≤ D - d ∧ ls = s.lexemes ++ ms
      ∧ s.tree = t := by
  obtain ⟨ending, ms, rfl⟩ | ⟨name, span, sign, ms, rfl⟩ | ⟨hend, hassign⟩ := line_cases ls
  · rw [line_on_blank] at h
    cases h
    exact ⟨.blank ending, ms, trivial, Nat.zero_le _, rfl, rfl⟩
  · simp only [line_on_assignment, on_bind_ok, on_pure] at h
    obtain ⟨a, _, hvalue, _, _, hfinal, h⟩ := h
    obtain ⟨c, ms, hc, hlevels, rfl, rfl, rfl⟩ := comparison_reads hvalue
    obtain ⟨⟨ending, ns, rfl⟩, rfl⟩ := expectEnd_on_iff.mp hfinal
    cases h
    exact ⟨.assignment name span sign c ending, ns, hc, hlevels, by simp [Sentence.lexemes], rfl⟩
  · simp only [line_on_comparison hend hassign, on_bind_ok, on_pure] at h
    obtain ⟨a, _, htree, _, _, hfinal, h⟩ := h
    obtain ⟨c, ms, hc, hlevels, rfl, rfl, rfl⟩ := comparison_reads htree
    obtain ⟨⟨ending, ns, rfl⟩, rfl⟩ := expectEnd_on_iff.mp hfinal
    cases h
    exact ⟨.statement c ending, ns, hc, hlevels, by simp [Sentence.lexemes], rfl⟩

/-! ### How a sentence is read -/

/-- What can stand after a clause: nothing that would go on with it. -/
lemma follows_eof (n : ℕ) (ending : Span) (ls : List Lexeme) :
    Follows n (⟨.eof, ending⟩ :: ls) :=
  ⟨by rintro l ⟨⟩; exact Nat.zero_le n, by rintro l ⟨⟩; simp, by rintro l ⟨⟩; simp⟩

lemma precedence_of_isComparison {op : Operator} (h : op.isComparison = true) :
    op.precedence.rank = 0 := by
  cases op <;> first | rfl | simp [Operator.isComparison] at h

lemma comparisonSign?_eof (ending : Span) (ls : List Lexeme) :
    (facing (⟨.eof, ending⟩ :: ls) cut D d).comparisonSign? = none := rfl

/-- An expression is read where its phrase ends. -/
lemma expression_on_phrase {p : Phrase} (hp : p.Layered) (hlevels : p.levels ≤ D - d)
    (hls : Follows 0 ls) :
    on (expression .lowest) (facing (p.lexemes ++ ls) cut D d)
      = (.ok p.tree, facing ls cut D d) := by
  rw [expression_on]
  exact subexpression_on .lowest (takesIn hp) hlevels (Phrase.rank_pos hp) hls

lemma comparison_on {c : Clause} (hc : c.Layered) (hlevels : c.levels ≤ D - d) (ending : Span)
    (ls : List Lexeme) :
    on comparison (facing (c.lexemes ++ ⟨.eof, ending⟩ :: ls) cut D d)
      = (.ok c.tree, facing (⟨.eof, ending⟩ :: ls) cut D d) := by
  cases c with
  | expression p =>
      rw [comparison, Clause.lexemes,
        on_bind_of_ok (expression_on_phrase hc hlevels (follows_eof 0 ending ls)), on_get_bind,
        comparisonSign?_eof]
      rfl
  | comparison op span left right =>
      obtain ⟨hop, hl, hr⟩ := hc
      obtain ⟨hlevels, hlevels'⟩ := max_le_iff.mp hlevels
      have hsign := follows_operator span (right.lexemes ++ ⟨.eof, ending⟩ :: ls)
        (precedence_of_isComparison hop).le
      rw [comparison, Clause.lexemes, List.append_assoc, List.cons_append,
        on_bind_of_ok (expression_on_phrase hl hlevels hsign), on_get_bind,
        comparisonSign?_facing.mpr ⟨hop, _, rfl⟩]
      simp only [on_skip_bind, shifted_facing]
      rw [on_bind_of_ok (expression_on_phrase hr hlevels' (follows_eof 0 ending ls)),
        on_get_bind, comparisonSign?_eof]
      rfl

/-- A statement does not start as other lines do. -/
lemma line_on_clause (c : Clause) (ending : Span) :
    on line (facing (c.lexemes ++ [⟨.eof, ending⟩]) cut D d)
      = on (do
          let tree ← comparison
          expectEnd
          return tree) (facing (c.lexemes ++ [⟨.eof, ending⟩]) cut D d) := by
  obtain ⟨l, ms, hc⟩ := List.exists_cons_of_ne_nil c.lexemes_ne_nil
  refine line_on_comparison ?_ ?_
  · rw [hc, List.cons_append, List.head?_cons]
    rintro _ ⟨⟩
    exact (c.token_ne l (by simp [hc])).2
  · intro name span sign ns hls
    have hmem : ⟨.assign, sign⟩ ∈ c.lexemes ++ [⟨.eof, ending⟩] := by simp [hls]
    obtain hmem | hmem := List.mem_append.mp hmem
    · exact (c.token_ne _ hmem).1 rfl
    · simp at hmem

/-- **A layered sentence is read** where as many levels are free as it needs. -/
lemma line_on {s : Sentence} (hs : s.Layered) (hlevels : s.levels ≤ D - d) :
    ∃ ms, on line (facing s.lexemes cut D d) = (.ok s.tree, facing ms cut D d) := by
  have hend (ending : Span) :
      on expectEnd (facing [⟨.eof, ending⟩] cut D d) = (.ok (), facing [⟨.eof, ending⟩] cut D d) :=
    expectEnd_on_iff.mpr ⟨⟨ending, [], rfl⟩, rfl⟩
  cases s with
  | blank ending => exact ⟨_, line_on_blank ending []⟩
  | statement c ending =>
      refine ⟨[⟨.eof, ending⟩], ?_⟩
      rw [Sentence.lexemes, line_on_clause, on_bind_of_ok (comparison_on hs hlevels ending []),
        on_bind_of_ok (hend ending)]
      rfl
  | assignment name span sign c ending =>
      refine ⟨[⟨.eof, ending⟩], ?_⟩
      rw [Sentence.lexemes, line_on_assignment,
        on_bind_of_ok (comparison_on hs hlevels ending []), on_bind_of_ok (hend ending)]
      rfl

/-! ### Where the limit is hit -/

lemma expression_tooDeep {p : Phrase} (hp : p.Layered) (hlevels : D - d < p.levels)
    (hls : Follows 0 ls) :
    ∃ (span : Span) (ms : List Lexeme) (e : ℕ),
      on (expression .lowest) (facing (p.lexemes ++ ls) cut D d)
        = (.error ⟨.nestingTooDeep D, span⟩, facing ms cut D e) := by
  simp only [expression_on]
  exact subexpression_tooDeep .lowest d (runsOut hp) hlevels (Phrase.rank_pos hp) hls

lemma comparison_tooDeep {c : Clause} (hc : c.Layered) (hlevels : D - d < c.levels)
    (ending : Span) (ls : List Lexeme) :
    ∃ (span : Span) (ms : List Lexeme) (e : ℕ),
      on comparison (facing (c.lexemes ++ ⟨.eof, ending⟩ :: ls) cut D d)
        = (.error ⟨.nestingTooDeep D, span⟩, facing ms cut D e) := by
  cases c with
  | expression p =>
      obtain ⟨span, ms, e, h⟩ := expression_tooDeep (d := d) hc hlevels (follows_eof 0 ending ls)
      exact ⟨span, ms, e, on_bind_of_error h _⟩
  | comparison op span left right =>
      obtain ⟨hop, hl, hr⟩ := hc
      have hsign := follows_operator span (right.lexemes ++ ⟨.eof, ending⟩ :: ls)
        (precedence_of_isComparison hop).le
      rw [Clause.lexemes, List.append_assoc, List.cons_append]
      by_cases hleft : left.levels ≤ D - d
      · have hright : D - d < right.levels := (lt_max_iff.mp hlevels).resolve_left hleft.not_gt
        obtain ⟨span', ms, e, h⟩ :=
          expression_tooDeep (d := d) hr hright (follows_eof 0 ending ls)
        refine ⟨span', ms, e, ?_⟩
        rw [comparison, on_bind_of_ok (expression_on_phrase hl hleft hsign), on_get_bind,
          comparisonSign?_facing.mpr ⟨hop, _, rfl⟩]
        simp only [on_skip_bind, shifted_facing]
        exact on_bind_of_error h _
      · obtain ⟨span', ms, e, h⟩ := expression_tooDeep (d := d) hl (not_le.mp hleft) hsign
        exact ⟨span', ms, e, on_bind_of_error h _⟩

lemma line_tooDeep {s : Sentence} (hs : s.Layered) (hlevels : D - d < s.levels) :
    ∃ (span : Span) (ms : List Lexeme) (e : ℕ),
      on line (facing s.lexemes cut D d)
        = (.error ⟨.nestingTooDeep D, span⟩, facing ms cut D e) := by
  cases s with
  | blank ending => simp [Sentence.levels] at hlevels
  | statement c ending =>
      obtain ⟨span, ms, e, h⟩ := comparison_tooDeep (d := d) hs hlevels ending []
      refine ⟨span, ms, e, ?_⟩
      rw [Sentence.lexemes, line_on_clause]
      exact on_bind_of_error h _
  | assignment name span sign c ending =>
      obtain ⟨span', ms, e, h⟩ := comparison_tooDeep (d := d) hs hlevels ending []
      refine ⟨span', ms, e, ?_⟩
      rw [Sentence.lexemes, line_on_assignment]
      exact on_bind_of_error h _

lemma expression_shallow (bound : Precedence) (hls : ls.length < D - d) :
    ¬ HitsLimit (on (expression bound) (facing ls cut D d)).1 := by
  rw [expression_on]
  exact subexpression_shallow cut D (D - d) bound ls d hls

lemma comparison_shallow (hls : ls.length < D - d) :
    ¬ HitsLimit (on comparison (facing ls cut D d)).1 := by
  refine not_hitsLimit_bind (expression_shallow _ hls) fun left q hleft => ?_
  rw [expression_on] at hleft
  obtain ⟨p, ms, hp, -, rfl, -⟩ := subexpression_reads _ _ _ _ _ _ _ _ hleft
  have hlt := length_lt_of_read hp
  rw [on_get_bind]
  split
  · exact not_hitsLimit_ok _
  · next op span hsign =>
    obtain ⟨-, ns, rfl⟩ := comparisonSign?_facing.mp hsign
    rw [on_skip_bind, shifted_facing]
    rw [List.length_cons] at hlt
    refine not_hitsLimit_bind (expression_shallow _ (by omega)) fun right q' _ => ?_
    rw [on_get_bind]
    split
    · simp [HitsLimit]
    · exact not_hitsLimit_ok _

lemma not_hitsLimit_expectEnd (p : Parser) : ¬ HitsLimit (on expectEnd p).1 := by
  rw [expectEnd, on_get_bind]
  split
  · exact not_hitsLimit_ok _
  · exact not_hitsLimit_failWanting _ _

lemma line_shallow (hls : ls.length < D - d) :
    ¬ HitsLimit (on line (facing ls cut D d)).1 := by
  simp only [line, on_get_bind]
  split
  · exact not_hitsLimit_ok _
  · next hl hl' =>
    obtain ⟨ms, rfl⟩ := List.head?_eq_some_iff.mp hl
    obtain ⟨ns, rfl⟩ := List.head?_eq_some_iff.mp hl'
    simp only [List.length_cons] at hls
    simp only [assignment, discard_bind]
    rw [on_bind_of_ok (expectIdent_on _ _ _), on_bind_of_ok (expect_on (by simp) _ _)]
    refine not_hitsLimit_bind (comparison_shallow (by omega)) fun _ _ _ => ?_
    exact not_hitsLimit_bind (not_hitsLimit_expectEnd _) fun _ _ _ => not_hitsLimit_ok _
  · refine not_hitsLimit_bind (comparison_shallow hls) fun _ _ _ => ?_
    exact not_hitsLimit_bind (not_hitsLimit_expectEnd _) fun _ _ _ => not_hitsLimit_ok _

end Parser

/-! ### Source texts -/

open Reckoner.Parser

lemma parseItems_eq (items : List Lexer.Item) (D : ℕ) :
    parseItems items D
      = match (Step.on line (ofItems items D)).2.lexicalErrors with
        | e :: _ => .error ⟨.lexical e, e.span⟩
        | [] => (Step.on line (ofItems items D)).1 := by
  rw [parseItems, run]
  rcases hon : Step.on line (ofItems items D) with ⟨r, q⟩
  rw [show (ExceptT.run line).run (ofItems items D) = (r, q) from hon]
  cases hq : q.lexicalErrors <;> simp [hq]

lemma parseItems_stream (ls : List Lexeme) (cut : Option LexicalError) (D : ℕ) :
    parseItems (Lexer.stream ls cut) D
      = match (Step.on line (facing ls cut D 0)).2.lexicalErrors with
        | e :: _ => .error ⟨.lexical e, e.span⟩
        | [] => (Step.on line (facing ls cut D 0)).1 := by
  rw [parseItems_eq, ofItems_eq_facing]

lemma parse_of_items {src : String} {ls : List Lexeme} {cut : Option LexicalError} {D : ℕ}
    (h : Lexer.items src = Lexer.stream ls cut) :
    parse src D = match (Step.on line (facing ls cut D 0)).2.lexicalErrors with
      | e :: _ => .error ⟨.lexical e, e.span⟩
      | [] => (Step.on line (facing ls cut D 0)).1 := by
  rw [parse, h, parseItems_stream]

/-- **The successes of the parser.** A source text has a tree if its lexemes are those of a
layered sentence which the limit allows, and the tree is that of the sentence. -/
theorem parse_ok_iff {src : String} {D : ℕ} {t : Formula} :
    parse src D = .ok t
      ↔ ∃ s : Sentence, s.Layered ∧ s.levels ≤ D ∧ tokenize src = .ok s.lexemes
        ∧ s.tree = t := by
  constructor
  · intro h
    obtain ⟨ls, cut, hitems, ⟨ks, hks, hends⟩, htokens⟩ := Lexer.exists_stream src
    rw [parse_of_items hitems] at h
    split at h
    · simp at h
    · obtain ⟨s, ms, hs, hlevels, hls, rfl⟩ := line_reads (Prod.ext h rfl)
      obtain ⟨ending, ns, hns⟩ := s.exists_ending
      -- The sentence takes all lexemes, since the only end of the input is the last of them.
      obtain ⟨ending', rfl, rfl⟩ | ⟨rfl, -⟩ := hends
      · obtain rfl | ⟨ms, l, rfl⟩ := List.eq_nil_or_concat ms
        · rw [List.append_nil] at hls
          exact ⟨s, hs, hlevels, hls ▸ htokens, rfl⟩
        · rw [List.concat_eq_append, ← List.append_assoc] at hls
          obtain ⟨rfl, -⟩ := List.append_inj' hls rfl
          exact absurd rfl (hks ⟨.eof, ending⟩ (by simp [hns]))
      · exact absurd rfl (hks ⟨.eof, ending⟩ (by simp [hls, hns]))
  · rintro ⟨s, hs, hlevels, htokens, rfl⟩
    obtain ⟨ms, h⟩ := line_on (d := 0) hs hlevels
    rw [parse_of_items (items_of_tokenize htokens), h]
    split
    · next h' => simp [facing] at h'
    · rfl

/-- **Too many levels.** The parser fails at the limit where the sentence that a source text
is written as needs more levels than the limit allows. -/
theorem parse_tooDeep {src : String} {D : ℕ} {s : Sentence} (hs : s.Layered)
    (htokens : tokenize src = .ok s.lexemes) (hlevels : D < s.levels) :
    ∃ span, parse src D = .error ⟨.nestingTooDeep D, span⟩ := by
  obtain ⟨span, ms, e, h⟩ := line_tooDeep (d := 0) hs hlevels
  refine ⟨span, ?_⟩
  rw [parse_of_items (items_of_tokenize htokens), h]
  split
  · next h' => simp [facing] at h'
  · rfl

/-- The limit is not hit by a text of fewer items than the limit allows levels. -/
theorem not_hitsLimit_parse {src : String} {D : ℕ} (h : (Lexer.items src).length < D) :
    ¬ HitsLimit (parse src D) := by
  obtain ⟨ls, cut, hitems, -, -⟩ := Lexer.exists_stream src
  have hls : ls.length < D := by
    rw [hitems, Lexer.stream, List.length_append, List.length_map] at h
    omega
  rw [parse_of_items hitems]
  split
  · simp [HitsLimit]
  · exact line_shallow hls

/-- **The parser refines the grammar.** Where the limit is not hit, which is so for every
limit above the number of items, a source text has a tree exactly if the lexer reads it
without error and the grammar derives its tokens, and up to spans the tree is the one that
the grammar gives them. -/
theorem parse_iff_derives (src : String) :
    (∀ D, (Lexer.items src).length < D → ¬ HitsLimit (parse src D))
      ∧ ∀ D, ¬ HitsLimit (parse src D) → ∀ shape,
        (∃ t, parse src D = .ok t ∧ t.bare = shape)
          ↔ ∃ ls, tokenize src = .ok ls ∧ Derives .line (tokensOf ls) shape := by
  refine ⟨fun D hD => not_hitsLimit_parse hD, fun D hlimit shape => ⟨?_, ?_⟩⟩
  · rintro ⟨t, ht, rfl⟩
    obtain ⟨s, hs, -, htokens, rfl⟩ := parse_ok_iff.mp ht
    exact ⟨s.lexemes, htokens, s.derives hs⟩
  · rintro ⟨ls, htokens, hderives⟩
    obtain ⟨s, hs, rfl, rfl⟩ := hderives.writes ls rfl
    have hlevels : s.levels ≤ D := by
      by_contra hlevels
      obtain ⟨span, h⟩ := parse_tooDeep hs htokens (not_le.mp hlevels)
      exact hlimit ⟨D, span, h⟩
    exact ⟨s.tree, parse_ok_iff.mpr ⟨s, hs, hlevels, htokens, rfl⟩, rfl⟩

/-- The number of `x = 2e3 - 1` is in standard form, and not twice the variable `e`. -/
theorem parse_iff_derives_standardForm :
    ¬ HitsLimit (parse "x = 2e3 - 1" 256)
      ∧ ∃ t, parse "x = 2e3 - 1" 256 = .ok t
        ∧ t.bare = .assign "x" (.binary .sub (.binary .mul (.literal (.int 2) .origin)
          (.binary .pow (.literal (.int 10) .origin) (.literal (.int 3) .origin) .origin)
          .origin) (.literal (.int 1) .origin) .origin) .origin := by
  have hlimit : ¬ HitsLimit (parse "x = 2e3 - 1" 256) :=
    (parse_iff_derives "x = 2e3 - 1").1 256 (by
      rw [show (Lexer.items "x = 2e3 - 1").length = 8 by cbv]
      decide)
  have hlexemes : tokenize "x = 2e3 - 1" = .ok
      [⟨.ident "x", ⟨0, 1⟩⟩, ⟨.assign, ⟨2, 3⟩⟩, ⟨.int 2, ⟨4, 5⟩⟩, ⟨.ident "e", ⟨5, 6⟩⟩,
        ⟨.int 3, ⟨6, 7⟩⟩, ⟨.operator .sub, ⟨8, 9⟩⟩, ⟨.int 1, ⟨10, 11⟩⟩, ⟨.eof, ⟨11, 11⟩⟩] := by
    cbv
  refine ⟨hlimit, ((parse_iff_derives "x = 2e3 - 1").2 256 hlimit _).mpr
    ⟨_, hlexemes, ?_⟩⟩
  have hproduct := Derives.product (.power (.standardForm (.int 2) 3))
  have hone := Derives.product (.power (.number (.int 1)))
  exact .assignment "x" (.comparison (.shift (.inr rfl) (.sum hproduct) hone))

end Reckoner
