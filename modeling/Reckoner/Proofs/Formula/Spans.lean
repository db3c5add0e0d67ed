import Reckoner.Proofs.Formula.Built
import Reckoner.Proofs.Token.Spans

/-!
Where trees and errors of the parser stand.

The parser blames a token in view, or the place at which the lexer gave up, or the beginning of the
source. Every part of a tree covers a stretch from the start of one token to the stop of another,
which stands behind it. All these can be cut out of the source.

* `Parser.Within`, `Parser.Built.keeps`: the places that the parser has in view;
* `parseItems_blames`, `parse_blames`: the places that it blames;
* `Phrase.infix_left` and its kin: the parts of a phrase are written in one piece;
* `Formula.spans`: the places of a tree and of its parts;
* `Span.Inside`, `Phrase.inside`: the tree of a phrase stands where its lexemes do;
* `Phrase.spans_cut`, `Sentence.spans_cut`: the places of the tree of a line;
* `spans_cut_of_parse`: the same of the tree of a text.
-/

namespace Reckoner

open Step

/-! ### Errors of the parser -/

namespace Parser

variable {α : Type} {P : Span → Prop} {p : Parser}

/-- The places of all that a parser has in view and has still to come. -/
structure Within (P : Span → Prop) (p : Parser) : Prop where
  current : ∀ l, p.current = some l → P l.span
  ahead : ∀ l, p.ahead = some l → P l.span
  rest : ∀ item ∈ p.rest, P (Lexer.Item.span item)
  lexicalErrors : ∀ e ∈ p.lexicalErrors, P e.span

lemma Within.shifted (h : p.Within P) : p.shifted.Within P := by
  have hrest := h.rest
  rw [Parser.shifted]
  split
  · exact ⟨h.ahead, by simp, h.rest, h.lexicalErrors⟩
  · next l rest heq =>
    rw [heq, List.forall_mem_cons] at hrest
    exact ⟨h.ahead, by rintro _ ⟨⟩; exact hrest.1, hrest.2, h.lexicalErrors⟩
  · next e rest heq =>
    rw [heq, List.forall_mem_cons] at hrest
    refine ⟨h.ahead, by simp, hrest.2, List.forall_mem_append.mpr ⟨h.lexicalErrors, ?_⟩⟩
    exact List.forall_mem_singleton.mpr hrest.1

lemma within_ofItems {items : List Lexer.Item} (h : ∀ item ∈ items, P (Lexer.Item.span item))
    (maxDepth : ℕ) : (ofItems items maxDepth).Within P := by
  have hstart : (⟨none, none, items, [], maxDepth, 0⟩ : Parser).Within P :=
    ⟨by simp, by simp, h, by simp⟩
  exact hstart.shifted.shifted

lemma Within.here (h : p.Within P) (horigin : P .origin) : P p.here := by
  rw [Parser.here]
  split
  · next l hcurrent => exact h.current l hcurrent
  · exact horigin

/-- What the parser has in view stays in `P`, and so does what it blames. It does not report
errors of the lexer itself. -/
lemma Built.keeps {x : Parse α} (h : Built P x) (horigin : P .origin) :
    Keeps (Within P) (fun e => P e.span ∧ ∀ e', e.cause ≠ .lexical e') x := by
  induction h with
  | done a => exact keeps_pure a
  | failed hcause hspan => exact keeps_throw ⟨hspan, hcause⟩
  | moved => exact keeps_modify fun _ hp => hp.shifted
  | levelled g => exact keeps_modify fun _ hp => ⟨hp.current, hp.ahead, hp.rest, hp.lexicalErrors⟩
  | next _ _ ihx ihf => exact ihx.bind ihf
  | looked _ _ ih => exact keeps_get_bind fun p hp => ih p (hp.here horigin)

end Parser

/-- **What the parser blames** is the place of an item or the beginning of the source. An error of
the lexer is blamed on its own place. -/
theorem parseItems_blames {P : Span → Prop} {items : List Lexer.Item}
    (h : ∀ item ∈ items, P (Lexer.Item.span item)) (horigin : P .origin) {D : ℕ} {e : ParseError}
    (he : parseItems items D = .error e) : P e.span ∧ ∀ e', e.cause = .lexical e' → P e'.span := by
  obtain ⟨hafter, hblames⟩ :=
    Parser.built_line.keeps horigin _ (Parser.within_ofItems h D)
  rw [parseItems_eq] at he
  split at he
  · next e' _ heq =>
    have hlexical : P e'.span := hafter.lexicalErrors e' (by simp [heq])
    obtain rfl := Except.error.inj he
    refine ⟨hlexical, ?_⟩
    rintro _ ⟨⟩
    exact hlexical
  · obtain ⟨hspan, hcause⟩ := hblames e he
    exact ⟨hspan, fun e' he' => absurd he' (hcause e')⟩

/-- What is blamed in a text can be cut out of it. -/
theorem parse_blames {source : String} (hsize : source.utf8ByteSize < 2 ^ 32) {D : ℕ}
    {e : ParseError} (h : parse source D = .error e) :
    e.span.Cuts source ∧ ∀ e', e.cause = .lexical e' → e'.span.Cuts source :=
  parseItems_blames (Lexer.arranged_items hsize).cuts (Span.cuts_origin source) h

section Trees

variable {source : String} {ls : List Lexeme} {span opening closing ending outer a b : Span}
  {op : Operator} {f : RealFunction} {left right inner : Phrase} {c : Clause}

/-! ### Parts are written in one piece -/

lemma Phrase.infix_call : inner.lexemes <:+: (call f span opening inner closing).lexemes :=
  ⟨[⟨.function f, span⟩, ⟨.lparen, opening⟩], [⟨.rparen, closing⟩], by simp [lexemes]⟩

lemma Phrase.infix_group : inner.lexemes <:+: (group opening inner closing).lexemes :=
  ⟨[⟨.lparen, opening⟩], [⟨.rparen, closing⟩], by simp [lexemes]⟩

lemma Phrase.infix_left : left.lexemes <:+: (operation op span left right).lexemes :=
  (List.prefix_append _ _).isInfix

lemma Phrase.infix_right : right.lexemes <:+: (operation op span left right).lexemes :=
  ((List.suffix_cons _ _).trans (List.suffix_append _ _)).isInfix

lemma Sentence.infix_statement : c.lexemes <:+: (statement c ending).lexemes :=
  (List.prefix_append _ _).isInfix

lemma Sentence.infix_assignment {name : String} {sign : Span} :
    c.lexemes <:+: (assignment name span sign c ending).lexemes :=
  ⟨[⟨.ident name, span⟩, ⟨.assign, sign⟩], [⟨.eof, ending⟩], by simp [lexemes]⟩

/-! ### The places of a tree -/

/-- The places of a tree and of all its parts. The empty line has none. -/
def Formula.spans : Formula → List Span
  | literal _ span | var _ span => [span]
  | binary _ left right span => span :: (left.spans ++ right.spans)
  | call _ argument span => span :: argument.spans
  | assign _ value span => span :: value.spans
  | empty => []

lemma Formula.span_cuts {t : Formula} (h : ∀ s ∈ t.spans, s.Cuts source) : t.span.Cuts source := by
  cases t with
  | empty => exact Span.cuts_origin source
  | literal _ _ | var _ _ | binary _ _ _ _ | call _ _ _ | assign _ _ _ =>
      exact h _ (by simp [spans, span])

lemma Formula.combine_spans_cut {left right : Formula}
    (hl : ∀ s ∈ left.spans, s.Cuts source) (hr : ∀ s ∈ right.spans, s.Cuts source) :
    ∀ s ∈ (combine op left right).spans, s.Cuts source :=
  List.forall_mem_cons.mpr
    ⟨(span_cuts hl).join (span_cuts hr), List.forall_mem_append.mpr ⟨hl, hr⟩⟩

/-- A stretch lies inside another one. -/
structure Span.Inside (inner outer : Span) : Prop where
  start_le : outer.start ≤ inner.start
  stop_le : inner.stop ≤ outer.stop

lemma Span.Inside.join (ha : a.Inside outer) (hb : b.Inside outer) : (a.join b).Inside outer where
  start_le := by
    simp only [UInt32.le_iff_toNat_le, toNat_start_join]
    exact le_min (UInt32.le_iff_toNat_le.mp ha.start_le) (UInt32.le_iff_toNat_le.mp hb.start_le)
  stop_le := by
    simp only [UInt32.le_iff_toNat_le, toNat_stop_join]
    exact max_le (UInt32.le_iff_toNat_le.mp ha.stop_le) (UInt32.le_iff_toNat_le.mp hb.stop_le)

/-- Where all lexemes of a phrase stand, there its tree does. -/
lemma Phrase.inside {p : Phrase} (h : ∀ l ∈ p.lexemes, l.span.Inside outer) :
    p.tree.span.Inside outer := by
  induction p with
  | number value span => exact h ⟨value.token, span⟩ (List.mem_singleton_self _)
  | named name span => exact h ⟨.ident name, span⟩ (List.mem_singleton_self _)
  | standardForm value span eSpan exponent exponentSpan =>
      simp only [lexemes, List.forall_mem_cons] at h
      obtain ⟨hspan, he, hexponent, -⟩ := h
      exact hspan.join (he.join hexponent)
  | multiple value span name nameSpan =>
      simp only [lexemes, List.forall_mem_cons] at h
      exact h.1.join h.2.1
  | call f span opening argument closing _ =>
      have hkeyword := h ⟨.function f, span⟩ (by simp [lexemes])
      have hclosing := h ⟨.rparen, closing⟩ (by simp [lexemes])
      exact ⟨hkeyword.start_le, hclosing.stop_le⟩
  | group opening inner closing ih => exact ih fun l hl => h l (by simp [lexemes, hl])
  | operation op span left right ihl ihr =>
      have hl := ihl fun l hl => h l (by simp [lexemes, hl])
      have hr := ihr fun l hl => h l (by simp [lexemes, hl])
      exact hl.join hr

lemma Clause.inside (h : ∀ l ∈ c.lexemes, l.span.Inside outer) : c.tree.span.Inside outer := by
  cases c with
  | expression p => exact p.inside h
  | comparison op span left right => exact (Phrase.operation op span left right).inside h

/-- The last offset there is. -/
def lastOffset : UInt32 := 0xFFFFFFFF

lemma le_lastOffset (n : UInt32) : n ≤ lastOffset := by
  have hlt : n.toNat < 4294967296 := n.toNat_lt
  rw [UInt32.le_iff_toNat_le]
  show n.toNat ≤ 4294967295
  omega

/-- What stands behind a lexeme stands behind its stop. -/
lemma Stands.inside_behind {l : Lexeme} (h : Stands source (l :: ls)) :
    ∀ m ∈ ls, m.span.Inside ⟨l.span.stop, lastOffset⟩ :=
  fun _ hm => ⟨List.rel_of_pairwise_cons h.inOrder hm, le_lastOffset _⟩

/-- The tree of a phrase can be cut out of the source of its lexemes, and so can all its parts. -/
lemma Phrase.spans_cut {p : Phrase} (h : Stands source p.lexemes) :
    ∀ s ∈ p.tree.spans, s.Cuts source := by
  induction p with
  | number value span => simpa [lexemes, tree, Formula.spans] using h.cuts
  | standardForm value span eSpan exponent exponentSpan =>
      obtain ⟨hspan, heSpan, hexponentSpan⟩ : span.Cuts source ∧ eSpan.Cuts source
          ∧ exponentSpan.Cuts source := by simpa [lexemes] using h.cuts
      refine Formula.combine_spans_cut ?_ (Formula.combine_spans_cut ?_ ?_)
      · exact List.forall_mem_singleton.mpr hspan
      · exact List.forall_mem_singleton.mpr heSpan
      · exact List.forall_mem_singleton.mpr hexponentSpan
  | multiple value span name nameSpan =>
      obtain ⟨hspan, hnameSpan⟩ : span.Cuts source ∧ nameSpan.Cuts source := by
        simpa [lexemes] using h.cuts
      refine Formula.combine_spans_cut ?_ ?_
      · exact List.forall_mem_singleton.mpr hspan
      · exact List.forall_mem_singleton.mpr hnameSpan
  | named name span => simpa [lexemes, tree, Formula.spans] using h.cuts
  | call f span opening argument closing ih =>
      have hwhole : (⟨span.start, closing.stop⟩ : Span).Cuts source :=
        h.spanning (b := ⟨.rparen, closing⟩) (by simp)
      exact List.forall_mem_cons.mpr ⟨hwhole, ih (h.sublist infix_call.sublist)⟩
  | group opening inner closing ih => exact ih (h.sublist infix_group.sublist)
  | operation op span left right ihl ihr =>
      exact Formula.combine_spans_cut (ihl (h.sublist infix_left.sublist))
        (ihr (h.sublist infix_right.sublist))

lemma Clause.spans_cut (h : Stands source c.lexemes) :
    ∀ s ∈ c.tree.spans, s.Cuts source := by
  cases c with
  | expression p => exact p.spans_cut h
  | comparison op span left right => exact (Phrase.operation op span left right).spans_cut h

/-- **The tree of a line** can be cut out of the source of its lexemes, and so can all its parts. -/
lemma Sentence.spans_cut {s : Sentence} (h : Stands source s.lexemes) :
    ∀ span ∈ s.tree.spans, span.Cuts source := by
  cases s with
  | blank ending => simp [tree, Formula.spans]
  | statement c ending => exact c.spans_cut (h.sublist infix_statement.sublist)
  | assignment name span sign c ending =>
      have hvalue := c.spans_cut (h.sublist infix_assignment.sublist)
      refine List.forall_mem_cons.mpr ⟨?_, hvalue⟩
      -- the value stands behind the name
      have hbehind : c.tree.span.Inside ⟨span.stop, lastOffset⟩ :=
        c.inside fun l hl => h.inside_behind l (by simp [hl])
      have hname : span.Cuts source := h.cuts ⟨.ident name, span⟩ (by simp [lexemes])
      have htree := Formula.span_cuts hvalue
      refine hname.through htree ?_
      calc span.start ≤ span.stop := hname.ordered
        _ ≤ c.tree.span.start := hbehind.start_le
        _ ≤ c.tree.span.stop := htree.ordered

/-- The tree of a text can be cut out of it, and so can all its parts. -/
theorem spans_cut_of_parse (hsize : source.utf8ByteSize < 2 ^ 32) {D : ℕ} {t : Formula}
    (h : parse source D = .ok t) : ∀ s ∈ t.spans, s.Cuts source := by
  obtain ⟨s, -, -, htokens, rfl⟩ := parse_ok_iff.mp h
  exact s.spans_cut (stands_of_tokenize htokens hsize)

end Trees

end Reckoner
