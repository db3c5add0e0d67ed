import Reckoner.Proofs.Formula.Spans
import Reckoner.Proofs.Token.Layout

/-!
Trees follow their source.

Parentheses leave no trace in a tree, and standard form and multiples have parts that are not
written as such. Still the places of a tree nest: what a part is read from stands in one piece, and
the operands of an operation stand on either side of its sign. So a part stands inside the one that
it belongs to, and from left to right the leaves stand in the order of the lexemes.

* `IsOperationAt`, `IsCallAt`, `IsAssignmentAt`: the places of the parts of a tree;
* `Formula.Nested`: trees whose places nest as their lexemes do;
* `Formula.placedLeaves`, `IsLeafOf`: the leaves of a tree with their places;
* `Phrase.nested`, `Sentence.nested`: the places of the tree of a line nest;
* `Phrase.leafSpans_sublist`, `Phrase.written_or_base`: its leaves are among its lexemes;
* `tree_follows_source`: the tree of a text.
-/

namespace Reckoner

/-! ### Places of parts -/

/-- An operation stands from the start of its left operand to the stop of its right one, which
stands behind the left one. -/
structure IsOperationAt (left right span : Span) : Prop where
  eq : span = ⟨left.start, right.stop⟩
  inOrder : left.stop ≤ right.start
  left_inside : left.Inside span
  right_inside : right.Inside span

/-- A call stands from its keyword to its closing parenthesis: its argument is derived from what is
written between the parentheses, and stands there. -/
structure IsCallAt (ls : List Lexeme) (f : RealFunction) (argument : Formula) (span : Span) :
    Prop where
  written : ∃ keyword opening inner closing,
    ⟨.function f, keyword⟩ :: ⟨.lparen, opening⟩ :: (inner ++ [⟨.rparen, closing⟩]) <:+: ls
      ∧ Derives .sum (tokensOf inner) argument.bare
      ∧ argument.span.Inside ⟨opening.stop, closing.start⟩
      ∧ span = ⟨keyword.start, closing.stop⟩
  inside : argument.span.Inside span

/-- An assignment stands from the name, which the line starts with, to the stop of its value. -/
structure IsAssignmentAt (ls : List Lexeme) (name : String) (value : Formula) (span : Span) :
    Prop where
  written : ∃ nameSpan sign more, ls = ⟨.ident name, nameSpan⟩ :: ⟨.assign, sign⟩ :: more
    ∧ span = ⟨nameSpan.start, value.span.stop⟩
  inside : value.span.Inside span

namespace Formula

/-- A tree whose places nest as the lexemes do that it is read from. -/
def Nested (ls : List Lexeme) : Formula → Prop
  | literal _ _ | var _ _ | empty => True
  | binary _ left right span =>
      IsOperationAt left.span right.span span ∧ left.Nested ls ∧ right.Nested ls
  | call f argument span => IsCallAt ls f argument span ∧ argument.Nested ls
  | assign name value span => IsAssignmentAt ls name value span ∧ value.Nested ls

/-- The numbers and variables of a tree with their places, from left to right. -/
def placedLeaves : Formula → List Lexeme
  | literal value span => [⟨value.token, span⟩]
  | var name span => [⟨.ident name, span⟩]
  | binary _ left right _ => left.placedLeaves ++ right.placedLeaves
  | call _ argument _ => argument.placedLeaves
  | assign _ value _ => value.placedLeaves
  | empty => []

end Formula

/-- The base of a number in standard form, ten, stands where its letter does. -/
structure IsStandardBase (ls : List Lexeme) (leaf : Lexeme) : Prop where
  token_eq : leaf.token = .int 10
  written : ∃ (value : Literal) (span : Span) (exponent : ℤ) (exponentSpan : Span),
    [⟨value.token, span⟩, ⟨.ident "e", leaf.span⟩, ⟨.int exponent, exponentSpan⟩] <:+: ls

/-- A leaf of a tree is a token of the source, and what it takes of the source is read as this
token alone, or it is the base of a number in standard form. -/
def IsLeafOf (source : String) (ls : List Lexeme) (leaf : Lexeme) : Prop :=
  leaf ∈ ls ∧ tokenize (leaf.span.textIn source)
      = .ok [⟨leaf.token, ⟨0, leaf.span.stop - leaf.span.start⟩⟩,
        ⟨.eof, .point (leaf.span.stop - leaf.span.start)⟩]
    ∨ IsStandardBase ls leaf

variable {source : String} {ls : List Lexeme} {span opening closing ending outer a b : Span}
  {op : Operator} {f : RealFunction} {left right inner : Phrase} {c : Clause}

/-! ### The places of a tree nest -/

/-- The trees of two phrases around a sign stand one behind the other. -/
lemma Phrase.stop_le_start (h : Stands source (operation op span left right).lexemes) :
    left.tree.span.stop ≤ right.tree.span.start := by
  obtain ⟨-, -, hbetween⟩ := List.pairwise_append.mp h.inOrder
  have hsign : Stands source (⟨.operator op, span⟩ :: right.lexemes) :=
    h.sublist (List.sublist_append_right _ _)
  have hleft : left.tree.span.Inside ⟨0, span.start⟩ :=
    left.inside fun l hl => ⟨UInt32.zero_le, hbetween l hl _ List.mem_cons_self⟩
  calc left.tree.span.stop ≤ span.start := hleft.stop_le
    _ ≤ span.stop := (hsign.cuts _ List.mem_cons_self).ordered
    _ ≤ right.tree.span.start := (right.inside hsign.inside_behind).start_le

/-- Of two stretches one behind the other the first one starts and the last one stops. -/
lemma Span.join_of_le (hstart : a.start ≤ b.start) (hstop : a.stop ≤ b.stop) :
    a.join b = ⟨a.start, b.stop⟩ := by
  have hmin : min a.start b.start = a.start := if_pos hstart
  have hmax : max a.stop b.stop = b.stop := if_pos hstop
  rw [join, hmin, hmax]

/-- An operation nests if its operands do and stand one behind the other. -/
lemma Formula.nested_combine {left right : Formula} (hleft : left.span.start ≤ left.span.stop)
    (hright : right.span.start ≤ right.span.stop) (h : left.span.stop ≤ right.span.start)
    (hl : left.Nested ls) (hr : right.Nested ls) : (combine op left right).Nested ls := by
  refine ⟨?_, hl, hr⟩
  have hstop := UInt32.le_trans h hright
  have hstart := UInt32.le_trans hleft h
  rw [Span.join_of_le hstart hstop]
  exact ⟨rfl, h, ⟨UInt32.le_refl _, hstop⟩, ⟨hstart, UInt32.le_refl _⟩⟩

/-- A call stands around its argument. -/
lemma Phrase.isCallAt (h : Stands source (call f span opening inner closing).lexemes)
    (hp : inner.Layered) (hls : (call f span opening inner closing).lexemes <:+: ls) :
    IsCallAt ls f inner.tree ⟨span.start, closing.stop⟩ := by
  have hopening := h.sublist (List.sublist_cons_self _ _)
  obtain ⟨-, -, hclosing⟩ := List.pairwise_append.mp hopening.inOrder.of_cons
  have hinside : inner.tree.span.Inside ⟨opening.stop, closing.start⟩ :=
    inner.inside fun l hl => ⟨(hopening.inside_behind l (by simp [hl])).start_le,
      hclosing l hl _ (List.mem_singleton_self _)⟩
  have hsum := Derives.loosen (Nat.succ_le_of_lt (rank_pos hp)) (derives hp)
  refine ⟨⟨span, opening, inner.lexemes, closing, hls, hsum, hinside, rfl⟩, ?_, ?_⟩
  · calc span.start ≤ span.stop := (h.cuts _ List.mem_cons_self).ordered
      _ ≤ opening.start := (h.inside_behind _ List.mem_cons_self).start_le
      _ ≤ opening.stop := (hopening.cuts _ List.mem_cons_self).ordered
      _ ≤ inner.tree.span.start := hinside.start_le
  · exact UInt32.le_trans hinside.stop_le (h.cuts ⟨.rparen, closing⟩ (by simp [lexemes])).ordered

/-- Around a sign the trees of two phrases nest. -/
lemma Phrase.nested_operation (h : Stands source (operation op span left right).lexemes)
    (hl : left.tree.Nested ls) (hr : right.tree.Nested ls) :
    (operation op span left right).tree.Nested ls :=
  Formula.nested_combine
    (Formula.span_cuts (spans_cut (h.sublist infix_left.sublist))).ordered
    (Formula.span_cuts (spans_cut (h.sublist infix_right.sublist))).ordered
    (stop_le_start h) hl hr

/-- **The tree of a phrase** nests as the phrase does. -/
lemma Phrase.nested {p : Phrase} (h : Stands source p.lexemes) (hp : p.Layered)
    (hls : p.lexemes <:+: ls) : p.tree.Nested ls := by
  induction p with
  | number value span | named name span => trivial
  | standardForm value span eSpan exponent exponentSpan =>
      obtain ⟨hspan, he, hexponent⟩ : span.Cuts source ∧ eSpan.Cuts source
          ∧ exponentSpan.Cuts source := by simpa [lexemes] using h.cuts
      obtain ⟨⟨hbehind, hbehind'⟩, hpower⟩ : (span.stop ≤ eSpan.start
          ∧ span.stop ≤ exponentSpan.start) ∧ eSpan.stop ≤ exponentSpan.start := by
        simpa [lexemes] using h.inOrder
      have hjoin := (he.join hexponent).ordered
      have hbetween : span.stop ≤ (eSpan.join exponentSpan).start := by
        rw [UInt32.le_iff_toNat_le, Span.toNat_start_join]
        exact le_min (UInt32.le_iff_toNat_le.mp hbehind) (UInt32.le_iff_toNat_le.mp hbehind')
      exact Formula.nested_combine hspan.ordered hjoin hbetween trivial
        (Formula.nested_combine he.ordered hexponent.ordered hpower trivial trivial)
  | multiple value span name nameSpan =>
      obtain ⟨hspan, hname⟩ : span.Cuts source ∧ nameSpan.Cuts source := by
        simpa [lexemes] using h.cuts
      have hbehind : span.stop ≤ nameSpan.start := by simpa [lexemes] using h.inOrder
      exact Formula.nested_combine hspan.ordered hname.ordered hbehind trivial trivial
  | call f span opening argument closing ih =>
      exact ⟨isCallAt h hp hls, ih (h.sublist infix_call.sublist) hp (infix_call.trans hls)⟩
  | group opening inner closing ih =>
      exact ih (h.sublist infix_group.sublist) hp (infix_group.trans hls)
  | operation op span left right ihl ihr =>
      have hl := ihl (h.sublist infix_left.sublist) hp.2.1 (infix_left.trans hls)
      have hr := ihr (h.sublist infix_right.sublist) hp.2.2.1 (infix_right.trans hls)
      exact nested_operation h hl hr

lemma Clause.nested (h : Stands source c.lexemes) (hc : c.Layered) (hls : c.lexemes <:+: ls) :
    c.tree.Nested ls := by
  cases c with
  | expression p => exact p.nested h hc hls
  | comparison op span left right =>
      have hl := left.nested (h.sublist Phrase.infix_left.sublist) hc.2.1
        (Phrase.infix_left.trans hls)
      have hr := right.nested (h.sublist Phrase.infix_right.sublist) hc.2.2
        (Phrase.infix_right.trans hls)
      exact Phrase.nested_operation h hl hr

/-- **The tree of a line** nests as its lexemes do. -/
lemma Sentence.nested {s : Sentence} (h : Stands source s.lexemes) (hs : s.Layered) :
    s.tree.Nested s.lexemes := by
  cases s with
  | blank ending => trivial
  | statement c ending =>
      exact c.nested (h.sublist infix_statement.sublist) hs infix_statement
  | assignment name span sign c ending =>
      have hvalue : c.tree.span.Inside ⟨span.stop, lastOffset⟩ :=
        c.inside fun l hl => h.inside_behind l (by simp [hl])
      have hname : span.start ≤ span.stop := (h.cuts ⟨.ident name, span⟩ List.mem_cons_self).ordered
      exact ⟨⟨⟨span, sign, _, rfl, rfl⟩, UInt32.le_trans hname hvalue.start_le, UInt32.le_refl _⟩,
        c.nested (h.sublist infix_assignment.sublist) hs infix_assignment⟩

/-! ### Leaves -/

/-- The leaves of a phrase stand where some of its lexemes do, from left to right. -/
lemma Phrase.leafSpans_sublist (p : Phrase) :
    (p.tree.placedLeaves.map Lexeme.span).Sublist (p.lexemes.map Lexeme.span) := by
  induction p with
  | number | standardForm | multiple | named => exact List.Sublist.refl _
  | call f span opening argument closing ih => exact ih.trans (infix_call.sublist.map _)
  | group opening inner closing ih => exact ih.trans (infix_group.sublist.map _)
  | operation op span left right ihl ihr =>
      simp only [lexemes, tree, Formula.combine, Formula.placedLeaves, List.map_append,
        List.map_cons]
      exact ihl.append (ihr.cons _)

lemma Clause.leafSpans_sublist (c : Clause) :
    (c.tree.placedLeaves.map Lexeme.span).Sublist (c.lexemes.map Lexeme.span) := by
  cases c with
  | expression p => exact p.leafSpans_sublist
  | comparison op span left right => exact (Phrase.operation op span left right).leafSpans_sublist

lemma Sentence.leafSpans_sublist (s : Sentence) :
    (s.tree.placedLeaves.map Lexeme.span).Sublist (s.lexemes.map Lexeme.span) := by
  cases s with
  | blank ending => exact List.nil_sublist _
  | statement c ending => exact c.leafSpans_sublist.trans (infix_statement.sublist.map _)
  | assignment name span sign c ending =>
      exact c.leafSpans_sublist.trans (infix_assignment.sublist.map _)

/-- A leaf of a phrase is one of its lexemes, or the base of a number in standard form. -/
lemma Phrase.written_or_base {p : Phrase} (h : p.lexemes <:+: ls) :
    ∀ leaf ∈ p.tree.placedLeaves, leaf ∈ ls ∨ IsStandardBase ls leaf := by
  induction p with
  | number value span => exact fun leaf hleaf => .inl (h.subset hleaf)
  | named name span => exact fun leaf hleaf => .inl (h.subset hleaf)
  | standardForm value span eSpan exponent exponentSpan =>
      simp only [tree, Formula.combine, Formula.placedLeaves, List.forall_mem_append,
        List.forall_mem_singleton]
      exact ⟨.inl (h.subset (by simp [lexemes])),
        .inr ⟨rfl, value, span, exponent, exponentSpan, h⟩,
        .inl (h.subset (by simp [lexemes, Literal.token]))⟩
  | multiple value span name nameSpan => exact fun leaf hleaf => .inl (h.subset hleaf)
  | call f span opening argument closing ih => exact ih (infix_call.trans h)
  | group opening inner closing ih => exact ih (infix_group.trans h)
  | operation op span left right ihl ihr =>
      exact List.forall_mem_append.mpr ⟨ihl (infix_left.trans h), ihr (infix_right.trans h)⟩

lemma Clause.written_or_base (h : c.lexemes <:+: ls) :
    ∀ leaf ∈ c.tree.placedLeaves, leaf ∈ ls ∨ IsStandardBase ls leaf := by
  cases c with
  | expression p => exact p.written_or_base h
  | comparison op span left right => exact (Phrase.operation op span left right).written_or_base h

lemma Sentence.written_or_base (s : Sentence) :
    ∀ leaf ∈ s.tree.placedLeaves, leaf ∈ s.lexemes ∨ IsStandardBase s.lexemes leaf := by
  cases s with
  | blank ending => simp [tree, Formula.placedLeaves]
  | statement c ending => exact c.written_or_base infix_statement
  | assignment name span sign c ending => exact c.written_or_base infix_assignment

/-- No leaf is the end of the input. -/
lemma Formula.token_ne_eof (t : Formula) : ∀ leaf ∈ t.placedLeaves, leaf.token ≠ .eof := by
  induction t with
  | literal value span => cases value <;> simp [placedLeaves, Literal.token]
  | var name span => simp [placedLeaves]
  | binary op left right span ihl ihr => exact List.forall_mem_append.mpr ⟨ihl, ihr⟩
  | call f argument span ih => exact ih
  | assign name value span ih => exact ih
  | empty => simp [placedLeaves]

/-- A leaf of a line takes some of the source, and is read from what it takes. -/
lemma Sentence.isLeafOf {s : Sentence} (h : tokenize source = .ok s.lexemes)
    (hsize : source.utf8ByteSize < 2 ^ 32) :
    ∀ leaf ∈ s.tree.placedLeaves,
      leaf.span.start < leaf.span.stop ∧ IsLeafOf source s.lexemes leaf := by
  intro leaf hleaf
  have htoken := s.tree.token_ne_eof leaf hleaf
  have hlt := start_lt_stop_of_tokenize h hsize
  obtain hmem | hbase := s.written_or_base leaf hleaf
  · have halone := (tiles_of_tokenize h hsize).alone leaf hmem htoken
    exact ⟨hlt leaf hmem htoken, .inl ⟨hmem, halone⟩⟩
  · obtain ⟨value, span, exponent, exponentSpan, hwritten⟩ := hbase.written
    have hletter : ⟨.ident "e", leaf.span⟩ ∈ s.lexemes := hwritten.subset (by simp)
    exact ⟨hlt ⟨.ident "e", leaf.span⟩ hletter (by simp), .inr hbase⟩

/-! ### The tree of a text -/

/-- **The tree of a text follows it.** The places of its parts nest. Its leaves stand one behind the
other, where tokens of the text do, and each is read from what it takes of the text. -/
theorem tree_follows_source {D : ℕ} {t : Formula} (h : parse source D = .ok t)
    (hsize : source.utf8ByteSize < 2 ^ 32) :
    ∃ ls, tokenize source = .ok ls ∧ t.Nested ls
      ∧ (∀ s ∈ t.spans, s.Cuts source)
      ∧ t.placedLeaves.Pairwise (fun a b => a.span.stop ≤ b.span.start)
      ∧ ∀ leaf ∈ t.placedLeaves,
          leaf.span.start < leaf.span.stop ∧ IsLeafOf source ls leaf := by
  have hcuts := spans_cut_of_parse hsize h
  obtain ⟨s, hs, -, htokens, rfl⟩ := parse_ok_iff.mp h
  have hstands := stands_of_tokenize htokens hsize
  have hinOrder : (s.lexemes.map Lexeme.span).Pairwise fun a b => a.stop ≤ b.start :=
    List.pairwise_map.mpr hstands.inOrder
  exact ⟨s.lexemes, htokens, s.nested hstands hs, hcuts,
    List.pairwise_map.mp (hinOrder.sublist s.leafSpans_sublist), s.isLeafOf htokens hsize⟩

/-- The parentheses around the sum below leave no trace in its tree, which starts behind the first
one. Ten, the base of the number in standard form, is a leaf that no token is read as. -/
theorem tree_follows_source_standardForm :
    ∃ t ls, parse "x = (2e3 + sqrt(y))" 128 = .ok t
      ∧ tokenize "x = (2e3 + sqrt(y))" = .ok ls
      ∧ t.spans = [⟨0, 18⟩, ⟨5, 18⟩, ⟨5, 8⟩, ⟨5, 6⟩, ⟨6, 8⟩, ⟨6, 7⟩, ⟨7, 8⟩, ⟨11, 18⟩, ⟨16, 17⟩]
      ∧ t.placedLeaves
          = [⟨.int 2, ⟨5, 6⟩⟩, ⟨.int 10, ⟨6, 7⟩⟩, ⟨.int 3, ⟨7, 8⟩⟩, ⟨.ident "y", ⟨16, 17⟩⟩]
      ∧ t.Nested ls ∧ IsStandardBase ls ⟨.int 10, ⟨6, 7⟩⟩ := by
  have h : parse "x = (2e3 + sqrt(y))" 128
      = .ok (.assign "x"
          (.binary .add
            (.binary .mul (.literal (.int 2) ⟨5, 6⟩)
              (.binary .pow (.literal (.int 10) ⟨6, 7⟩) (.literal (.int 3) ⟨7, 8⟩) ⟨6, 8⟩) ⟨5, 8⟩)
            (.call .sqrt (.var "y" ⟨16, 17⟩) ⟨11, 18⟩) ⟨5, 18⟩) ⟨0, 18⟩) := by
    cbv
  obtain ⟨ls, hls, hnested, -, -, hleaves⟩ := tree_follows_source h (by decide)
  refine ⟨_, ls, h, hls, by decide, by decide, hnested, ?_⟩
  obtain ⟨-, ⟨-, halone⟩ | hbase⟩ := hleaves ⟨.int 10, ⟨6, 7⟩⟩ (by decide)
  · have hletter : (⟨6, 7⟩ : Span).textIn "x = (2e3 + sqrt(y))" = "e" := by decide
    have hread : tokenize "e" = .ok [⟨.ident "e", ⟨0, 1⟩⟩, ⟨.eof, ⟨1, 1⟩⟩] := by cbv
    rw [hletter, hread] at halone
    simp at halone
  · exact hbase

end Reckoner
