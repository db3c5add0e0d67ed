import Reckoner.Proofs.Formula.Phrase

/-!
Phrases and lines with other lexemes in the same places.

Where lexemes are replaced one by one by lexemes of the same kind, operators by operators of
the same precedence, a phrase becomes a phrase of the same form. It is as layered and needs
as many levels; and where the tokens stay the same so does the tree, up to spans.

* `Token.Alike`: tokens that take each other's place;
* `Phrase.Like`: phrases of one form whose tokens are related one by one;
* `Phrase.exists_like`: other lexemes are written with a phrase of the same form;
* `Sentence.exists_of_tokens`, `Sentence.exists_of_alike`: the same for lines.
-/

namespace Reckoner

/-- Tokens that take each other's place: numbers of one kind, and operators of the same
precedence. -/
def Token.Alike : Token → Token → Prop
  | int _, int _ | decimal _, decimal _ => True
  | operator op, operator op' =>
      op.precedence = op'.precedence ∧ op.isComparison = op'.isComparison
  | s, t => s = t

namespace Token

@[simp] lemma alike_int {n : ℤ} {t : Token} : Alike (int n) t ↔ ∃ n', t = int n' := by
  cases t <;> simp [Alike]

@[simp] lemma alike_decimal {a : Decimal} {t : Token} :
    Alike (decimal a) t ↔ ∃ a', t = decimal a' := by
  cases t <;> simp [Alike]

@[simp] lemma alike_operator {op : Operator} {t : Token} :
    Alike (operator op) t ↔ ∃ op', t = operator op' ∧ op.precedence = op'.precedence
      ∧ op.isComparison = op'.isComparison := by
  cases t <;> simp [Alike]

@[simp] lemma alike_ident {name : String} {t : Token} :
    Alike (ident name) t ↔ t = ident name := by
  cases t <;> simp [Alike, eq_comm]

@[simp] lemma alike_function {f : RealFunction} {t : Token} :
    Alike (function f) t ↔ t = function f := by
  cases t <;> simp [Alike, eq_comm]

@[simp] lemma alike_lparen {t : Token} : Alike lparen t ↔ t = lparen := by
  cases t <;> simp [Alike]

@[simp] lemma alike_rparen {t : Token} : Alike rparen t ↔ t = rparen := by
  cases t <;> simp [Alike]

@[simp] lemma alike_assign {t : Token} : Alike assign t ↔ t = assign := by
  cases t <;> simp [Alike]

@[simp] lemma alike_eof {t : Token} : Alike eof t ↔ t = eof := by
  cases t <;> simp [Alike]

lemma alike_refl (t : Token) : t.Alike t := by
  cases t <;> simp

lemma alike_literal {value : Literal} {t : Token} (h : Alike value.token t) :
    ∃ value' : Literal, t = value'.token := by
  cases value with
  | int n =>
      obtain ⟨n', rfl⟩ := alike_int.mp h
      exact ⟨.int n', rfl⟩
  | decimal a =>
      obtain ⟨a', rfl⟩ := alike_decimal.mp h
      exact ⟨.decimal a', rfl⟩

end Token

lemma Literal.token_injective {value value' : Literal} (h : value.token = value'.token) :
    value = value' := by
  cases value <;> cases value' <;> simp_all [token]

/-- Lexemes whose tokens are related one by one. -/
def Related (R : Token → Token → Prop) : List Lexeme → List Lexeme → Prop :=
  List.Forall₂ fun l m => R l.token m.token

section Related

variable {R : Token → Token → Prop}

lemma related_nil {ms : List Lexeme} : Related R [] ms ↔ ms = [] :=
  List.forall₂_nil_left_iff

lemma related_cons {l : Lexeme} {ls ms : List Lexeme} :
    Related R (l :: ls) ms ↔ ∃ t span ns, R l.token t ∧ Related R ls ns ∧ ms = ⟨t, span⟩ :: ns := by
  rw [Related, List.forall₂_cons_left_iff]
  constructor
  · rintro ⟨⟨t, span⟩, ns, ht, hns, rfl⟩
    exact ⟨t, span, ns, ht, hns, rfl⟩
  · rintro ⟨t, span, ns, ht, hns, rfl⟩
    exact ⟨⟨t, span⟩, ns, ht, hns, rfl⟩

lemma related_append {ks ls ms : List Lexeme} :
    Related R (ks ++ ls) ms ↔ ∃ ms' ns, Related R ks ms' ∧ Related R ls ns ∧ ms = ms' ++ ns := by
  induction ks generalizing ms with
  | nil => simp [related_nil]
  | cons k ks ih =>
      simp only [List.cons_append, related_cons, ih]
      constructor
      · rintro ⟨t, span, _, ht, ⟨ms', ns, hks, hls, rfl⟩, rfl⟩
        exact ⟨_, ns, ⟨t, span, ms', ht, hks, rfl⟩, hls, rfl⟩
      · rintro ⟨_, ns, ⟨t, span, ms', ht, hks, rfl⟩, hls, rfl⟩
        exact ⟨t, span, _, ht, ⟨ms', ns, hks, hls, rfl⟩, rfl⟩

lemma related_iff_tokens {ls ms : List Lexeme} :
    Related R ls ms ↔ List.Forall₂ R (tokensOf ls) (tokensOf ms) := by
  rw [tokensOf, tokensOf, List.forall₂_map_left_iff, List.forall₂_map_right_iff, Related]

end Related

/-- **Phrases of one form** whose tokens are related one by one. -/
inductive Phrase.Like (R : Token → Token → Prop) : Phrase → Phrase → Prop
  | number {value value' : Literal} (span span' : Span) (h : R value.token value'.token) :
      Like R (.number value span) (.number value' span')
  | standardForm {value value' : Literal} {exponent exponent' : ℤ}
      (span span' eSpan eSpan' exponentSpan exponentSpan' : Span)
      (h : R value.token value'.token) (h' : R (.int exponent) (.int exponent')) :
      Like R (.standardForm value span eSpan exponent exponentSpan)
        (.standardForm value' span' eSpan' exponent' exponentSpan')
  | multiple {value value' : Literal} (span span' : Span) (name : String)
      (nameSpan nameSpan' : Span) (h : R value.token value'.token) :
      Like R (.multiple value span name nameSpan) (.multiple value' span' name nameSpan')
  | named (name : String) (span span' : Span) : Like R (.named name span) (.named name span')
  | call (f : RealFunction) (span span' opening opening' : Span) {argument argument' : Phrase}
      (closing closing' : Span) (h : Like R argument argument') :
      Like R (.call f span opening argument closing) (.call f span' opening' argument' closing')
  | group (opening opening' : Span) {inner inner' : Phrase} (closing closing' : Span)
      (h : Like R inner inner') : Like R (.group opening inner closing)
        (.group opening' inner' closing')
  | operation {op op' : Operator} (span span' : Span) {left left' right right' : Phrase}
      (h : R (.operator op) (.operator op')) (hl : Like R left left') (hr : Like R right right') :
      Like R (.operation op span left right) (.operation op' span' left' right')

namespace Phrase

variable {R : Token → Token → Prop} {p p' : Phrase}

/-- **Other lexemes of the same kinds** are written with a phrase of the same form. -/
lemma exists_like (hR : ∀ s t, R s t → s.Alike t) (p : Phrase) :
    ∀ ls, Related R p.lexemes ls → ∃ p' : Phrase, p'.lexemes = ls ∧ p.Like R p' := by
  induction p with
  | number value span =>
      simp only [lexemes, related_cons, related_nil]
      rintro ls ⟨t, span', _, ht, rfl, rfl⟩
      obtain ⟨value', rfl⟩ := Token.alike_literal (hR _ _ ht)
      exact ⟨.number value' span', rfl, .number span span' ht⟩
  | standardForm value span eSpan exponent exponentSpan =>
      simp only [lexemes, related_cons, related_nil]
      rintro ls ⟨t, span', _, ht, ⟨e, eSpan', _, he, ⟨u, exponentSpan', _, hu, rfl, rfl⟩, rfl⟩, rfl⟩
      obtain ⟨value', rfl⟩ := Token.alike_literal (hR _ _ ht)
      obtain rfl := Token.alike_ident.mp (hR _ _ he)
      obtain ⟨exponent', rfl⟩ := Token.alike_int.mp (hR _ _ hu)
      exact ⟨.standardForm value' span' eSpan' exponent' exponentSpan', rfl,
        .standardForm span span' eSpan eSpan' exponentSpan exponentSpan' ht hu⟩
  | multiple value span name nameSpan =>
      simp only [lexemes, related_cons, related_nil]
      rintro ls ⟨t, span', _, ht, ⟨u, nameSpan', _, hu, rfl, rfl⟩, rfl⟩
      obtain ⟨value', rfl⟩ := Token.alike_literal (hR _ _ ht)
      obtain rfl := Token.alike_ident.mp (hR _ _ hu)
      exact ⟨.multiple value' span' name nameSpan', rfl,
        .multiple span span' name nameSpan nameSpan' ht⟩
  | named name span =>
      simp only [lexemes, related_cons, related_nil]
      rintro ls ⟨t, span', _, ht, rfl, rfl⟩
      obtain rfl := Token.alike_ident.mp (hR _ _ ht)
      exact ⟨.named name span', rfl, .named name span span'⟩
  | call f span opening argument closing ih =>
      simp only [lexemes, related_cons, related_append, related_nil]
      rintro ls ⟨t, span', _, ht, ⟨u, opening', _, hu, ⟨ms, _, hms,
        ⟨v, closing', _, hv, rfl, rfl⟩, rfl⟩, rfl⟩, rfl⟩
      obtain rfl := Token.alike_function.mp (hR _ _ ht)
      obtain rfl := Token.alike_lparen.mp (hR _ _ hu)
      obtain rfl := Token.alike_rparen.mp (hR _ _ hv)
      obtain ⟨argument', rfl, hlike⟩ := ih ms hms
      exact ⟨.call f span' opening' argument' closing', rfl,
        .call f span span' opening opening' closing closing' hlike⟩
  | group opening inner closing ih =>
      simp only [lexemes, related_cons, related_append, related_nil]
      rintro ls ⟨u, opening', _, hu, ⟨ms, _, hms, ⟨v, closing', _, hv, rfl, rfl⟩, rfl⟩, rfl⟩
      obtain rfl := Token.alike_lparen.mp (hR _ _ hu)
      obtain rfl := Token.alike_rparen.mp (hR _ _ hv)
      obtain ⟨inner', rfl, hlike⟩ := ih ms hms
      exact ⟨.group opening' inner' closing', rfl, .group opening opening' closing closing' hlike⟩
  | operation op span left right ihl ihr =>
      simp only [lexemes, related_cons, related_append]
      rintro ls ⟨ms, _, hms, ⟨t, span', ns, ht, hns, rfl⟩, rfl⟩
      obtain ⟨op', rfl, -, -⟩ := Token.alike_operator.mp (hR _ _ ht)
      obtain ⟨left', rfl, hl⟩ := ihl ms hms
      obtain ⟨right', rfl, hr⟩ := ihr ns hns
      exact ⟨.operation op' span' left' right', rfl, .operation span span' ht hl hr⟩

namespace Like

lemma precedence_eq (hR : ∀ s t, R s t → s.Alike t) {op op' : Operator}
    (h : R (.operator op) (.operator op')) : op'.precedence = op.precedence := by
  obtain ⟨_, ⟨⟩, hop, -⟩ := Token.alike_operator.mp (hR _ _ h)
  exact hop.symm

lemma rank_eq (hR : ∀ s t, R s t → s.Alike t) (h : p.Like R p') : p'.rank = p.rank := by
  cases h with
  | operation span span' hop hl hr => rw [rank, rank, precedence_eq hR hop]
  | _ => rfl

lemma folds_eq (h : p.Like R p') : p'.folds = p.folds := by
  induction h with
  | operation span span' hop hl hr ihl ihr => rw [folds, folds, ihl]
  | _ => rfl

lemma levels_eq (h : p.Like R p') : p'.levels = p.levels := by
  induction h with
  | call f span span' opening opening' closing closing' h ih
  | group opening opening' closing closing' h ih => rw [levels, levels, ih]
  | operation span span' hop hl hr ihl ihr => rw [levels, levels, ihl, ihr, hl.folds_eq]
  | _ => rfl

lemma layered (hR : ∀ s t, R s t → s.Alike t) (h : p.Like R p') (hp : p.Layered) :
    p'.Layered := by
  induction h with
  | call f span span' opening opening' closing closing' h ih
  | group opening opening' closing closing' h ih => exact ih hp
  | operation span span' hop hl hr ihl ihr =>
      obtain ⟨hrank, hleft, hright, hle, hlt⟩ := hp
      simp only [Layered, precedence_eq hR hop, hl.rank_eq hR, hr.rank_eq hR]
      exact ⟨hrank, ihl hleft, ihr hright, hle, hlt⟩
  | _ => trivial

/-- Where the tokens are the same, so is the tree up to spans. -/
lemma bare_eq (hR : ∀ s t, R s t → s = t) (h : p.Like R p') : p'.tree.bare = p.tree.bare := by
  induction h with
  | number span span' h =>
      obtain rfl := Literal.token_injective (hR _ _ h)
      rfl
  | standardForm span span' eSpan eSpan' exponentSpan exponentSpan' h h' =>
      obtain rfl := Literal.token_injective (hR _ _ h)
      obtain ⟨rfl⟩ := hR _ _ h'
      rfl
  | multiple span span' name nameSpan nameSpan' h =>
      obtain rfl := Literal.token_injective (hR _ _ h)
      rfl
  | named name span span' => rfl
  | call f span span' opening opening' closing closing' h ih => simp [tree, Formula.bare, ih]
  | group opening opening' closing closing' h ih => exact ih
  | operation span span' hop hl hr ihl ihr =>
      obtain ⟨rfl⟩ := hR _ _ hop
      simp [tree, ihl, ihr]

end Like

end Phrase

/-! ### Lines -/

variable {R : Token → Token → Prop}

lemma Clause.exists_like (hR : ∀ s t, R s t → s.Alike t) (c : Clause) {ls : List Lexeme}
    (h : Related R c.lexemes ls) :
    ∃ c' : Clause, c'.lexemes = ls ∧ (c.Layered → c'.Layered) ∧ c'.levels = c.levels
      ∧ ((∀ s t, R s t → s = t) → c'.tree.bare = c.tree.bare) := by
  cases c with
  | expression p =>
      obtain ⟨p', rfl, hlike⟩ := p.exists_like hR ls h
      exact ⟨.expression p', rfl, hlike.layered hR, hlike.levels_eq, fun hR => hlike.bare_eq hR⟩
  | comparison op span left right =>
      simp only [lexemes, related_cons, related_append] at h
      obtain ⟨ms, _, hms, ⟨t, span', ns, ht, hns, rfl⟩, rfl⟩ := h
      obtain ⟨op', rfl, -, hop⟩ := Token.alike_operator.mp (hR _ _ ht)
      obtain ⟨left', rfl, hl⟩ := left.exists_like hR ms hms
      obtain ⟨right', rfl, hr⟩ := right.exists_like hR ns hns
      refine ⟨.comparison op' span' left' right', rfl, ?_, ?_, fun heq => ?_⟩
      · rintro ⟨hcompares, hleft, hright⟩
        exact ⟨hop ▸ hcompares, hl.layered hR hleft, hr.layered hR hright⟩
      · rw [levels, levels, hl.levels_eq, hr.levels_eq]
      · obtain ⟨rfl⟩ := heq _ _ ht
        simp [tree, hl.bare_eq heq, hr.bare_eq heq]

lemma Sentence.exists_like (hR : ∀ s t, R s t → s.Alike t) (s : Sentence) {ls : List Lexeme}
    (h : Related R s.lexemes ls) :
    ∃ s' : Sentence, s'.lexemes = ls ∧ (s.Layered → s'.Layered) ∧ s'.levels = s.levels
      ∧ ((∀ s t, R s t → s = t) → s'.tree.bare = s.tree.bare) := by
  cases s with
  | blank ending =>
      simp only [lexemes, related_cons, related_nil] at h
      obtain ⟨t, ending', _, ht, rfl, rfl⟩ := h
      obtain rfl := Token.alike_eof.mp (hR _ _ ht)
      exact ⟨.blank ending', rfl, id, rfl, fun _ => rfl⟩
  | statement c ending =>
      simp only [lexemes, related_append, related_cons, related_nil] at h
      obtain ⟨ms, _, hms, ⟨t, ending', _, ht, rfl, rfl⟩, rfl⟩ := h
      obtain rfl := Token.alike_eof.mp (hR _ _ ht)
      obtain ⟨c', rfl, hlayered, hlevels, hbare⟩ := c.exists_like hR hms
      exact ⟨.statement c' ending', rfl, hlayered, hlevels, hbare⟩
  | assignment name span sign c ending =>
      simp only [lexemes, related_append, related_cons, related_nil] at h
      obtain ⟨t, span', _, ht, ⟨u, sign', _, hu, ⟨ms, _, hms,
        ⟨v, ending', _, hv, rfl, rfl⟩, rfl⟩, rfl⟩, rfl⟩ := h
      obtain rfl := Token.alike_ident.mp (hR _ _ ht)
      obtain rfl := Token.alike_assign.mp (hR _ _ hu)
      obtain rfl := Token.alike_eof.mp (hR _ _ hv)
      obtain ⟨c', rfl, hlayered, hlevels, hbare⟩ := c.exists_like hR hms
      exact ⟨.assignment name span' sign' c' ending', rfl, hlayered, hlevels,
        fun heq => by simp [tree, Formula.bare, hbare heq]⟩

/-- **Lexemes of the same tokens** are written with the same line, up to spans. -/
theorem Sentence.exists_of_tokens (s : Sentence) {ls : List Lexeme}
    (h : tokensOf ls = tokensOf s.lexemes) :
    ∃ s' : Sentence, s'.lexemes = ls ∧ (s.Layered → s'.Layered) ∧ s'.levels = s.levels
      ∧ s'.tree.bare = s.tree.bare := by
  obtain ⟨s', hs', hlayered, hlevels, hbare⟩ :=
    s.exists_like (R := Eq) (fun t _ ht => ht ▸ t.alike_refl)
      (related_iff_tokens.mpr (List.forall₂_eq_eq_eq ▸ h.symm))
  exact ⟨s', hs', hlayered, hlevels, hbare fun _ _ => id⟩

/-- **Lexemes of the same kinds** are written with a line that is as layered and needs as
many levels. -/
theorem Sentence.exists_of_alike (s : Sentence) {ls : List Lexeme}
    (h : List.Forall₂ Token.Alike (tokensOf s.lexemes) (tokensOf ls)) :
    ∃ s' : Sentence, s'.lexemes = ls ∧ (s.Layered → s'.Layered) ∧ s'.levels = s.levels := by
  obtain ⟨s', hs', hlayered, hlevels, -⟩ :=
    s.exists_like (fun _ _ => id) (related_iff_tokens.mpr h)
  exact ⟨s', hs', hlayered, hlevels⟩

end Reckoner
