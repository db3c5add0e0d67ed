import Reckoner.Proofs.Token.Numbers
import Reckoner.Proofs.Token.Written

/-!
Lexing undoes rendering.

A list of tokens is read back from its text exactly if each of its tokens is readable: a name is a
word that starts with no keyword, a decimal is written with a point, and no token is the end of
the input. Every other token is read back.

* `Token.IsReadable`: the tokens that are read back;
* `Lexer.exists_scan_of_not_isPositional`: what stands where another decimal is written;
* `Lexer.reading_spaced_cons`: the first of several tokens, and the others;
* `tokenize_rendered_iff`: the lists of tokens that are read back.
-/

namespace Reckoner

/-- The tokens that are read back from what they are written as. -/
def Token.IsReadable : Token → Prop
  | ident name => name ≠ "" ∧ (∀ c ∈ name.toList, c.isAlpha = true ∨ c = '_')
      ∧ ∀ f : RealFunction, ¬ f.name.toList <+: name.toList
  | decimal a => a.IsPositional
  | eof => False
  | int _ | function _ | operator _ | assign | lparen | rparen => True

namespace Lexer

lemma readsBack_of_isReadable {t : Token} (h : t.IsReadable) : ReadsBack t := by
  cases t with
  | int n => exact readsBack_int n
  | decimal a =>
      intro rest hrest
      exact scan_decimalText h (hrest.head (p := Char.isDigit) rfl)
  | ident name => exact readsBack_ident (isName_iff.mpr h)
  | function f => exact readsBack_function f
  | operator _ | assign | lparen | rparen => exact readsBack_sign trivial
  | eof => exact h.elim

/-- Where a decimal is not written with a point, something else is read. -/
lemma exists_scan_of_not_isPositional {a : Decimal} (h : ¬ a.IsPositional) {rest : List Char}
    (hrest : Apart rest) :
    ∃ t length after, t ≠ .decimal a
      ∧ scan (a.text.toList ++ rest) = some ([(t, length)], after) := by
  by_cases hzero : a.unscaled = 0
  · obtain ⟨length, hscan⟩ := scan_integerText 0 hrest.endsNumber
    rw [Decimal.text_of_zero hzero]
    exact ⟨.int 0, length, rest, by simp, hscan⟩
  · by_cases hexponent : a.NeedsExponent
    · obtain ⟨e, more, t, length, -, hne, hscan⟩ := scan_text_of_needsExponent hexponent rest
      exact ⟨t, length, e :: more, hne, hscan⟩
    · have hplaces : a.scale.toInt ≤ 0 := by
        by_contra hplaces
        exact h (Decimal.isPositional_iff.mpr ⟨hzero, by omega, hexponent⟩)
      obtain ⟨n, length, -, hscan⟩ := scan_plainText_of_whole hplaces hrest.endsNumber
      rw [Decimal.text_of_plain hzero hexponent]
      exact ⟨.int n, length, rest, by simp, hscan⟩

/-- Behind the first of several tokens stands nothing, or a space and the others. -/
lemma exists_spaced_cons (t : Token) (ts : List Token) :
    ∃ rest, spaced (t :: ts) = t.literal.toList ++ rest ∧ Apart rest
      ∧ reading (itemsFrom 0 rest) = reading (itemsFrom 0 (spaced ts)) := by
  cases ts with
  | nil => exact ⟨[], (List.append_nil _).symm, by rintro c ⟨⟩, rfl⟩
  | cons u ts => exact ⟨' ' :: spaced (u :: ts), rfl, by rintro c ⟨⟩; rfl, reading_blank 0 _⟩

lemma reading_spaced_cons {t : Token} (h : ReadsBack t) (ts : List Token) :
    reading (itemsFrom 0 (spaced (t :: ts)))
      = (reading (itemsFrom 0 (spaced ts))).map (t :: ·) := by
  obtain ⟨rest, hspaced, hrest, hreading⟩ := exists_spaced_cons t ts
  obtain ⟨length, hscan⟩ := h rest hrest
  rw [hspaced, reading_scanned 0 hscan, hreading]
  rfl

/-- A list that is read back starts with no decimal that is written in another way. -/
lemma isPositional_of_reading {a : Decimal} {ts us : List Token}
    (h : reading (itemsFrom 0 (spaced (.decimal a :: ts))) = some (.decimal a :: us)) :
    a.IsPositional := by
  by_contra hpositional
  obtain ⟨rest, hspaced, hrest, -⟩ := exists_spaced_cons (.decimal a) ts
  obtain ⟨t, length, after, hne, hscan⟩ := exists_scan_of_not_isPositional hpositional hrest
  rw [hspaced] at h
  obtain ⟨vs, -, hcons⟩ := Option.map_eq_some_iff.mp ((reading_scanned 0 hscan).symm.trans h)
  exact hne (List.cons.inj hcons).1

/-- Where all names are names and the input does not end early, the tokens that are read back are
readable. -/
lemma isReadable_of_reading {ts : List Token} {n : ℕ} (hwritten : ∀ t ∈ ts, Written n t)
    (heof : .eof ∉ ts) (h : reading (itemsFrom 0 (spaced ts)) = some (ts ++ [.eof])) :
    ∀ t ∈ ts, t.IsReadable := by
  induction ts with
  | nil => simp
  | cons t ts ih =>
      obtain ⟨ht, hts⟩ := List.forall_mem_cons.mp hwritten
      obtain ⟨hne, hnot⟩ := not_or.mp (mt List.mem_cons.mpr heof)
      have hreadable : t.IsReadable := by
        cases t with
        | decimal a => exact isPositional_of_reading h
        | ident name => exact isName_iff.mp ht
        | eof => exact absurd rfl hne
        | int _ | function _ | operator _ | assign | lparen | rparen => trivial
      rw [reading_spaced_cons (readsBack_of_isReadable hreadable)] at h
      obtain ⟨us, hus, hcons⟩ := Option.map_eq_some_iff.mp h
      obtain rfl : us = ts ++ [.eof] := (List.cons.inj hcons).2
      exact List.forall_mem_cons.mpr ⟨hreadable, ih hts hnot hus⟩

/-- The only end of the input is the last token. -/
lemma eof_not_mem_of_tokenize {src : String} {ls : List Lexeme} {ts : List Token}
    (h : tokenize src = .ok ls) (htokens : tokensOf ls = ts ++ [.eof]) : .eof ∉ ts := by
  obtain ⟨ms, ending, rfl, hms⟩ := exists_end_of_tokenize h
  rw [tokensOf_append] at htokens
  obtain ⟨htokens, -⟩ := List.append_inj' htokens rfl
  intro hmem
  rw [← htokens] at hmem
  obtain ⟨l, hl, heof⟩ := List.mem_map.mp hmem
  exact hms l hl heof

end Lexer

open Lexer

lemma toList_rendered (ts : List Token) :
    (" ".intercalate (ts.map Token.literal)).toList = spaced ts := by
  rw [String.toList_intercalate, List.map_map]
  induction ts with
  | nil => rfl
  | cons t ts ih =>
      cases ts with
      | nil => simp [spaced, List.intercalate]
      | cons u ts =>
          rw [List.map_cons] at ih ⊢
          rw [List.map_cons, List.intercalate_cons_cons, ih, spaced, List.append_assoc]
          rfl

/-- **Lexing undoes rendering.** Tokens that are written with single spaces between them are read
back, with the end of the input behind them, if and only if each of them is readable. -/
theorem tokenize_rendered_iff (ts : List Token) :
    (∃ ls, tokenize (" ".intercalate (ts.map Token.literal)) = .ok ls
      ∧ tokensOf ls = ts ++ [.eof]) ↔ ∀ t ∈ ts, t.IsReadable := by
  constructor
  · rintro ⟨ls, htokenize, htokens⟩
    have hreading := reading_of_tokenize htokenize
    rw [items, toList_rendered, htokens] at hreading
    have hwritten := written_of_tokenize htokenize
    rw [htokens, List.forall_mem_append] at hwritten
    exact isReadable_of_reading hwritten.1 (eof_not_mem_of_tokenize htokenize htokens) hreading
  · intro h
    rw [← String.ofList_toList (s := " ".intercalate (ts.map Token.literal)), toList_rendered]
    exact tokenize_spaced fun t ht => readsBack_of_isReadable (h t ht)

end Reckoner
