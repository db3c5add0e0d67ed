import Reckoner.Proofs.Formula.Begun
import Reckoner.Proofs.Formula.Settled
import Reckoner.Proofs.Formula.Tokens
import Reckoner.Proofs.Token.Spans
import Reckoner.Proofs.Token.Spelled

/-!
Where errors are reported.

A line that the parser rejects is rejected at the first token that no line can have there: some
line begins with the tokens before it, and none with these and it. Where every token could have
stood in a line, its end is reported.

* `IsLine`, `BeginsLine`, `Strays`: the tokens of lines, their beginnings, and where lexemes stop
  being one;
* `IsLine.exists_sentence`, `Sentence.isLine`: lines are the layered sentences whose tokens can be
  spelled;
* `Parser.line_stops`: what has been read before a failure begins a sentence, and the failure does
  not depend on what follows;
* `ReportsToken`, `ReportsEnd`, `parse_reports`: what the errors of the parser say;
* `parse_reports_wraps_around`: their places in texts that are too long.
-/

namespace Reckoner

/-! ### Lines and their beginnings -/

/-- The tokens of a line: at some limit, some text with these tokens is parsed. The end of the
input is not counted. -/
def IsLine (ts : List Token) : Prop :=
  ∃ src limit t ls, parse src limit = .ok t ∧ tokenize src = .ok ls ∧ tokensOf ls = ts ++ [.eof]

/-- Tokens that a line begins with. -/
def BeginsLine (ts : List Token) : Prop := ∃ more, IsLine (ts ++ more)

/-- A line begins with the lexemes before `i`, but none with these and the one at `i`. -/
def Strays (ls : List Lexeme) (i : ℕ) : Prop :=
  i < ls.length ∧ BeginsLine (tokensOf (ls.take i)) ∧ ¬ BeginsLine (tokensOf (ls.take (i + 1)))

lemma BeginsLine.of_append {ts us : List Token} (h : BeginsLine (ts ++ us)) : BeginsLine ts := by
  obtain ⟨more, hmore⟩ := h
  exact ⟨us ++ more, by rwa [← List.append_assoc]⟩

/-- Lexemes stop being the beginning of a line once. -/
lemma Strays.isLeast {ls : List Lexeme} {i : ℕ} (h : Strays ls i) :
    IsLeast {j | Strays ls j} i := by
  refine ⟨h, fun j hj => not_lt.mp fun hlt => hj.2.2 ?_⟩
  have hsplit : ls.take i = ls.take (j + 1) ++ (ls.drop (j + 1)).take (i - (j + 1)) := by
    rw [← List.take_add, Nat.add_sub_cancel' hlt]
  have hbegins := h.2.1
  rw [hsplit, tokensOf_append] at hbegins
  exact hbegins.of_append

/-- The tokens of a line are those of a layered sentence. -/
lemma IsLine.exists_sentence {ts : List Token} (h : IsLine ts) :
    ∃ s : Sentence, s.Layered ∧ tokensOf s.lexemes = ts ++ [.eof] := by
  obtain ⟨src, limit, t, ls, hparse, hls, htokens⟩ := h
  obtain ⟨s, hs, -, hlexemes, -⟩ := parse_ok_iff.mp hparse
  rw [hls] at hlexemes
  cases hlexemes
  exact ⟨s, hs, htokens⟩

/-- A layered sentence is a line if its tokens can be spelled. -/
lemma Sentence.isLine {s : Sentence} (hs : s.Layered) {ts : List Token}
    (htokens : tokensOf s.lexemes = ts ++ [.eof]) (hts : ∀ t ∈ ts, Lexer.Spelled t) :
    IsLine ts := by
  obtain ⟨src, ls, hls, hspelled⟩ := exists_text hts
  obtain ⟨s', rfl, hlayered, -, -⟩ := s.exists_of_tokens (hspelled.trans htokens.symm)
  exact ⟨src, s'.levels, s'.tree, s'.lexemes, parse_ok_iff.mpr ⟨s', hlayered hs, le_rfl, hls, rfl⟩,
    hls, hspelled⟩

lemma BeginsSentence.token_ne_eof {ks : List Lexeme} (h : BeginsSentence ks) :
    ∀ l ∈ ks, l.token ≠ .eof := by
  obtain ⟨s, ns, ending, -, hlexemes, -⟩ := h
  exact fun l hl => s.token_ne_eof hlexemes l (List.mem_append_left ns hl)

lemma IsFiller.spelled {l : Lexeme} (h : IsFiller l) : Lexer.Spelled l.token := by
  obtain h | h | h := h <;> rw [h]
  · exact (Lexer.readsBack_ident (by decide)).spelled
  · exact Lexer.ReadsBack.spelled (Lexer.readsBack_sign trivial)
  · exact Lexer.ReadsBack.spelled (Lexer.readsBack_sign trivial)

/-- What begins a sentence begins a line, if it stands in a text. -/
lemma BeginsSentence.exists_isLine {src : String} {ks ms : List Lexeme} (h : BeginsSentence ks)
    (hsrc : tokenize src = .ok (ks ++ ms)) : ∃ more, IsLine (tokensOf ks ++ more) := by
  have hne := h.token_ne_eof
  obtain ⟨s, ns, ending, hs, hlexemes, hns⟩ := h
  refine ⟨tokensOf ns, Sentence.isLine hs (by simp [hlexemes]) ?_⟩
  refine List.forall_mem_append.mpr ⟨fun t ht => ?_, fun t ht => ?_⟩
  · obtain ⟨l, hl, rfl⟩ := List.mem_map.mp ht
    refine Lexer.spelled_of_tokenize hsrc _ ?_ (hne l hl)
    exact List.mem_map_of_mem (List.mem_append_left ms hl)
  · obtain ⟨l, hl, rfl⟩ := List.mem_map.mp ht
    exact (hns l hl).spelled

/-! ### Where the parser stops -/

namespace Parser

open Step Parse

variable {D d : ℕ} {ls : List Lexeme} {e : ParseError} {q : Parser}

/-- Where reading lexemes fails, but not at the limit, they are not those of a line. -/
lemma not_isLine_of_error (h : on line (facing ls none D d) = (.error e, q))
    (hlimit : ¬ HitsLimit (on line (facing ls none D d)).1) {ts : List Token}
    (htokens : tokensOf ls = ts ++ [.eof]) : ¬ IsLine ts := by
  intro hline
  obtain ⟨s, hs, hts⟩ := hline.exists_sentence
  obtain ⟨s, rfl, hlayered, -, -⟩ := s.exists_of_tokens (htokens.trans hts.symm)
  by_cases hlevels : s.levels ≤ D - d
  · obtain ⟨ms, hok⟩ : ∃ ms, on line (facing s.lexemes none D d)
        = (.ok s.tree, facing ms none D d) := line_on (hlayered hs) hlevels
    simp [hok] at h
  · obtain ⟨span, ms, e', hdeep⟩ := line_tooDeep (hlayered hs) (not_le.mp hlevels)
    exact hlimit ⟨D, span, congrArg Prod.fst hdeep⟩

/-- **A line that fails**, but not at the limit, has begun a sentence, and blames the lexeme
behind it. Whatever follows that lexeme, it does not go on with a line. -/
lemma line_stops (h : on line (facing ls none D d) = (.error e, q))
    (hlimit : ¬ HitsLimit (on line (facing ls none D d)).1) :
    ∃ ks ms, ls = ks ++ ms ∧ BeginsSentence ks ∧ e.Blames ms
      ∧ ∀ l ns, ms = l :: ns → ∀ more, ¬ IsLine (tokensOf (ks ++ [l]) ++ more) := by
  obtain ⟨result, ms, d', hms⟩ := settled_line hlimit
  obtain ⟨ks, ms', d'', rfl, rfl, hks⟩ := line_begins h
  rw [hms.on_facing] at hlimit
  obtain ⟨rfl, hfacing⟩ : result = .error e ∧ facing ms none D d' = facing ms' none D d'' := by
    simpa [hms.on_facing] using h
  obtain rfl := eq_of_facing_eq hfacing
  refine ⟨ks, ms, rfl, hks, hms.blames e rfl, ?_⟩
  rintro l ns rfl more
  -- The line that would go on from here is read up to the same lexeme, and fails there as well.
  have hstop := hms.settled ks l ns rfl rfl ((more ++ [Token.eof]).map (⟨·, .origin⟩)) none
  refine not_isLine_of_error hstop (by rwa [hstop]) ?_
  simp [tokensOf, Function.comp_def]

/-- The parser meets no lexical error where there is none. -/
lemma line_lexicalErrors : (on line (facing ls none D d)).2.lexicalErrors = [] := by
  rcases h : on line (facing ls none D d) with ⟨e | t, q⟩
  · obtain ⟨_, ms, d', -, rfl, -⟩ := line_begins h
    simp [facing_lexicalErrors]
  · have hlimit : ¬ HitsLimit (on line (facing ls none D d)).1 := h ▸ not_hitsLimit_ok t
    obtain ⟨_, ms, d', hms⟩ := settled_line hlimit
    obtain rfl : q = facing ms none D d' := congrArg Prod.snd (h.symm.trans hms.on_facing)
    simp [facing_lexicalErrors]

end Parser

open Reckoner.Parser

variable {src : String} {D : ℕ} {ls ks ns : List Lexeme} {l : Lexeme} {e : ParseError}

lemma parse_of_tokenize (h : tokenize src = .ok ls) :
    parse src D = (Step.on line (facing ls none D 0)).1 := by
  rw [parse_of_items (items_of_tokenize h), line_lexicalErrors]

/-! ### What errors say -/

/-- An error reports a token: it stands where the one at `i` does, which is the first one with which
the lexemes of the text stop being the beginning of a line. In a text that is shorter than `2 ^ 32`
bytes no other token stands there. -/
structure ReportsToken (src : String) (ls : List Lexeme) (e : ParseError) (i : ℕ) (l : Lexeme) :
    Prop where
  at_index : ls[i]? = some l
  token_ne : l.token ≠ .eof
  span_eq : l.span = e.span
  span_iff : src.utf8ByteSize < 2 ^ 32 → ∀ j l', ls[j]? = some l' → (l'.span = e.span ↔ j = i)
  cause : (∃ wanted, e.cause = .unexpectedToken l.token wanted)
    ∨ (e.cause = .chainedComparison ∧ l.token.isComparison = true)
  isLeast : IsLeast {j | Strays ls j} i

/-- An error reports the end of the input: the tokens before it are no line, but a longer line
begins with them. -/
structure ReportsEnd (ls : List Lexeme) (e : ParseError) : Prop where
  cause : e.cause = .unexpectedEof
  at_end : ∃ ms more, ls = ms ++ [⟨.eof, e.span⟩] ∧ more ≠ [] ∧ IsLine (tokensOf ms ++ more)
    ∧ ¬ IsLine (tokensOf ms)

/-- Where reading stops at a token, the token is reported. -/
lemma reportsToken_of_stop (hsrc : tokenize src = .ok (ks ++ l :: ns)) (hne : l.token ≠ .eof)
    (hspan : l.span = e.span)
    (hcause : (∃ wanted, e.cause = .unexpectedToken l.token wanted)
      ∨ (e.cause = .chainedComparison ∧ l.token.isComparison = true))
    (hbegins : BeginsLine (tokensOf ks)) (hstrays : ¬ BeginsLine (tokensOf (ks ++ [l]))) :
    ReportsToken src (ks ++ l :: ns) e ks.length l where
  at_index := by simp
  token_ne := hne
  span_eq := hspan
  span_iff := by
    intro hsize j l' hj
    constructor
    · intro hl'
      exact eq_of_span_eq hsrc hsize (by simp) hj hne (hl'.trans hspan.symm)
    · rintro rfl
      obtain rfl : l = l' := by simpa using hj
      exact hspan
  cause := hcause
  isLeast := by
    refine Strays.isLeast ⟨by simp, ?_, ?_⟩
    · simpa using hbegins
    · simpa [List.take_append, List.take_of_length_le] using hstrays

/-- Where reading stops at the end of the input, the end is reported. -/
lemma reportsEnd_of_stop {ending : Span} (hsrc : tokenize src = .ok (ks ++ [⟨.eof, ending⟩]))
    (hks : BeginsSentence ks) (hnot : ¬ IsLine (tokensOf ks)) :
    ReportsEnd (ks ++ [⟨.eof, ending⟩]) ⟨.unexpectedEof, ending⟩ where
  cause := rfl
  at_end := by
    obtain ⟨more, hmore⟩ := hks.exists_isLine hsrc
    refine ⟨ks, more, rfl, ?_, hmore, hnot⟩
    rintro rfl
    exact hnot (by rwa [List.append_nil] at hmore)

/-- The only end of the input is the last lexeme of a text. -/
lemma eq_nil_of_eof {ending : Span} (hsrc : tokenize src = .ok (ks ++ ⟨.eof, ending⟩ :: ns)) :
    ns = [] := by
  obtain ⟨front, ending', hend, hfront⟩ := exists_end_of_tokenize hsrc
  obtain rfl | ⟨ns, last, rfl⟩ := List.eq_nil_or_concat ns
  · rfl
  · rw [List.concat_eq_append, ← List.cons_append, ← List.append_assoc] at hend
    obtain ⟨rfl, -⟩ := List.append_inj' hend rfl
    exact absurd rfl (hfront ⟨.eof, ending⟩ (by simp))

/-- **What errors report.** Where the limit is not hit, which is so for every limit above the
number of items, the parser rejects a text without lexical errors at the first token that no line
goes on with, or at the end of a text that a longer line begins with, and in no other way. The
place of the error tells the token in a text that is shorter than `2 ^ 32` bytes. -/
theorem parse_reports (src : String) :
    (∀ D, (Lexer.items src).length < D → ¬ HitsLimit (parse src D))
      ∧ ∀ D ls e, tokenize src = .ok ls → ¬ HitsLimit (parse src D) → parse src D = .error e →
        (∃ i l, ReportsToken src ls e i l) ∨ ReportsEnd ls e := by
  refine ⟨fun D hD => not_hitsLimit_parse hD, fun D ls e hsrc hlimit he => ?_⟩
  rw [parse_of_tokenize hsrc] at hlimit he
  obtain ⟨ks, ms, rfl, hks, hblames, hstrays⟩ := line_stops (Prod.ext he rfl) hlimit
  have hbegins := hks.exists_isLine hsrc
  cases hblames with
  | @token l hne wanted ns =>
      refine .inl ⟨ks.length, l, reportsToken_of_stop hsrc hne rfl (.inl ⟨wanted, rfl⟩) hbegins ?_⟩
      rintro ⟨more, hmore⟩
      exact hstrays l ns rfl more hmore
  | chained hop span ns =>
      refine .inl ⟨ks.length, _, reportsToken_of_stop hsrc (by simp) rfl (.inr ⟨rfl, hop⟩) hbegins
        ?_⟩
      rintro ⟨more, hmore⟩
      exact hstrays _ ns rfl more hmore
  | ending span ns =>
      obtain rfl := eq_nil_of_eof hsrc
      have hnot : ¬ IsLine (tokensOf ks) := not_isLine_of_error (Prod.ext he rfl) hlimit (by simp)
      exact .inr (reportsEnd_of_stop hsrc hks hnot)
  | nothing =>
      obtain ⟨front, ending, hend, -⟩ := exists_end_of_tokenize hsrc
      rw [List.append_nil] at hend
      exact absurd rfl (hks.token_ne_eof ⟨.eof, ending⟩ (by simp [hend]))
  | tooDeep limit span => exact absurd ⟨limit, span, he⟩ hlimit

/-- The sign of the product in `1 + * 2` is what no line goes on with. -/
theorem parse_reports_product :
    ∃ e, parse "1 + * 2" 256 = .error e ∧ e.span = ⟨4, 5⟩
      ∧ ReportsToken "1 + * 2" [⟨.int 1, ⟨0, 1⟩⟩, ⟨.operator .add, ⟨2, 3⟩⟩,
        ⟨.operator .mul, ⟨4, 5⟩⟩, ⟨.int 2, ⟨6, 7⟩⟩, ⟨.eof, ⟨7, 7⟩⟩] e 2
        ⟨.operator .mul, ⟨4, 5⟩⟩ := by
  have hlexemes : tokenize "1 + * 2" = .ok [⟨.int 1, ⟨0, 1⟩⟩, ⟨.operator .add, ⟨2, 3⟩⟩,
      ⟨.operator .mul, ⟨4, 5⟩⟩, ⟨.int 2, ⟨6, 7⟩⟩, ⟨.eof, ⟨7, 7⟩⟩] := by cbv
  have hparse : ∃ wanted, parse "1 + * 2" 256
      = .error ⟨.unexpectedToken (.operator .mul) wanted, ⟨4, 5⟩⟩ := ⟨_, by cbv⟩
  obtain ⟨wanted, hparse⟩ := hparse
  have hlimit : ¬ HitsLimit (parse "1 + * 2" 256) :=
    (parse_reports "1 + * 2").1 256 (by
      rw [show (Lexer.items "1 + * 2").length = 5 by cbv]
      decide)
  refine ⟨_, hparse, rfl, ?_⟩
  obtain ⟨i, l, h⟩ | h := (parse_reports "1 + * 2").2 256 _ _ hlexemes hlimit hparse
  · obtain rfl : 2 = i := (h.span_iff (by decide) 2 _ rfl).mp rfl
    obtain rfl : ⟨.operator .mul, ⟨4, 5⟩⟩ = l := Option.some.inj h.at_index
    exact h
  · cases h.cause

/-! ### Places in long texts -/

/-- A number and another one with blanks between them, at least one. -/
def apart (n : ℕ) : String := String.ofList ('1' :: (List.replicate (n + 1) ' ' ++ ['2']))

lemma items_apart (n : ℕ) :
    Lexer.items (apart n) = [.ok ⟨.int 1, ⟨0, 1⟩⟩, .ok ⟨.int 2, .ofBytes (n + 2) (n + 3)⟩,
      .ok ⟨.eof, .point (.ofNat (n + 3))⟩] := by
  have hone : Lexer.scan ('1' :: (List.replicate (n + 1) ' ' ++ ['2']))
      = some ([(.int 1, 1)], List.replicate (n + 1) ' ' ++ ['2']) := rfl
  have htwo : Lexer.scan ['2'] = some ([(.int 2, 1)], []) := rfl
  have hplace : 0 + Lexer.extent [(Token.int 1, 1)] + (n + 1) = n + 2 := by
    rw [show Lexer.extent [(Token.int 1, 1)] = 1 from rfl]
    omega
  rw [Lexer.items, apart, String.toList_ofList, Lexer.itemsFrom_of_scan 0 hone,
    Lexer.itemsFrom_spaces, Lexer.itemsFrom_of_scan _ htwo, Lexer.itemsFrom_ended rfl, hplace]
  rfl

/-- **The place of an error does not tell the token** in longer texts: a second number that starts
`2 ^ 32` bytes behind the first one is reported at the place of the first, which a line begins
with. -/
theorem parse_reports_wraps_around :
    tokenize (apart (2 ^ 32 - 2))
        = .ok [⟨.int 1, ⟨0, 1⟩⟩, ⟨.int 2, ⟨0, 1⟩⟩, ⟨.eof, ⟨1, 1⟩⟩]
      ∧ parse (apart (2 ^ 32 - 2)) 256
        = .error ⟨.unexpectedToken (.int 2) [.anOperator, .theEnd], ⟨0, 1⟩⟩
      ∧ ¬ Strays [⟨.int 1, ⟨0, 1⟩⟩, ⟨.int 2, ⟨0, 1⟩⟩, ⟨.eof, ⟨1, 1⟩⟩] 0 := by
  have hitems : Lexer.items (apart (2 ^ 32 - 2))
      = [.ok ⟨.int 1, ⟨0, 1⟩⟩, .ok ⟨.int 2, ⟨0, 1⟩⟩, .ok ⟨.eof, ⟨1, 1⟩⟩] := by
    have hsecond : Span.ofBytes (2 ^ 32 - 2 + 2) (2 ^ 32 - 2 + 3) = ⟨0, 1⟩ := by decide
    have hend : Span.point (.ofNat (2 ^ 32 - 2 + 3)) = ⟨1, 1⟩ := by decide
    rw [items_apart, hsecond, hend]
  refine ⟨?_, ?_, fun hstrays => hstrays.2.2 ⟨[], ?_⟩⟩
  · rw [tokenize, hitems]
    rfl
  · rw [parse, hitems]
    cbv
  · exact ⟨"1", 256, .literal (.int 1) ⟨0, 1⟩, [⟨.int 1, ⟨0, 1⟩⟩, ⟨.eof, ⟨1, 1⟩⟩], by cbv, by cbv,
      rfl⟩

end Reckoner
