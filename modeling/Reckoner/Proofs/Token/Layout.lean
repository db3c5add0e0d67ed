import Reckoner.Proofs.Token.Spans

/-!
What a text is made of.

A text is its tokens, one after the other, and what is skipped in front of them: blanks, and
comments that run up to the end of their line. What a token takes of the text is read as this token
on its own too, whatever stood around it.

* `Span.textIn`: what a stretch cuts out of a source;
* `Lexer.Gap`: what is skipped in front of a token;
* `Lexer.ReadAlone`, `Lexer.Rule.Applies.readAlone`: what a token takes of a text;
* `Lexer.Layout`, `Lexer.ByRules.layout`: a text as gaps and tokens;
* `Tiled`, `tiled_of_tokenize`: the tokens of a text.
-/

namespace Reckoner

/-! ### What stretches cut out -/

/-- How long a stretch is does not depend on where it starts. -/
lemma Span.length_ofBytes (start length : ℕ) :
    (ofBytes start (start + length)).stop - (ofBytes start (start + length)).start
      = .ofNat length := by
  rw [ofBytes, UInt32.ofNat_add]
  exact add_sub_cancel_left _ _

/-- What a stretch cuts out of a source. -/
def Span.textIn (source : String) (s : Span) : String :=
  String.Pos.Raw.extract source ⟨s.start.toNat⟩ ⟨s.stop.toNat⟩

namespace Lexer

variable {source : String} {p : Place} {r : Rule} {text m rest gap after before cut : List Char}
  {c : Char} {t : Token} {pos : ℕ} {ls : List Lexeme}

lemma textIn_of_append (hsize : source.utf8ByteSize < 2 ^ 32)
    (h : source.toList = before ++ (cut ++ after)) :
    (Span.ofBytes (byteCount before) (byteCount before + byteCount cut)).textIn source
      = String.ofList cut := by
  have hprefix : before ++ cut <+: source.toList := ⟨after, by simp [h]⟩
  obtain ⟨hstart, hstop⟩ := toNat_ofBytes hsize hprefix
  have hsource : source = String.ofList (before ++ cut ++ after) := by
    rw [List.append_assoc, ← h, String.ofList_toList]
  rw [Span.textIn, hstart, hstop, byteCount_append, hsource, byteCount_eq, byteCount_eq,
    String.utf8ByteSize_ofList, String.utf8ByteSize_ofList]
  exact String.extract_of_valid before cut after

/-! ### Gaps -/

/-- What is skipped in front of a token: blanks, and comments that run up to a newline. Only in
front of the end of the input may the last comment run up to there. -/
inductive Gap (t : Token) : List Char → Prop
  | nothing : Gap t []
  | blank {c : Char} {cs : List Char} (hc : c ∈ blankClass) (h : Gap t cs) : Gap t (c :: cs)
  | comment {w cs : List Char} (hw : '\n' ∉ w) (h : Gap t ('\n' :: cs)) :
      Gap t ('#' :: (w ++ '\n' :: cs))
  | lastComment {w : List Char} (hw : '\n' ∉ w) (ht : t = .eof) : Gap t ('#' :: w)

lemma Gap.blanks (hm : ∀ c ∈ m, c ∈ blankClass) (h : Gap t gap) : Gap t (m ++ gap) := by
  induction m with
  | nil => exact h
  | cons c m ih =>
      obtain ⟨hc, hm⟩ := List.forall_mem_cons.mp hm
      exact .blank hc (ih hm)

/-- What is skipped in front of a gap belongs to it. -/
lemma Gap.skip (h : Gap t gap) (hskip : r.Applies p text m (gap ++ after))
    (hr : r.isTrivia = true) (hafter : ∀ c ∈ after.head?, c ∉ blankClass)
    (hend : after = [] → t = .eof) : Gap t (m ++ gap) := by
  cases r with
  | blank => exact h.blanks hskip.isMatch.mem.2
  | comment =>
      obtain ⟨w, hw, rfl⟩ := mem_comment.mp hskip.isMatch.mem
      have hnewline := hskip.newline_of_comment
      rcases gap with _ | ⟨c, gap⟩
      · rcases after with _ | ⟨c, after⟩
        · rw [List.append_nil]
          exact .lastComment hw (hend rfl)
        · -- What follows a comment would belong to the gap.
          obtain rfl : c = '\n' := hnewline c rfl
          exact absurd (by simp [blankClass]) (hafter '\n' rfl)
      · obtain rfl : c = '\n' := hnewline c rfl
        exact .comment hw h
  | decimal | integer | keyword | name | longSign | shortSign => cases hr

/-! ### What tokens take -/

/-- What a token takes of a text. It does not start with a blank, and on its own it is read as
this token and nothing else. -/
structure ReadAlone (t : Token) (m : List Char) : Prop where
  head : ∀ c ∈ m.head?, c ∉ blankClass
  tokens : tokenize (String.ofList m)
    = .ok [⟨t, .ofBytes 0 (byteCount m)⟩, ⟨.eof, .point (.ofNat (byteCount m))⟩]

/-- **A match that stands alone** is taken by the same rule. -/
lemma Rule.Applies.alone (hp : p.Fits text) (h : r.Applies p text m rest) :
    r.Applies .start m m [] where
  split := (List.append_nil m).symm
  isMatch := ⟨h.isMatch.mem, List.prefix_rfl, fun _ => .inr (by simp [Place.start])⟩
  longest := fun _ hm' => hm'.isPrefix.length_le
  first := by
    intro r' hr' m' hm'
    have hprefix := hm'.isPrefix.trans h.isMatch.isPrefix
    refine h.first r' hr' m' ⟨hm'.mem, hprefix, ?_⟩
    -- A keyword at the front of the match would be allowed in the text too.
    rintro rfl
    obtain ⟨d, ds, rfl, hd⟩ := exists_head_of_keyword hm'.mem
    obtain ⟨more, rfl⟩ := hprefix
    exact hp.startsWord ⟨d, rfl, hd⟩

/-- **What is taken by the rules** is read alone as it was taken. -/
lemma Rule.Applies.readAlone (hp : p.Fits text) (h : r.Applies p text m rest)
    (htoken : r.token? m = some t) : ReadAlone t m where
  head := by
    intro c hc hblank
    obtain ⟨ms, rfl⟩ := List.head?_eq_some_iff.mp hc
    have hrank : Rule.blank.rank < r.rank := by
      cases r with
      | blank => cases htoken
      | _ => decide
    refine h.first .blank hrank [c] ⟨?_, ⟨ms ++ rest, by simp [h.split]⟩, by simp⟩
    exact ⟨by simp, by simpa using hblank⟩
  tokens := by
    have hitems : items (String.ofList m)
        = stream [⟨t, .ofBytes 0 (byteCount m)⟩, ⟨.eof, .point (.ofNat (byteCount m))⟩] none := by
      have htaken := itemsFrom_of_applies (.inl (.inr (by simp [Place.start]))) (h.alone hp) htoken
      have hend (q : Place) :
          itemsFrom q.position [] = [.ok ⟨.eof, .point (.ofNat q.position)⟩] :=
        itemsFrom_ended rfl
      rw [hend, Place.position_after, Place.span] at htaken
      rw [items, String.toList_ofList]
      simpa [Place.position, Place.start, byteCount, stream] using htaken
    rw [tokenize, hitems, mapM_stream]

/-! ### Gaps and tokens -/

/-- A text from byte `pos` on, as gaps and the tokens behind them. -/
inductive Layout : ℕ → List Char → List Lexeme → Prop
  | ended {pos : ℕ} {gap : List Char} (hgap : Gap .eof gap) :
      Layout pos gap [⟨.eof, .point (.ofNat (pos + byteCount gap))⟩]
  | token {pos : ℕ} {gap m rest : List Char} {t : Token} {ls : List Lexeme} (hgap : Gap t gap)
      (hm : m ≠ []) (halone : ReadAlone t m)
      (hrest : Layout (pos + byteCount gap + byteCount m) rest ls) :
      Layout pos (gap ++ (m ++ rest))
        (⟨t, .ofBytes (pos + byteCount gap) (pos + byteCount gap + byteCount m)⟩ :: ls)

lemma Layout.skip (hskip : r.Applies p text m rest) (hr : r.isTrivia = true)
    (h : Layout (pos + byteCount m) rest ls) : Layout pos (m ++ rest) ls := by
  cases h with
  | ended hgap =>
      rw [← List.append_nil rest] at hskip
      rw [add_assoc, ← byteCount_append]
      exact .ended (hgap.skip hskip hr (by simp) fun _ => rfl)
  | @token _ gap m' rest t ls hgap hm halone hrest =>
      obtain ⟨c, cs, rfl⟩ := List.exists_cons_of_ne_nil hm
      have hgap' := hgap.skip hskip hr halone.head (by simp)
      rw [add_assoc pos, ← byteCount_append] at hrest ⊢
      rw [← List.append_assoc]
      exact .token hgap' hm halone hrest

/-- **A text that is read** is made of gaps and tokens. -/
lemma ByRules.layout {result : Except LexicalError (List Lexeme)} (h : ByRules p text result)
    (hp : p.Fits text) : ∀ ls, result = .ok ls → Layout p.position text ls := by
  induction h with
  | ended p =>
      rintro _ ⟨⟩
      exact .ended .nothing
  | skipped h htrivia _ ih =>
      intro ls hls
      have hrest := ih h.fits ls hls
      rw [Place.position_after] at hrest
      rw [h.split]
      exact hrest.skip h htrivia
  | @taken p r text m rest t result h htoken _ ih =>
      intro ls hls
      cases result with
      | error e => cases hls
      | ok ms =>
          cases hls
          have hrest := ih h.fits ms rfl
          rw [Place.position_after] at hrest
          rw [h.split]
          have hnothing : Gap t [] := .nothing
          exact .token hnothing (Rule.ne_nil_of_mem h.isMatch.mem) (h.readAlone hp htoken) hrest
  | malformed _ _ _ => rintro _ ⟨⟩
  | unrecognized _ => rintro _ ⟨⟩

/-- The end of the input stands where the text ends. -/
lemma Layout.exists_end (h : Layout pos text ls) :
    ∃ ms, ls = ms ++ [⟨.eof, .point (.ofNat (pos + byteCount text))⟩] := by
  induction h with
  | ended hgap => exact ⟨[], rfl⟩
  | @token pos gap m rest t ls _ _ _ _ ih =>
      obtain ⟨ms, rfl⟩ := ih
      rw [byteCount_append, byteCount_append, ← add_assoc, ← add_assoc]
      exact ⟨_ :: ms, rfl⟩

end Lexer

open Lexer

/-! ### The tokens of a text -/

/-- Lexemes that a source is made of from byte `pos` on. Nothing but gaps stands in front of them,
and what a lexeme cuts out of the source is read as its token alone. -/
structure Tiled (source : String) (pos : UInt32) (ls : List Lexeme) : Prop where
  front : ∀ l ∈ ls.head?, Gap l.token ((⟨pos, l.span.start⟩ : Span).textIn source).toList
  gaps : ls.IsChain fun a b =>
    Gap b.token ((⟨a.span.stop, b.span.start⟩ : Span).textIn source).toList
  alone : ∀ l ∈ ls, l.token ≠ .eof → tokenize (l.span.textIn source)
    = .ok [⟨l.token, ⟨0, l.span.stop - l.span.start⟩⟩, ⟨.eof, .point (l.span.stop - l.span.start)⟩]

variable {source : String} {ls : List Lexeme}

lemma Lexer.Layout.tiled {before text : List Char} {pos : ℕ} (h : Layout pos text ls)
    (hsize : source.utf8ByteSize < 2 ^ 32) (hpos : byteCount before = pos)
    (hsource : source.toList = before ++ text) : Tiled source (.ofNat pos) ls := by
  induction h generalizing before with
  | @ended pos gap hgap =>
      subst hpos
      rw [← List.append_nil gap] at hsource
      have hfront := textIn_of_append hsize hsource
      refine ⟨?_, List.isChain_singleton _, by simp⟩
      rintro _ ⟨⟩
      show Gap .eof ((Span.ofBytes (byteCount before) (byteCount before + byteCount gap)).textIn
        source).toList
      rwa [hfront, String.toList_ofList]
  | @token pos gap m rest t ls hgap _ halone _ ih =>
      subst hpos
      have hfront := textIn_of_append hsize hsource
      have hbefore : byteCount (before ++ gap) = byteCount before + byteCount gap :=
        byteCount_append before gap
      have hsource' : source.toList = (before ++ gap) ++ (m ++ rest) := by
        rw [hsource, List.append_assoc]
      have hcut := textIn_of_append hsize hsource'
      rw [hbefore] at hcut
      have hrest := ih (by rw [byteCount_append, hbefore])
        (hsource'.trans (List.append_assoc _ _ _).symm)
      refine ⟨?_, List.isChain_cons.mpr ⟨hrest.front, hrest.gaps⟩,
        List.forall_mem_cons.mpr ⟨fun _ => ?_, hrest.alone⟩⟩
      · rintro _ ⟨⟩
        show Gap t ((Span.ofBytes (byteCount before) (byteCount before + byteCount gap)).textIn
          source).toList
        rwa [hfront, String.toList_ofList]
      · rw [hcut, Span.length_ofBytes]
        exact halone.tokens

lemma layout_of_tokenize (h : tokenize source = .ok ls) : Layout 0 source.toList ls :=
  (byRules_tokenize source).layout (.inl (.inr (by simp [Place.start]))) ls h

/-- The tokens of a text are what it is made of. -/
lemma tiles_of_tokenize (h : tokenize source = .ok ls) (hsize : source.utf8ByteSize < 2 ^ 32) :
    Tiled source 0 ls := by
  have hempty : byteCount [] = 0 := rfl
  exact (layout_of_tokenize h).tiled hsize hempty rfl

/-- **The tokens of a text cover it.** In a text that is shorter than `2 ^ 32` bytes the tokens
stand one after the other, between boundaries of characters. The end of the input stands where the
text ends, and each other token takes some of the text. Nothing but blanks and comments stands
between them, and each of them is read from what it takes of the text. -/
theorem tiled_of_tokenize (h : tokenize source = .ok ls) (hsize : source.utf8ByteSize < 2 ^ 32) :
    (∃ ms, ls = ms ++ [⟨.eof, .point (.ofNat source.utf8ByteSize)⟩] ∧ ∀ l ∈ ms, l.token ≠ .eof)
    ∧ (∀ l ∈ ls, l.token ≠ .eof → l.span.start < l.span.stop)
    ∧ (UInt32.ofNat source.utf8ByteSize).toNat = source.utf8ByteSize
    ∧ Stands source ls ∧ Tiled source 0 ls := by
  refine ⟨?_, start_lt_stop_of_tokenize h hsize, UInt32.toNat_ofNat_of_lt' hsize,
    stands_of_tokenize h hsize, tiles_of_tokenize h hsize⟩
  obtain ⟨ms, ending, rfl, hms⟩ := exists_end_of_tokenize h
  obtain ⟨ns, hns⟩ := (layout_of_tokenize h).exists_end
  obtain ⟨-, hending⟩ := List.append_inj' hns rfl
  rw [hending, zero_add, byteCount_eq, String.ofList_toList]
  exact ⟨ms, rfl, hms⟩

/-- In the text below the keyword takes its letters of a word, and the comment, which is skipped
with the blanks around it, has a character of two bytes. The name `x` is read alone as in the
text. -/
theorem tiled_of_tokenize_comment :
    tokenize "sqrtx # é\n= 2"
      = .ok [⟨.function .sqrt, ⟨0, 4⟩⟩, ⟨.ident "x", ⟨4, 5⟩⟩, ⟨.assign, ⟨11, 12⟩⟩,
        ⟨.int 2, ⟨13, 14⟩⟩, ⟨.eof, .point 14⟩]
    ∧ "sqrtx # é\n= 2".utf8ByteSize < 2 ^ 32
    ∧ Gap .assign " # é\n".toList
    ∧ tokenize "x" = .ok [⟨.ident "x", ⟨0, 1⟩⟩, ⟨.eof, .point 1⟩] := by
  have htokens : tokenize "sqrtx # é\n= 2"
      = .ok [⟨.function .sqrt, ⟨0, 4⟩⟩, ⟨.ident "x", ⟨4, 5⟩⟩, ⟨.assign, ⟨11, 12⟩⟩,
        ⟨.int 2, ⟨13, 14⟩⟩, ⟨.eof, .point 14⟩] := by
    cbv
  have hsize : "sqrtx # é\n= 2".utf8ByteSize < 2 ^ 32 := by decide
  obtain ⟨-, -, -, -, htiled⟩ := tiled_of_tokenize htokens hsize
  have hgap := (List.isChain_cons_cons.mp (List.isChain_cons_cons.mp htiled.gaps).2).1
  have halone := htiled.alone ⟨.ident "x", ⟨4, 5⟩⟩ (by simp) (by simp)
  exact ⟨htokens, hsize, hgap, halone⟩

end Reckoner
