import Reckoner.Proofs.Token.Munch

/-!
Where tokens stand.

In a text that is shorter than `2 ^ 32` bytes the tokens stand one after the other, and each of them
can be cut out of the text, as the character can at which the lexer gave up: they start and stop at
boundaries between characters.

* `Span.Cuts`, `Span.cuts_iff`: the stretches that can be cut out of a source;
* `Span.Cuts.join`, `Span.Cuts.through`: stretches that cover others;
* `Lexer.Arranged`, `Lexer.arranged_items`: the items of a text;
* `Stands`, `stands_of_tokenize`: the tokens of a text;
* `eq_of_span_eq`: no two of them stand at the same place.
-/

namespace Reckoner

/-! ### Stretches that can be cut out -/

/-- A stretch that can be cut out of a source: it does not stop before it starts, it stops where
the source does or earlier, and both ends are boundaries between characters. -/
structure Span.Cuts (source : String) (s : Span) : Prop where
  ordered : s.start ≤ s.stop
  inside : s.stop.toNat ≤ source.utf8ByteSize
  start_isValid : String.Pos.Raw.IsValid source ⟨s.start.toNat⟩
  stop_isValid : String.Pos.Raw.IsValid source ⟨s.stop.toNat⟩

namespace Span

open Lexer (byteCount byteCount_eq toNat_ofBytes)

variable {source : String} {s a b : Span}

/-- Of two fronts of a source the one that takes fewer bytes is a front of the other. -/
lemma exists_cut {before rest front after : String} (h : before ++ rest = front ++ after)
    (hle : before.utf8ByteSize ≤ front.utf8ByteSize) : ∃ cut, front = before ++ cut := by
  have hlists : before.toList ++ rest.toList = front.toList ++ after.toList := by
    rw [← String.toList_append, ← String.toList_append, h]
  obtain ⟨cut, hcut, -⟩ | ⟨extra, hextra, -⟩ := List.append_eq_append_iff.mp hlists
  · exact ⟨String.ofList cut, String.toList_inj.mp (by simpa using hcut)⟩
  · have hbefore : before = front ++ String.ofList extra :=
      String.toList_inj.mp (by simpa using hextra)
    have hempty : (String.ofList extra).utf8ByteSize = 0 := by
      rw [hbefore, String.utf8ByteSize_append] at hle
      omega
    rw [String.utf8ByteSize_eq_zero_iff] at hempty
    exact ⟨"", by simp [hbefore, hempty]⟩

/-- What can be cut out is a part of the source, at its place. -/
theorem cuts_iff : s.Cuts source ↔ ∃ before cut after : String, source = before ++ cut ++ after
    ∧ s.start.toNat = before.utf8ByteSize ∧ s.stop.toNat = (before ++ cut).utf8ByteSize := by
  constructor
  · intro h
    obtain ⟨before, rest, hsource, hbefore⟩ :=
      String.Pos.Raw.isValid_iff_exists_append.mp h.start_isValid
    obtain ⟨front, after, hsource', hfront⟩ :=
      String.Pos.Raw.isValid_iff_exists_append.mp h.stop_isValid
    have hstart : s.start.toNat = before.utf8ByteSize := congrArg String.Pos.Raw.byteIdx hbefore
    have hstop : s.stop.toNat = front.utf8ByteSize := congrArg String.Pos.Raw.byteIdx hfront
    have hle := UInt32.le_iff_toNat_le.mp h.ordered
    obtain ⟨cut, rfl⟩ := exists_cut (hsource.symm.trans hsource') (hstart ▸ hstop ▸ hle)
    exact ⟨before, cut, after, hsource', hstart, hstop⟩
  · rintro ⟨before, cut, after, rfl, hstart, hstop⟩
    refine ⟨?_, ?_, ?_, ?_⟩
    · rw [UInt32.le_iff_toNat_le, hstart, hstop, String.utf8ByteSize_append]
      exact Nat.le_add_right _ _
    · rw [hstop, String.utf8ByteSize_append (s := before ++ cut)]
      exact Nat.le_add_right _ _
    · rw [hstart, String.Pos.Raw.isValid_iff_exists_append]
      exact ⟨before, cut ++ after, String.append_assoc, rfl⟩
    · rw [hstop, String.Pos.Raw.isValid_iff_exists_append]
      exact ⟨before ++ cut, after, rfl, rfl⟩

lemma cuts_of_append (hsize : source.utf8ByteSize < 2 ^ 32) (before cut after : List Char)
    (h : source.toList = before ++ (cut ++ after)) :
    (ofBytes (byteCount before) (byteCount before + byteCount cut)).Cuts source := by
  have hprefix : before ++ cut <+: source.toList := ⟨after, by simp [h]⟩
  obtain ⟨hstart, hstop⟩ := toNat_ofBytes hsize hprefix
  refine cuts_iff.mpr ⟨String.ofList before, String.ofList cut, String.ofList after, ?_, ?_, ?_⟩
  · rw [← String.toList_inj]
    simpa using h
  · rw [hstart, byteCount_eq]
  · rw [hstop, byteCount_eq, String.ofList_append]

/-- Of two stretches that can be cut out, one that starts with the first and stops with the other
can be cut out as well. -/
lemma Cuts.through (ha : a.Cuts source) (hb : b.Cuts source) (h : a.start ≤ b.stop) :
    (⟨a.start, b.stop⟩ : Span).Cuts source :=
  ⟨h, hb.inside, ha.start_isValid, hb.stop_isValid⟩

@[simp] lemma toNat_start_join (a b : Span) :
    (a.join b).start.toNat = min a.start.toNat b.start.toNat := by
  show (if a.start ≤ b.start then a.start else b.start).toNat = _
  simp only [UInt32.le_iff_toNat_le]
  split <;> omega

@[simp] lemma toNat_stop_join (a b : Span) :
    (a.join b).stop.toNat = max a.stop.toNat b.stop.toNat := by
  show (if a.stop ≤ b.stop then b.stop else a.stop).toNat = _
  simp only [UInt32.le_iff_toNat_le]
  split <;> omega

lemma Cuts.join (ha : a.Cuts source) (hb : b.Cuts source) : (a.join b).Cuts source where
  ordered := by
    have := UInt32.le_iff_toNat_le.mp ha.ordered
    rw [UInt32.le_iff_toNat_le, toNat_start_join, toNat_stop_join]
    omega
  inside := by
    rw [toNat_stop_join]
    exact max_le ha.inside hb.inside
  start_isValid := by
    rw [toNat_start_join]
    obtain h | h := min_choice a.start.toNat b.start.toNat <;> rw [h]
    · exact ha.start_isValid
    · exact hb.start_isValid
  stop_isValid := by
    rw [toNat_stop_join]
    obtain h | h := max_choice a.stop.toNat b.stop.toNat <;> rw [h]
    · exact ha.stop_isValid
    · exact hb.stop_isValid

lemma cuts_origin (source : String) : origin.Cuts source :=
  cuts_iff.mpr ⟨"", "", source, by simp, rfl, rfl⟩

lemma cuts_end (hsize : source.utf8ByteSize < 2 ^ 32) :
    (point (.ofNat source.utf8ByteSize)).Cuts source := by
  have hcuts := cuts_of_append hsize source.toList [] [] (List.append_nil _).symm
  rwa [byteCount_eq, String.ofList_toList] at hcuts

end Span

namespace Lexer

/-! ### The items of a text -/

/-- Where an item stands. -/
def Item.span : Item → Span
  | .ok l => l.span
  | .error e => e.span

/-- Items that stand in a source, one after the other from byte `pos` on. -/
structure Arranged (source : String) (pos : UInt32) (items : List Item) : Prop where
  cuts : ∀ item ∈ items, (Item.span item).Cuts source
  behind : ∀ item ∈ items, pos ≤ (Item.span item).start
  inOrder : items.Pairwise fun a b => (Item.span a).stop ≤ (Item.span b).start

variable {source : String} {pos start : UInt32} {more : List Item}

lemma arranged_singleton (item : Item) (h : (Item.span item).Cuts source) :
    Arranged source (Item.span item).start [item] where
  cuts := List.forall_mem_singleton.mpr h
  behind := List.forall_mem_singleton.mpr (UInt32.le_refl _)
  inOrder := List.pairwise_singleton _ _

lemma Arranged.mono (h : Arranged source start more) (hle : pos ≤ start) :
    Arranged source pos more :=
  ⟨h.cuts, fun item hitem => UInt32.le_trans hle (h.behind item hitem), h.inOrder⟩

lemma Arranged.cons (item : Item) (hcuts : (Item.span item).Cuts source)
    (h : Arranged source (Item.span item).stop more) :
    Arranged source (Item.span item).start (item :: more) where
  cuts := List.forall_mem_cons.mpr ⟨hcuts, h.cuts⟩
  behind := List.forall_mem_cons.mpr ⟨UInt32.le_refl _, (h.mono hcuts.ordered).behind⟩
  inOrder := List.pairwise_cons.mpr ⟨h.behind, h.inOrder⟩

/-- From a place on, the items of a text stand in order. -/
lemma ByRules.arranged {p : Place} {text : List Char} {result : Except LexicalError (List Lexeme)}
    (h : ByRules p text result) (hp : p.Fits text) (hsize : source.utf8ByteSize < 2 ^ 32)
    (hsource : source.toList = p.before ++ text) :
    Arranged source (.ofNat p.position) (itemsFrom p.position text) := by
  induction h with
  | ended p =>
      rw [itemsFrom_ended rfl]
      exact arranged_singleton (.ok ⟨.eof, .point (.ofNat p.position)⟩)
        (Span.cuts_of_append hsize p.before [] [] hsource)
  | @skipped p r text m rest result h htrivia _ ih =>
      rw [itemsFrom_of_trivia h htrivia]
      rw [h.split] at hsource
      have hcuts : (p.span m).Cuts source := Span.cuts_of_append hsize p.before m rest hsource
      have hrest := ih h.fits (by rw [hsource, Place.after, List.append_assoc])
      rw [Place.position_after] at hrest ⊢
      exact hrest.mono hcuts.ordered
  | @taken p r text m rest t result h htoken _ ih =>
      rw [itemsFrom_of_applies hp h htoken]
      rw [h.split] at hsource
      have hcuts : (p.span m).Cuts source := Span.cuts_of_append hsize p.before m rest hsource
      refine Arranged.cons (.ok ⟨t, p.span m⟩) hcuts ?_
      have hrest := ih h.fits (by rw [hsource, Place.after, List.append_assoc])
      rwa [Place.position_after] at hrest ⊢
  | malformed h htrivia htoken => exact absurd htoken (token?_ne_none h.isMatch.mem htrivia)
  | @unrecognized p c rest h =>
      rw [itemsFrom_of_no_match h]
      exact arranged_singleton (.error ⟨.unrecognized c, p.span [c]⟩)
        (Span.cuts_of_append hsize p.before [c] rest hsource)

/-- **The items of a text** stand in it one after the other. -/
theorem arranged_items (hsize : source.utf8ByteSize < 2 ^ 32) :
    Arranged source 0 (items source) := by
  obtain ⟨result, hresult⟩ := exists_byRules .start source.toList
  exact hresult.arranged (.inl (.inr (by simp [Place.start]))) hsize rfl

end Lexer

/-! ### The tokens of a text -/

/-- Lexemes that stand in a source, one after the other. -/
structure Stands (source : String) (ls : List Lexeme) : Prop where
  cuts : ∀ l ∈ ls, l.span.Cuts source
  inOrder : ls.Pairwise fun a b => a.span.stop ≤ b.span.start

variable {source : String} {ls ms : List Lexeme} {a b : Lexeme}

/-- **The tokens of a text** stand in it one after the other. -/
theorem stands_of_tokenize (h : tokenize source = .ok ls)
    (hsize : source.utf8ByteSize < 2 ^ 32) : Stands source ls := by
  have harranged := Lexer.arranged_items hsize
  have hitems : Lexer.items source = ls.map .ok := by
    rw [items_of_tokenize h, Lexer.stream, Option.map_none, Option.toList_none, List.append_nil]
  rw [hitems] at harranged
  have hinOrder := List.pairwise_map.mp harranged.inOrder
  exact ⟨fun l hl => harranged.cuts _ (List.mem_map_of_mem hl), hinOrder⟩

lemma Stands.sublist (h : Stands source ls) (hsub : ms.Sublist ls) : Stands source ms :=
  ⟨fun l hl => h.cuts l (hsub.subset hl), h.inOrder.sublist hsub⟩

/-- What lies between the start of a lexeme and the stop of another one behind it. -/
lemma Stands.spanning (h : Stands source (a :: ls)) (hb : b ∈ ls) :
    (⟨a.span.start, b.span.stop⟩ : Span).Cuts source := by
  have ha := h.cuts a List.mem_cons_self
  have hbcuts := h.cuts b (List.mem_cons_of_mem a hb)
  refine ha.through hbcuts ?_
  calc a.span.start ≤ a.span.stop := ha.ordered
    _ ≤ b.span.start := List.rel_of_pairwise_cons h.inOrder hb
    _ ≤ b.span.stop := hbcuts.ordered

/-! ### Tokens at the same place -/

lemma Lexer.byteCount_pos {cs : List Char} (h : cs ≠ []) : 0 < byteCount cs := by
  obtain ⟨c, cs, rfl⟩ := List.exists_cons_of_ne_nil h
  rw [byteCount, List.map_cons, List.sum_cons]
  exact Nat.add_pos_left c.utf8Size_pos _

/-- Every token but the end of the input takes some of the text. -/
lemma Lexer.ByRules.start_lt_stop {p : Place} {text : List Char}
    {result : Except LexicalError (List Lexeme)} (h : ByRules p text result)
    (hsize : source.utf8ByteSize < 2 ^ 32) (hsource : source.toList = p.before ++ text) :
    ∀ ls, result = .ok ls → ∀ l ∈ ls, l.token ≠ .eof → l.span.start < l.span.stop := by
  induction h with
  | ended p =>
      rintro _ ⟨⟩
      simp
  | skipped h _ _ ih => exact ih (by rw [hsource, h.split, Place.after, List.append_assoc])
  | @taken p r text m rest t result h _ _ ih =>
      intro ls hls
      cases result with
      | error e => cases hls
      | ok ms =>
          cases hls
          rw [h.split, ← List.append_assoc] at hsource
          refine List.forall_mem_cons.mpr ⟨fun _ => ?_, ih hsource ms rfl⟩
          obtain ⟨hstart, hstop⟩ := toNat_ofBytes hsize ⟨rest, hsource.symm⟩
          have hpos := byteCount_pos (Rule.ne_nil_of_mem h.isMatch.mem)
          rw [UInt32.lt_iff_toNat_lt, Place.span, Place.position, hstart, hstop, byteCount_append]
          exact Nat.lt_add_of_pos_right hpos
  | malformed _ _ _ => rintro _ ⟨⟩
  | unrecognized _ => rintro _ ⟨⟩

/-- A text is tokenized as the rules read it. -/
lemma Lexer.byRules_tokenize (source : String) :
    ByRules .start source.toList (tokenize source) := by
  obtain ⟨result, hresult⟩ := exists_byRules .start source.toList
  obtain rfl : tokenize source = result :=
    hresult.mapM_itemsFrom (.inl (.inr (by simp [Place.start])))
  exact hresult

lemma start_lt_stop_of_tokenize (h : tokenize source = .ok ls)
    (hsize : source.utf8ByteSize < 2 ^ 32) :
    ∀ l ∈ ls, l.token ≠ .eof → l.span.start < l.span.stop :=
  (Lexer.byRules_tokenize source).start_lt_stop hsize rfl ls h

/-- **No other token** starts and stops where a token of a text does, unless that is the end of
the input. -/
theorem eq_of_span_eq (h : tokenize source = .ok ls) (hsize : source.utf8ByteSize < 2 ^ 32)
    {i j : ℕ} (ha : ls[i]? = some a) (hb : ls[j]? = some b) (hne : a.token ≠ .eof)
    (hspan : b.span = a.span) : j = i := by
  obtain ⟨hi, rfl⟩ := List.getElem?_eq_some_iff.mp ha
  obtain ⟨hj, rfl⟩ := List.getElem?_eq_some_iff.mp hb
  have hlt := start_lt_stop_of_tokenize h hsize ls[i] (List.getElem_mem hi) hne
  have hinOrder := List.pairwise_iff_getElem.mp (stands_of_tokenize h hsize).inOrder
  obtain hij | hij | hij := lt_trichotomy i j
  · have hle := hinOrder i j hi hj hij
    rw [hspan] at hle
    exact absurd hlt (UInt32.not_lt.mpr hle)
  · exact hij.symm
  · have hle := hinOrder j i hj hi hij
    rw [hspan] at hle
    exact absurd hlt (UInt32.not_lt.mpr hle)

end Reckoner
