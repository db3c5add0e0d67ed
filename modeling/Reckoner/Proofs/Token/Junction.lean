import Reckoner.Proofs.Token.Spaced

/-!
Reading a text in two parts.

What a text is read as does not depend on what follows it quietly, and what follows is read
as it would be on its own, or as the rest of a comment. Where a text starts is of no concern
to its tokens.

* `Lexer.reading`: the tokens of items, if they have no error;
* `Lexer.itemsWithin`: the items of a text that starts in a comment or outside;
* `Lexer.itemsFrom_append`: the items of a text that goes on;
* `Lexer.reading_itemsFrom`, `Lexer.reading_scanned`, `Lexer.reading_blank`: the tokens of a
  text, wherever it starts, and step by step;
* `Lexer.sub_not_mem_reading`: the tokens of a text without minus signs.
-/

namespace Reckoner

namespace Lexer

variable {cs rest after : List Char} {c : Char} {pieces : List SizedToken}

/-! ### The tokens of items -/

/-- The tokens of items, if there is no error among them. -/
def reading : List Item → Option (List Token)
  | [] => some []
  | .ok l :: items => (reading items).map (l.token :: ·)
  | .error _ :: _ => none

@[simp] lemma reading_map_ok_append (ls : List Lexeme) (items : List Item) :
    reading (ls.map .ok ++ items) = (reading items).map (tokensOf ls ++ ·) := by
  induction ls with
  | nil => simp
  | cons l ls ih => simp [reading, ih, Function.comp_def]

@[simp] lemma reading_error (e : LexicalError) (items : List Item) :
    reading (.error e :: items) = none := rfl

@[simp] lemma reading_end (ending : Span) : reading [.ok ⟨.eof, ending⟩] = some [.eof] := rfl

/-- The tokens of a source text, if it is read without error. -/
lemma reading_items (src : String) :
    reading (items src) = (tokenize src).toOption.map tokensOf := by
  obtain ⟨ls, cut, hitems, -, htokens⟩ := exists_stream src
  rw [hitems, htokens, stream, reading_map_ok_append]
  cases cut with
  | none => simp [reading, Except.toOption]
  | some e => rfl

lemma tokensOf_place (pos : ℕ) (pieces : List SizedToken) :
    tokensOf (place pos pieces) = pieces.map Prod.fst := by
  induction pieces generalizing pos with
  | nil => rfl
  | cons piece pieces ih => simp [place, ih]

/-- The tokens of a text that is read without error. -/
lemma reading_of_tokenize {src : String} {ls : List Lexeme} (h : tokenize src = .ok ls) :
    reading (items src) = some (tokensOf ls) := by
  rw [reading_items, h]
  rfl

/-! ### Where a text starts -/

/-- Where a text starts is of no concern to what is skipped of it. -/
lemma skipTrivia_snd (inComment : Bool) (pos pos' : ℕ) (cs : List Char) :
    (skipTrivia inComment pos cs).2 = (skipTrivia inComment pos' cs).2 := by
  induction cs generalizing inComment pos pos' with
  | nil => rfl
  | cons c cs ih =>
      simp only [skipTrivia]
      split
      · exact ih _ _ _
      · split
        · exact ih _ _ _
        · split
          · exact ih _ _ _
          · rfl

lemma exists_skipTrivia {inComment : Bool} {pos start : ℕ}
    (h : skipTrivia inComment pos cs = (start, rest)) (pos' : ℕ) :
    ∃ start', skipTrivia inComment pos' cs = (start', rest) :=
  ⟨_, Prod.ext rfl ((skipTrivia_snd inComment pos' pos cs).trans (by rw [h]))⟩

/-- **The tokens of a text** are the same wherever it starts. -/
lemma reading_itemsFrom (pos pos' : ℕ) (cs : List Char) :
    reading (itemsFrom pos cs) = reading (itemsFrom pos' cs) := by
  induction pos, cs using itemsFrom_induction generalizing pos' with
  | ended pos cs start h =>
      obtain ⟨start', h'⟩ := exists_skipTrivia h pos'
      rw [itemsFrom_ended h, itemsFrom_ended h', reading_end, reading_end]
  | unrecognized pos cs start c rest h hs =>
      obtain ⟨start', h'⟩ := exists_skipTrivia h pos'
      rw [itemsFrom_unrecognized h hs, itemsFrom_unrecognized h' hs, reading_error,
        reading_error]
  | scanned pos cs start c rest pieces after h hs ih =>
      obtain ⟨start', h'⟩ := exists_skipTrivia h pos'
      rw [itemsFrom_scanned h hs, itemsFrom_scanned h' hs, reading_map_ok_append,
        reading_map_ok_append, tokensOf_place, tokensOf_place,
        ih (start' + extent pieces)]

/-! ### Reading from a token on -/

lemma reading_scanned (pos : ℕ)
    (h : scan cs = some (pieces, after)) :
    reading (itemsFrom pos cs)
      = (reading (itemsFrom 0 after)).map (pieces.map Prod.fst ++ ·) := by
  rw [itemsFrom_of_scan pos h, reading_map_ok_append, tokensOf_place,
    reading_itemsFrom _ 0 after]

lemma reading_blank (pos : ℕ) (cs : List Char) :
    reading (itemsFrom pos (' ' :: cs)) = reading (itemsFrom 0 cs) := by
  rw [itemsFrom_blank pos rfl]
  exact reading_itemsFrom _ 0 cs

/-! ### A text that goes on -/

/-- The items of a text that starts in a comment, or outside of one. -/
def itemsWithin (inComment : Bool) (pos : ℕ) (cs : List Char) : List Item :=
  let start := skipTrivia inComment pos cs
  itemsFrom start.1 start.2

/-- What has been skipped is not skipped again. -/
lemma skipTrivia_skipped {inComment : Bool} {pos start : ℕ}
    (h : skipTrivia inComment pos cs = (start, rest)) :
    skipTrivia false start rest = (start, rest) := by
  induction cs generalizing inComment pos with
  | nil =>
      cases h
      rfl
  | cons c cs ih =>
      simp only [skipTrivia] at h
      split at h
      · exact ih h
      · split at h
        · exact ih h
        · split at h
          · exact ih h
          · next hblank hcomment =>
            cases h
            simp [skipTrivia, hblank, hcomment]

lemma itemsWithin_false (pos : ℕ) (cs : List Char) :
    itemsWithin false pos cs = itemsFrom pos cs :=
  itemsFrom_congr (skipTrivia_skipped rfl)

lemma reading_itemsWithin (inComment : Bool) (pos pos' : ℕ) (cs : List Char) :
    reading (itemsWithin inComment pos cs) = reading (itemsWithin inComment pos' cs) := by
  rw [itemsWithin, itemsWithin, skipTrivia_snd inComment pos pos' cs]
  exact reading_itemsFrom _ _ _

/-- Where skipping ends before the text does, it does not see what follows. -/
lemma skipTrivia_append {inComment : Bool} {pos start : ℕ}
    (h : skipTrivia inComment pos cs = (start, c :: after)) (rest : List Char) :
    skipTrivia inComment pos (cs ++ rest) = (start, c :: (after ++ rest)) := by
  induction cs generalizing inComment pos with
  | nil => simp [skipTrivia] at h
  | cons d cs ih =>
      simp only [skipTrivia, List.cons_append] at h ⊢
      split at h
      · next hd => rw [if_pos hd, ih h]
      · next hd =>
        rw [if_neg hd]
        split at h
        · next hblank => rw [if_pos hblank, ih h]
        · next hblank =>
          rw [if_neg hblank]
          split at h
          · next hcomment => rw [if_pos hcomment, ih h]
          · next hcomment =>
            rw [if_neg hcomment]
            cases h
            rfl

/-- Where a text is skipped to its end, what follows is in a comment or outside. -/
lemma exists_skipTrivia_append {inComment : Bool} {pos start : ℕ}
    (h : skipTrivia inComment pos cs = (start, [])) :
    ∃ inside, ∀ rest,
      skipTrivia inComment pos (cs ++ rest) = skipTrivia inside start rest := by
  induction cs generalizing inComment pos with
  | nil =>
      cases h
      exact ⟨inComment, fun rest => rfl⟩
  | cons d cs ih =>
      simp only [skipTrivia, List.cons_append] at h ⊢
      split at h
      · next hd =>
        obtain ⟨inside, hinside⟩ := ih h
        exact ⟨inside, fun rest => by rw [if_pos hd, hinside]⟩
      · next hd =>
        split at h
        · next hblank =>
          obtain ⟨inside, hinside⟩ := ih h
          exact ⟨inside, fun rest => by rw [if_neg hd, if_pos hblank, hinside]⟩
        · next hblank =>
          split at h
          · next hcomment =>
            obtain ⟨inside, hinside⟩ := ih h
            exact ⟨inside, fun rest => by
              rw [if_neg hd, if_neg hblank, if_pos hcomment, hinside]⟩
          · cases h

lemma itemsFrom_eq_itemsWithin {inside : Bool} {pos start : ℕ}
    (h : skipTrivia false pos cs = skipTrivia inside start rest) :
    itemsFrom pos cs = itemsWithin inside start rest := by
  rw [← itemsWithin_false, itemsWithin, itemsWithin, h]

/-- What a text that goes on quietly is read as: lexemes, and then an error, or what the rest
of the text is read as. -/
def ReadsOn (pos : ℕ) (cs : List Char) (ls : List Lexeme) : Prop :=
  (∃ e, ∀ rest, Quiet rest → itemsFrom pos (cs ++ rest) = ls.map .ok ++ [.error e])
    ∨ ∃ inside next, ∀ rest, Quiet rest →
      itemsFrom pos (cs ++ rest) = ls.map .ok ++ itemsWithin inside next rest

/-- **A text that goes on.** The tokens of its first part do not depend on the second one,
and no minus sign is among them if none stands in the text. -/
lemma itemsFrom_append (pos : ℕ) (cs : List Char) :
    ∃ ls, ReadsOn pos cs ls ∧ ('-' ∉ cs → ∀ l ∈ ls, l.token ≠ .operator .sub) := by
  induction pos, cs using itemsFrom_induction with
  | ended pos cs start h =>
      obtain ⟨inside, hinside⟩ := exists_skipTrivia_append h
      refine ⟨[], .inr ⟨inside, start, fun rest _ => ?_⟩, by simp⟩
      exact itemsFrom_eq_itemsWithin (hinside rest)
  | unrecognized pos cs start c rest h hs =>
      refine ⟨[], .inl ⟨⟨.unrecognized c, .ofBytes start (start + c.utf8Size)⟩,
        fun more hmore => ?_⟩, by simp⟩
      refine itemsFrom_unrecognized (skipTrivia_append h more) ?_
      rw [← List.cons_append, scan_append hmore (by simp), hs]
      rfl
  | scanned pos cs start c rest pieces after h hs ih =>
      obtain ⟨ls, ih, hls⟩ := ih
      have hitems {more : List Char} (hmore : Quiet more) : itemsFrom pos (cs ++ more)
          = (place start pieces).map .ok ++ itemsFrom (start + extent pieces) (after ++ more) := by
        refine itemsFrom_scanned (skipTrivia_append h more) ?_
        rw [← List.cons_append, scan_append hmore (by simp), hs]
        rfl
      have hsuffix : c :: rest <:+ cs := by
        have := skipTrivia_suffix false pos cs
        rwa [h] at this
      refine ⟨place start pieces ++ ls, ?_, fun hcs => List.forall_mem_append.mpr ⟨?_, ?_⟩⟩
      · obtain ⟨e, ih⟩ | ⟨inside, next, ih⟩ := ih
        · refine .inl ⟨e, fun more hmore => ?_⟩
          rw [hitems hmore, ih more hmore, List.map_append, List.append_assoc]
        · refine .inr ⟨inside, next, fun more hmore => ?_⟩
          rw [hitems hmore, ih more hmore, List.map_append, List.append_assoc]
      · have hrest : '-' ∉ c :: rest := fun hmem => hcs (hsuffix.mem hmem)
        exact place_forall (P := (· ≠ .operator .sub)) start (scan_ne_sub hs hrest)
      · exact hls fun hmem => hcs (hsuffix.mem ((scan_suffix hs).mem hmem))

/-- A text without minus signs has no operator of that name. -/
lemma sub_not_mem_reading {pos : ℕ} {ts : List Token} (h : reading (itemsFrom pos cs) = some ts)
    (hcs : '-' ∉ cs) : .operator .sub ∉ ts := by
  obtain ⟨ls, hreads, hls⟩ := itemsFrom_append pos cs
  have hquiet : Quiet [] := by rintro c ⟨⟩
  obtain ⟨e, hitems⟩ | ⟨inside, next, hitems⟩ := hreads
  · have hnone := hitems [] hquiet
    rw [List.append_nil] at hnone
    simp [hnone] at h
  · have hsome := hitems [] hquiet
    have hend : itemsWithin inside next [] = [.ok ⟨.eof, .point (.ofNat next)⟩] :=
      itemsFrom_ended rfl
    rw [List.append_nil, hend] at hsome
    rw [hsome, reading_map_ok_append, reading_end, Option.map_some, Option.some.injEq] at h
    rw [← h, List.mem_append, not_or]
    refine ⟨fun hmem => ?_, by simp⟩
    obtain ⟨l, hl, hsub⟩ := List.mem_map.mp hmem
    exact hls hcs l hl hsub

end Lexer

end Reckoner
