import Mathlib.Tactic
import Reckoner.Token.Lexer

/-!
What the lexer delivers.

The items of a text are lexemes, and after them one end of the input or one error.

* `tokensOf`: the tokens of lexemes;
* `Lexer.itemsFrom_ended`, `Lexer.itemsFrom_unrecognized`, `Lexer.itemsFrom_scanned`: the
  three ways in which reading goes on;
* `Lexer.IsName`, `Lexer.IsWritten`, `Lexer.scan_forall`: what holds of every token of a text;
* `Lexer.stream`: items that are lexemes up to an error;
* `Lexer.exists_stream`, `items_of_tokenize`, `exists_end_of_tokenize`: the items of a source
  text, and the same of `tokenize`;
* `Lexer.lexemesOf`, `Lexer.items_of_error`: the lexemes before a lexical error.
-/

namespace Reckoner

/-! ### Tokens of lexemes -/

/-- The tokens of lexemes. -/
def tokensOf (ls : List Lexeme) : List Token := ls.map Lexeme.token

@[simp] lemma tokensOf_nil : tokensOf [] = [] := rfl

@[simp] lemma tokensOf_cons (l : Lexeme) (ls : List Lexeme) :
    tokensOf (l :: ls) = l.token :: tokensOf ls := rfl

@[simp] lemma tokensOf_append (ls ms : List Lexeme) :
    tokensOf (ls ++ ms) = tokensOf ls ++ tokensOf ms := List.map_append

lemma tokensOf_eq_nil {ls : List Lexeme} : tokensOf ls = [] ↔ ls = [] := List.map_eq_nil_iff

lemma tokensOf_eq_cons {ls : List Lexeme} {t : Token} {ts : List Token} :
    tokensOf ls = t :: ts ↔ ∃ span ms, ls = ⟨t, span⟩ :: ms ∧ tokensOf ms = ts := by
  constructor
  · intro h
    obtain ⟨⟨t', span⟩, ms, rfl, rfl, hms⟩ := List.map_eq_cons_iff.mp h
    exact ⟨span, ms, rfl, hms⟩
  · rintro ⟨span, ms, rfl, rfl⟩
    rfl

lemma tokensOf_eq_append {ls : List Lexeme} {ts us : List Token} :
    tokensOf ls = ts ++ us ↔ ∃ ms ns, ls = ms ++ ns ∧ tokensOf ms = ts ∧ tokensOf ns = us :=
  List.map_eq_append_iff

namespace Lexer

variable {pos start : ℕ} {cs rest after : List Char} {c : Char} {pieces : List SizedToken}

/-! ### How reading goes on -/

lemma itemsFrom_ended (h : skipTrivia false pos cs = (start, [])) :
    itemsFrom pos cs = [.ok ⟨.eof, .point (.ofNat start)⟩] := by
  rw [itemsFrom]
  split
  · next h' =>
    rw [h] at h'
    cases h'
    rfl
  · next h' => simp [h] at h'

lemma itemsFrom_unrecognized (h : skipTrivia false pos cs = (start, c :: rest))
    (hs : scan (c :: rest) = none) :
    itemsFrom pos cs = [.error ⟨.unrecognized c, .ofBytes start (start + c.utf8Size)⟩] := by
  rw [itemsFrom]
  split
  · next h' => simp [h] at h'
  · next h' =>
    rw [h] at h'
    cases h'
    split
    · rfl
    · next hs' => simp [hs] at hs'

lemma itemsFrom_scanned (h : skipTrivia false pos cs = (start, c :: rest))
    (hs : scan (c :: rest) = some (pieces, after)) :
    itemsFrom pos cs
      = (place start pieces).map .ok ++ itemsFrom (start + extent pieces) after := by
  rw [itemsFrom]
  split
  · next h' => simp [h] at h'
  · next h' =>
    rw [h] at h'
    cases h'
    split
    · next hs' => simp [hs] at hs'
    · next hs' =>
      rw [hs] at hs'
      cases hs'
      rfl

/-- **Reading, step by step.** A property of all texts holds where it holds at the end of
the input and at errors, and where each scan hands it on. -/
lemma itemsFrom_induction {motive : ℕ → List Char → Prop}
    (ended : ∀ pos cs start, skipTrivia false pos cs = (start, []) → motive pos cs)
    (unrecognized : ∀ pos cs start c rest, skipTrivia false pos cs = (start, c :: rest) →
      scan (c :: rest) = none → motive pos cs)
    (scanned : ∀ pos cs start c rest pieces after,
      skipTrivia false pos cs = (start, c :: rest) → scan (c :: rest) = some (pieces, after) →
      motive (start + extent pieces) after → motive pos cs) (pos : ℕ) (cs : List Char) :
    motive pos cs := by
  induction pos, cs using itemsFrom.induct with
  | case1 pos cs start h => exact ended pos cs start h
  | case2 pos cs start c rest h hs => exact unrecognized pos cs start c rest h hs
  | case3 pos cs start c rest h pieces after hs _ ih =>
      exact scanned pos cs start c rest pieces after h hs ih

/-! ### What holds of every token of a text -/

/-- A name is a word that starts with no keyword. -/
def IsName (name : String) : Prop :=
  name.toList ≠ [] ∧ name.toList.all isWordChar = true ∧ keyword? name.toList = none

instance (name : String) : Decidable (IsName name) :=
  inferInstanceAs (Decidable (_ ∧ _ ∧ _))

/-- A decimal that is written in a text of `n` characters has no more places than these. -/
def IsWritten (n : ℕ) (a : Decimal) : Prop := ∃ places ≤ n, a.scale = .ofNat places

section Pieces

variable {P : Token → Prop}

lemma keyword?_suffix {word rest : List Char} {f : RealFunction}
    (h : keyword? word = some (f, rest)) : rest <:+ word := by
  unfold keyword? at h
  split at h <;> cases h <;> simp [List.suffix_cons_iff]

lemma splitWord_forall (hfunction : ∀ f, P (.function f))
    (hident : ∀ name, IsName name → P (.ident name)) {word : List Char}
    (hword : ∀ c ∈ word, isWordChar c = true) : ∀ piece ∈ splitWord word, P piece.1 := by
  induction word using splitWord.induct with
  | case1 word f rest h _ ih =>
      have hrest : ∀ c ∈ rest, isWordChar c = true :=
        fun c hc => hword c ((keyword?_suffix h).subset hc)
      rw [splitWord]
      split
      · next h' =>
        rw [h] at h'
        cases h'
        exact List.forall_mem_cons.mpr ⟨hfunction f, ih hrest⟩
      · next h' => simp [h] at h'
  | case2 word h hempty =>
      rw [splitWord]
      split
      · next h' => simp [h] at h'
      · simp [hempty]
  | case3 word h hempty =>
      have hname : IsName (String.ofList word) := by
        rw [IsName, String.toList_ofList]
        exact ⟨by simpa using hempty, List.all_eq_true.mpr hword, h⟩
      rw [splitWord]
      split
      · next h' => simp [h] at h'
      · simp [hempty, hident _ hname]

lemma scanNumber_forall (hint : ∀ n, P (.int n))
    (hdecimal : ∀ negative ds fs, fs ≠ [] → fs.length ≤ cs.length →
      P (.decimal (.ofDigits negative ds fs))) (negative : Bool) :
    P (scanNumber negative cs).1.1 := by
  rw [scanNumber]
  split
  · next c more hrest =>
    split
    · next hc =>
      refine hdecimal _ _ _ (by simp [hc]) ?_
      have hfraction := (List.takeWhile_sublist (l := c :: more) Char.isDigit).length_le
      have hlength := length_dropWhile_le Char.isDigit cs
      rw [hrest, List.length_cons] at hlength
      omega
    · exact hint _
  · exact hint _

/-- What holds of all numbers, names and functions, and of the signs of a text, holds of the
tokens that are scanned there. -/
lemma scan_forall (hint : ∀ n, P (.int n))
    (hdecimal : ∀ negative ds fs, fs ≠ [] → fs.length ≤ cs.length →
      P (.decimal (.ofDigits negative ds fs)))
    (hfunction : ∀ f, P (.function f)) (hident : ∀ name, IsName name → P (.ident name))
    (hsign : ∀ piece after, sign? cs = some (piece, after) → P piece.1)
    (h : scan cs = some (pieces, after)) : ∀ piece ∈ pieces, P piece.1 := by
  cases cs with
  | nil => simp [scan] at h
  | cons c rest =>
      simp only [scan] at h
      split at h
      · cases h
        simpa using scanNumber_forall hint hdecimal false
      · split at h
        · cases h
          have hrest (negative : Bool) (ds fs : List Char) (hfs : fs ≠ [])
              (hlength : fs.length ≤ rest.length) : P (.decimal (.ofDigits negative ds fs)) :=
            hdecimal negative ds fs hfs (hlength.trans (Nat.le_succ _))
          simpa using scanNumber_forall hint hrest true
        · split at h
          · cases h
            exact splitWord_forall hfunction hident (List.all_eq_true.mp List.all_takeWhile)
          · obtain ⟨⟨piece, _⟩, hpiece, ⟨⟩⟩ := Option.map_eq_some_iff.mp h
            simpa using hsign _ _ hpiece

lemma place_forall (pos : ℕ) (h : ∀ piece ∈ pieces, P piece.1) :
    ∀ l ∈ place pos pieces, P l.token := by
  induction pieces generalizing pos with
  | nil => simp [place]
  | cons piece pieces ih =>
      obtain ⟨hpiece, hpieces⟩ := List.forall_mem_cons.mp h
      exact List.forall_mem_cons.mpr ⟨hpiece, ih _ hpieces⟩

end Pieces

lemma sign?_ne_eof {piece : SizedToken} (h : sign? cs = some (piece, after)) :
    piece.1 ≠ .eof := by
  unfold sign? at h
  split at h <;> cases h <;> simp

/-- No token of a text is the end of the input. -/
lemma scan_ne_eof (h : scan cs = some (pieces, after)) : ∀ piece ∈ pieces, piece.1 ≠ .eof :=
  scan_forall (P := (· ≠ .eof)) (by simp) (by simp) (by simp) (by simp)
    (fun _ _ => sign?_ne_eof) h

/-! ### The stream of a text -/

/-- The items that are the lexemes `ls` and then the error `cut`, if there is one. -/
def stream (ls : List Lexeme) (cut : Option LexicalError) : List Item :=
  ls.map .ok ++ (cut.map Except.error).toList

lemma map_ok_append_stream (ls ms : List Lexeme) (cut : Option LexicalError) :
    ls.map .ok ++ stream ms cut = stream (ls ++ ms) cut := by
  simp [stream]

/-- How a stream ends: with the only end of the input, or with an error. -/
def EndsOnce (ls : List Lexeme) (cut : Option LexicalError) : Prop :=
  ∃ ms : List Lexeme, (∀ l ∈ ms, l.token ≠ .eof)
    ∧ ((∃ ending, ls = ms ++ [⟨.eof, ending⟩] ∧ cut = none) ∨ (ls = ms ∧ ∃ e, cut = some e))

lemma EndsOnce.append {ls ms : List Lexeme} {cut : Option LexicalError}
    (hls : ∀ l ∈ ls, l.token ≠ .eof) (h : EndsOnce ms cut) : EndsOnce (ls ++ ms) cut := by
  obtain ⟨ns, hns, h⟩ := h
  refine ⟨ls ++ ns, List.forall_mem_append.mpr ⟨hls, hns⟩, ?_⟩
  obtain ⟨ending, rfl, rfl⟩ | ⟨rfl, he⟩ := h
  · exact .inl ⟨ending, (List.append_assoc _ _ _).symm, rfl⟩
  · exact .inr ⟨rfl, he⟩

lemma itemsFrom_stream (pos : ℕ) (cs : List Char) :
    ∃ ls cut, itemsFrom pos cs = stream ls cut ∧ EndsOnce ls cut := by
  induction pos, cs using itemsFrom_induction with
  | ended pos cs start h =>
      exact ⟨[⟨.eof, .point (.ofNat start)⟩], none, itemsFrom_ended h,
        [], by simp, .inl ⟨.point (.ofNat start), rfl, rfl⟩⟩
  | unrecognized pos cs start c rest h hs =>
      exact ⟨[], some _, itemsFrom_unrecognized h hs, [], by simp, .inr ⟨rfl, _, rfl⟩⟩
  | scanned pos cs start c rest pieces after h hs ih =>
      obtain ⟨ls, cut, hitems, hends⟩ := ih
      refine ⟨place start pieces ++ ls, cut, ?_, ?_⟩
      · rw [itemsFrom_scanned h hs, hitems, map_ok_append_stream]
      · exact hends.append (place_forall (P := (· ≠ .eof)) start (scan_ne_eof hs))

lemma mapM_stream (ls : List Lexeme) (cut : Option LexicalError) :
    (stream ls cut).mapM id = match cut with
      | none => .ok ls
      | some e => .error e := by
  induction ls with
  | nil => cases cut <;> rfl
  | cons l ls ih =>
      rw [show stream (l :: ls) cut = .ok l :: stream ls cut from rfl, List.mapM_cons, ih]
      cases cut <;> rfl

/-- **The items of a source text** are lexemes up to the only end of the input, or up to the
only error; `tokenize` gives the lexemes or the error. -/
theorem exists_stream (src : String) :
    ∃ ls cut, items src = stream ls cut ∧ EndsOnce ls cut
      ∧ tokenize src = match cut with
        | none => .ok ls
        | some e => .error e := by
  obtain ⟨ls, cut, hitems, hends⟩ := itemsFrom_stream 0 src.toList
  refine ⟨ls, cut, hitems, hends, ?_⟩
  rw [tokenize, items, hitems, mapM_stream]

/-- The lexemes of a text up to its end, or up to its lexical error. -/
def lexemesOf (src : String) : List Lexeme := (items src).filterMap Except.toOption

lemma filterMap_stream (ls : List Lexeme) (cut : Option LexicalError) :
    (stream ls cut).filterMap Except.toOption = ls := by
  induction ls with
  | nil => cases cut <;> rfl
  | cons l ls ih => exact congrArg (l :: ·) ih

/-- A text with a lexical error is its lexemes, none of which ends the input, and the error. -/
lemma items_of_error {src : String} {e : LexicalError} (h : tokenize src = .error e) :
    items src = stream (lexemesOf src) (some e) ∧ ∀ l ∈ lexemesOf src, l.token ≠ .eof := by
  obtain ⟨ls, cut, hitems, ⟨ms, hms, hends⟩, htokens⟩ := exists_stream src
  rw [lexemesOf, hitems, filterMap_stream]
  obtain ⟨ending, rfl, rfl⟩ | ⟨rfl, e', rfl⟩ := hends
  · simp [htokens] at h
  · rw [htokens] at h
    cases h
    exact ⟨rfl, hms⟩

end Lexer

/-- The lexemes of a text whose reading ends with them. -/
lemma items_of_tokenize {src : String} {ls : List Lexeme} (h : tokenize src = .ok ls) :
    Lexer.items src = Lexer.stream ls none := by
  obtain ⟨ms, cut, hitems, -, htokens⟩ := Lexer.exists_stream src
  cases cut with
  | none =>
      rw [htokens] at h
      cases h
      exact hitems
  | some e => simp [htokens] at h

lemma exists_tokenize {src : String} {ts : List Token}
    (h : (tokenize src).toOption.map tokensOf = some ts) :
    ∃ ls, tokenize src = .ok ls ∧ tokensOf ls = ts := by
  rcases hsrc : tokenize src with e | ls
  · simp [hsrc, Except.toOption] at h
  · exact ⟨ls, rfl, by simpa [hsrc, Except.toOption] using h⟩

/-- The last token of a text, and no other, is the end of the input. -/
lemma exists_end_of_tokenize {src : String} {ls : List Lexeme} (h : tokenize src = .ok ls) :
    ∃ ms ending, ls = ms ++ [⟨.eof, ending⟩] ∧ ∀ l ∈ ms, l.token ≠ .eof := by
  obtain ⟨ns, cut, -, ⟨ms, hms, hends⟩, htokens⟩ := Lexer.exists_stream src
  obtain ⟨ending, rfl, rfl⟩ | ⟨-, e, rfl⟩ := hends
  · rw [htokens] at h
    cases h
    exact ⟨ms, ending, rfl, hms⟩
  · simp [htokens] at h

end Reckoner
