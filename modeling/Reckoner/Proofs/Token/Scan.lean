import Mathlib
import Reckoner.Proofs.Token.Items

/-!
One scan.

A scan looks at most one character beyond the token it takes, and what stands there matters
only if it could go on with the token.

* `Lexer.scan_trivia`: no token starts with a blank or a comment;
* `Lexer.scan_number`, `Lexer.scan_minus`: numbers;
* `Lexer.scanNumber_integer`, `Lexer.scanNumber_decimal`: what number it is;
* `Lexer.scanNumber_whole`, `Lexer.scan_digits`, `Lexer.scan_negative`: whole numbers;
* `Lexer.scan_word`: words;
* `Lexer.Quiet`, `Lexer.scan_append`: what can follow any text without being seen.
-/

namespace Reckoner

namespace Lexer

/-! ### Stretches of characters -/

section Stretches

variable {p : Char → Bool} {xs ys : List Char}

lemma takeWhile_append_of_head (h : ∀ c ∈ ys.head?, p c = false) :
    (xs ++ ys).takeWhile p = xs.takeWhile p := by
  have hys : ys.takeWhile p = [] := by
    cases ys with
    | nil => rfl
    | cons c ys => exact List.takeWhile_cons_of_neg (by simp [h c rfl])
  rw [List.takeWhile_append, hys, List.append_nil]
  split
  · next hlength => exact ((List.takeWhile_prefix p).eq_of_length hlength).symm
  · rfl

lemma dropWhile_append_of_head (h : ∀ c ∈ ys.head?, p c = false) :
    (xs ++ ys).dropWhile p = xs.dropWhile p ++ ys := by
  have hys : ys.dropWhile p = ys := by
    cases ys with
    | nil => rfl
    | cons c ys => exact List.dropWhile_cons_of_neg (by simp [h c rfl])
  rw [List.dropWhile_append, hys]
  split
  · next hempty => simp [List.isEmpty_iff.mp hempty]
  · rfl

lemma takeWhile_of_all (hxs : ∀ c ∈ xs, p c = true) (h : ∀ c ∈ ys.head?, p c = false) :
    (xs ++ ys).takeWhile p = xs := by
  rw [takeWhile_append_of_head h]
  exact List.takeWhile_eq_self_iff.mpr hxs

lemma dropWhile_of_all (hxs : ∀ c ∈ xs, p c = true) (h : ∀ c ∈ ys.head?, p c = false) :
    (xs ++ ys).dropWhile p = ys := by
  rw [dropWhile_append_of_head h, List.dropWhile_eq_nil_iff.mpr hxs, List.nil_append]

end Stretches

variable {cs rest : List Char} {c : Char}

/-- No token starts with a blank or with the sign of comments. -/
lemma scan_trivia (h : isBlank c = true ∨ c = '#') (cs : List Char) : scan (c :: cs) = none := by
  have hc : c = ' ' ∨ c = '\t' ∨ c = '\r' ∨ c = '\n' ∨ c = '\x0c' ∨ c = '#' := by
    simpa [isBlank, or_assoc] using h
  obtain rfl | rfl | rfl | rfl | rfl | rfl := hc <;> rfl

/-! ### Numbers -/

lemma ne_of_isDigit {d : Char} (hc : c.isDigit = true) (hd : d.isDigit = false) : c ≠ d := by
  rintro rfl
  simp [hc] at hd

lemma scan_number (hc : c.isDigit = true) (cs : List Char) :
    scan (c :: cs) = some ([(scanNumber false (c :: cs)).1], (scanNumber false (c :: cs)).2) := by
  rw [scan, if_pos hc]

lemma scan_minus (hc : c.isDigit = true) (cs : List Char) :
    scan ('-' :: c :: cs)
      = some ([(scanNumber true (c :: cs)).1], (scanNumber true (c :: cs)).2) := by
  have hnegative : startsNegative ('-' :: c :: cs) = true := hc
  rw [scan, if_neg (by decide), if_pos hnegative]

/-- What can stand after a whole number without going on with it. -/
def EndsNumber (rest : List Char) : Prop := ∀ c ∈ rest.head?, c.isDigit = false ∧ c ≠ '.'

/-- The integer that is written with the digits `ds`. -/
def signed (negative : Bool) (ds : List Char) : ℤ :=
  if negative then -(Nat.ofDigitChars 10 ds 0) else Nat.ofDigitChars 10 ds 0

/-- A whole number ends where no digit follows, and no point with a digit after it. -/
lemma scanNumber_integer (negative : Bool) {ds : List Char} (hds : ∀ c ∈ ds, c.isDigit = true)
    (hrest : ∀ c ∈ rest.head?, c.isDigit = false)
    (hpoint : ∀ c more, rest = '.' :: c :: more → c.isDigit = false) :
    scanNumber negative (ds ++ rest)
      = ((.int (signed negative ds), (if negative then 1 else 0) + ds.length), rest) := by
  simp only [scanNumber, takeWhile_of_all hds hrest, dropWhile_of_all hds hrest,
    Decimal.ofDigits, List.append_nil]
  split
  · next c more =>
    rw [if_neg (by simp [hpoint c more rfl])]
    rfl
  · rfl

lemma scanNumber_whole (negative : Bool) {ds : List Char} (hds : ∀ c ∈ ds, c.isDigit = true)
    (hrest : EndsNumber rest) :
    scanNumber negative (ds ++ rest)
      = ((.int (signed negative ds), (if negative then 1 else 0) + ds.length), rest) := by
  refine scanNumber_integer negative hds (fun c hc => (hrest c hc).1) ?_
  rintro c more rfl
  exact absurd rfl (hrest '.' rfl).2

/-- A decimal goes on as long as digits follow the point. -/
lemma scanNumber_decimal (negative : Bool) {ds fs : List Char}
    (hds : ∀ c ∈ ds, c.isDigit = true) (hfs : ∀ c ∈ fs, c.isDigit = true) (hne : fs ≠ [])
    (hrest : ∀ c ∈ rest.head?, c.isDigit = false) :
    scanNumber negative (ds ++ '.' :: (fs ++ rest))
      = ((.decimal (.ofDigits negative ds fs),
          (if negative then 1 else 0) + ds.length + 1 + fs.length), rest) := by
  obtain ⟨f, fs, rfl⟩ := List.exists_cons_of_ne_nil hne
  have hpoint : ∀ c ∈ ('.' :: f :: (fs ++ rest)).head?, c.isDigit = false := by
    rintro c ⟨⟩
    rfl
  have hf : f.isDigit = true := hfs f List.mem_cons_self
  have htake := takeWhile_of_all hfs hrest
  have hdrop := dropWhile_of_all hfs hrest
  rw [List.cons_append] at htake hdrop ⊢
  simp only [scanNumber, takeWhile_of_all hds hpoint, dropWhile_of_all hds hpoint, hf, if_true,
    htake, hdrop]

lemma scan_digits {d : Char} {ds : List Char} (hds : ∀ c ∈ d :: ds, c.isDigit = true)
    (hrest : EndsNumber rest) :
    scan (d :: ds ++ rest)
      = some ([(.int (signed false (d :: ds)), ds.length + 1)], rest) := by
  rw [List.cons_append, scan_number (hds d List.mem_cons_self), ← List.cons_append,
    scanNumber_whole false hds hrest]
  simp

lemma scan_negative {d : Char} {ds : List Char} (hds : ∀ c ∈ d :: ds, c.isDigit = true)
    (hrest : EndsNumber rest) :
    scan ('-' :: (d :: ds ++ rest))
      = some ([(.int (signed true (d :: ds)), ds.length + 2)], rest) := by
  rw [List.cons_append, scan_minus (hds d List.mem_cons_self), ← List.cons_append,
    scanNumber_whole true hds hrest]
  simp [Nat.add_left_comm]

/-! ### Words -/

lemma not_isDigit_of_isWordChar (h : isWordChar c = true) : c.isDigit = false ∧ c ≠ '-' := by
  simp only [isWordChar, Bool.or_eq_true, beq_iff_eq] at h
  obtain h | rfl := h
  · simp only [Char.isAlpha, Char.isUpper, Char.isLower, Bool.or_eq_true, Bool.and_eq_true,
      decide_eq_true_eq, UInt32.le_iff_toNat_le] at h
    constructor
    · simp only [Char.isDigit, Bool.and_eq_false_iff, decide_eq_false_iff_not,
        UInt32.le_iff_toNat_le]
      simp at h ⊢
      omega
    · rintro rfl
      simp at h
  · exact ⟨rfl, by decide⟩

/-- A word is taken as a whole. -/
lemma scan_word {word : List Char} (hne : word ≠ []) (hword : ∀ c ∈ word, isWordChar c = true)
    (hrest : ∀ c ∈ rest.head?, isWordChar c = false) :
    scan (word ++ rest) = some (splitWord word, rest) := by
  obtain ⟨c, cs, rfl⟩ := List.exists_cons_of_ne_nil hne
  have hc := hword c List.mem_cons_self
  obtain ⟨hdigit, hminus⟩ := not_isDigit_of_isWordChar hc
  have hnegative : startsNegative (c :: (cs ++ rest)) = false := by
    rw [startsNegative.eq_def]
    split
    · next heq => exact absurd (List.cons.inj heq).1 hminus
    · rfl
  rw [List.cons_append, scan, if_neg (by simp [hdigit]), if_neg (by simp [hnegative]),
    if_pos hc, ← List.cons_append, takeWhile_of_all hword hrest, dropWhile_of_all hword hrest]

/-! ### Scans of a text that goes on -/

lemma scanNumber_append (negative : Bool) (cs : List Char) (hrest : EndsNumber rest) :
    scanNumber negative (cs ++ rest)
      = ((scanNumber negative cs).1, (scanNumber negative cs).2 ++ rest) := by
  have hhead : ∀ c ∈ rest.head?, c.isDigit = false := fun c hc => (hrest c hc).1
  simp only [scanNumber, takeWhile_append_of_head hhead, dropWhile_append_of_head hhead]
  rcases cs.dropWhile Char.isDigit with _ | ⟨point, more⟩
  · rw [List.nil_append]
    split
    · exact absurd rfl (hrest '.' rfl).2
    · rfl
  · by_cases hpoint : point = '.'
    · subst hpoint
      cases more with
      | nil =>
          cases rest with
          | nil => rfl
          | cons d rest => simp [hhead d rfl]
      | cons d more =>
          simp only [List.cons_append]
          split
          · rw [← List.cons_append, takeWhile_append_of_head hhead,
              dropWhile_append_of_head hhead]
          · rfl
    · simp [hpoint]

lemma sign?_singleton {a : Char} {piece : SizedToken} {after : List Char}
    (h : sign? [a] = some (piece, after)) : after = [] :=
  List.length_eq_zero_iff.mp (Nat.lt_one_iff.mp (sign?_length h))

/-- A sign is taken alone where nothing follows that could make it a longer one. -/
lemma sign?_alone (a : Char) (h : ∀ c ∈ rest.head?, c ≠ '*' ∧ c ≠ '=') :
    sign? (a :: rest) = (sign? [a]).map fun r => (r.1, rest) := by
  cases rest with
  | nil =>
      rcases hsign : sign? [a] with _ | ⟨piece, after⟩
      · rfl
      · rw [sign?_singleton hsign]
        rfl
  | cons c rest =>
      obtain ⟨hstar, hequal⟩ := h c rfl
      unfold sign?
      split <;> simp_all

lemma sign?_append (a b : Char) (cs rest : List Char) :
    sign? (a :: b :: cs ++ rest) = (sign? (a :: b :: cs)).map fun r => (r.1, r.2 ++ rest) := by
  by_cases hb : b = '*' ∨ b = '='
  · obtain rfl | rfl := hb <;>
    · unfold sign?
      split <;> simp_all
      all_goals next h heq => exact h _ heq.2.symm
  · have halone (ds : List Char) : sign? (a :: b :: ds) = (sign? [a]).map fun r => (r.1, b :: ds) :=
      sign?_alone a (by rintro c ⟨⟩; exact not_or.mp hb)
    simp only [List.cons_append, halone, Option.map_map, Function.comp_def]

/-- What can stand after any text without going on with its last token. -/
def Quiet (rest : List Char) : Prop := ∀ c ∈ rest.head?, c = ' ' ∨ c = '+'

lemma Quiet.endsNumber (h : Quiet rest) : EndsNumber rest := by
  intro c hc
  obtain rfl | rfl := h c hc <;> decide

lemma Quiet.endsWord (h : Quiet rest) : ∀ c ∈ rest.head?, isWordChar c = false := by
  intro c hc
  obtain rfl | rfl := h c hc <;> rfl

lemma Quiet.endsSign (h : Quiet rest) : ∀ c ∈ rest.head?, c ≠ '*' ∧ c ≠ '=' := by
  intro c hc
  obtain rfl | rfl := h c hc <;> decide

lemma startsNegative_append (h : Quiet rest) (hne : cs ≠ []) :
    startsNegative (cs ++ rest) = startsNegative cs := by
  match cs, rest with
  | [a], [] => rfl
  | [a], c :: rest =>
      by_cases ha : a = '-'
      · obtain rfl | rfl := h c rfl <;> simp [startsNegative, ha]
      · simp [startsNegative, ha]
  | a :: b :: cs, rest =>
      by_cases ha : a = '-'
      · simp [startsNegative, ha]
      · simp [startsNegative, ha]

/-- **A scan does not see what follows quietly.** -/
lemma scan_append (h : Quiet rest) (hne : cs ≠ []) :
    scan (cs ++ rest) = (scan cs).map fun r => (r.1, r.2 ++ rest) := by
  obtain ⟨c, cs, rfl⟩ := List.exists_cons_of_ne_nil hne
  have hnegative := startsNegative_append h hne
  rw [List.cons_append] at hnegative ⊢
  simp only [scan]
  split
  · rw [← List.cons_append, scanNumber_append _ _ h.endsNumber]
    rfl
  · rw [hnegative]
    split
    · rw [scanNumber_append _ _ h.endsNumber]
      rfl
    · split
      · rw [← List.cons_append, takeWhile_append_of_head h.endsWord,
          dropWhile_append_of_head h.endsWord]
        rfl
      · cases cs with
        | nil =>
            rw [List.nil_append, sign?_alone c h.endsSign]
            rcases hsign : sign? [c] with _ | ⟨piece, after⟩
            · rfl
            · rw [sign?_singleton hsign]
              rfl
        | cons d cs =>
            rw [← List.cons_append, sign?_append]
            simp only [Option.map_map, Function.comp_def]

/-! ### What is left of a text -/

lemma scanNumber_suffix (negative : Bool) (cs : List Char) :
    (scanNumber negative cs).2 <:+ cs := by
  have hdigits := List.dropWhile_suffix (l := cs) Char.isDigit
  rw [scanNumber]
  split
  · next c more hrest =>
    split
    · have hmore := List.dropWhile_suffix (l := c :: more) Char.isDigit
      exact hmore.trans ((List.suffix_cons '.' _).trans (hrest ▸ hdigits))
    · exact hdigits
  · exact hdigits

lemma sign?_suffix {piece : SizedToken} {after : List Char}
    (h : sign? cs = some (piece, after)) : after <:+ cs := by
  unfold sign? at h
  split at h <;> cases h <;> simp [List.suffix_cons_iff]

lemma scan_suffix {pieces : List SizedToken} {after : List Char}
    (h : scan cs = some (pieces, after)) : after <:+ cs := by
  cases cs with
  | nil => simp [scan] at h
  | cons c cs =>
      simp only [scan] at h
      split at h
      · cases h
        exact scanNumber_suffix _ _
      · split at h
        · cases h
          exact (scanNumber_suffix _ _).trans (List.suffix_cons _ _)
        · split at h
          · cases h
            exact List.dropWhile_suffix _
          · obtain ⟨⟨piece, _⟩, hpiece, ⟨⟩⟩ := Option.map_eq_some_iff.mp h
            exact sign?_suffix hpiece

lemma skipTrivia_suffix (inComment : Bool) (pos : ℕ) (cs : List Char) :
    (skipTrivia inComment pos cs).2 <:+ cs := by
  induction cs generalizing inComment pos with
  | nil => exact List.suffix_rfl
  | cons c cs ih =>
      simp only [skipTrivia]
      split
      · exact (ih _ _).trans (List.suffix_cons _ _)
      · split
        · exact (ih _ _).trans (List.suffix_cons _ _)
        · split
          · exact (ih _ _).trans (List.suffix_cons _ _)
          · exact List.suffix_rfl

/-! ### Minus signs -/

lemma sign?_ne_sub {piece : SizedToken} {after : List Char}
    (h : sign? cs = some (piece, after)) (hcs : '-' ∉ cs) : piece.1 ≠ .operator .sub := by
  unfold sign? at h
  split at h <;> cases h <;> simp_all

/-- A text without minus signs has no operator of that name. -/
lemma scan_ne_sub {pieces : List SizedToken} {after : List Char}
    (h : scan cs = some (pieces, after)) (hcs : '-' ∉ cs) :
    ∀ piece ∈ pieces, piece.1 ≠ .operator .sub :=
  scan_forall (P := (· ≠ .operator .sub)) (by simp) (by simp) (by simp) (by simp)
    (fun _ _ hsign => sign?_ne_sub hsign hcs) h

end Lexer

end Reckoner
