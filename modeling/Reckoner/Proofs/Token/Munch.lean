import Reckoner.Proofs.Token.Rules

/-!
The lexer follows its rules.

Each rule that is taken makes the lexer move past its match, and deliver the token that the
match spells. A word is scanned as a whole, but a keyword at its front is read as it is where
the rest of the word stands alone, so the lexer goes on after a keyword as the rules do.

* `Lexer.Rule.Applies.fits`: keywords are allowed wherever the rules could match one;
* `Lexer.token?_ne_none`: what a rule matches, it can read;
* `Lexer.scan_of_applies`, `Lexer.itemsFrom_keyword`, `Lexer.scan_of_no_match`: the rules, one
  by one;
* `Lexer.ByRules.itemsFrom_eq`: the items of a text are those that the rules give;
* `tokenize_iff_byRules`: so are the tokens, and no number is malformed.
-/

namespace Reckoner

namespace Lexer

variable {p : Place} {r : Rule} {text m rest cs : List Char} {c : Char} {t : Token}

/-! ### Longest matches -/

/-- A longest match does not go on. -/
lemma Rule.Applies.not_mem_append (h : r.Applies p text m (c :: rest)) :
    m ++ [c] ∉ r.language := by
  intro hmem
  have hmatches : r.Matches p text (m ++ [c]) :=
    ⟨hmem, ⟨rest, by simp [h.split]⟩, h.isMatch.allowed⟩
  have hle := h.longest _ hmatches
  rw [List.length_append, List.length_singleton] at hle
  omega

lemma mem_stretch_append {s : Set Char} (hm : m ∈ stretch s) (hc : c ∈ s) :
    m ++ [c] ∈ stretch s := by
  refine ⟨by simp, fun d hd => ?_⟩
  obtain hd | rfl : d ∈ m ∨ d = c := by simpa using hd
  · exact hm.2 d hd
  · exact hc

/-! ### Where keywords are allowed -/

/-- If a word goes on where reading stands, a keyword has just been read. -/
def Place.Fits (p : Place) (text : List Char) : Prop :=
  p.StartsWord ∨ ∀ c ∈ text.head?, c ∉ wordClass

lemma Place.Fits.startsWord (hp : p.Fits text) (h : ∃ c ∈ text.head?, c ∈ wordClass) :
    p.StartsWord := by
  obtain ⟨c, hc, hword⟩ := h
  exact hp.resolve_right fun hhead => hhead c hc hword

lemma not_mem_wordClass (h : isWordChar c = false) : c ∉ wordClass := by
  rw [mem_wordClass, h]
  decide

lemma not_mem_wordClass_of_isDigit (h : c.isDigit = true) : c ∉ wordClass := by
  intro hword
  have hdigit := (not_isDigit_of_isWordChar (mem_wordClass.mp hword)).1
  simp [h] at hdigit

lemma isWordChar_of_sign :
    ∀ entry ∈ longSigns ++ shortSigns, ∀ c ∈ entry.1.toList, isWordChar c = false := by
  simp [longSigns, shortSigns]
  decide

/-- Only comments, keywords and names have characters of words. -/
lemma not_mem_wordClass_of_mem (hm : m ∈ r.language)
    (hr : r ≠ .comment ∧ r ≠ .keyword ∧ r ≠ .name) : ∀ c ∈ m, c ∉ wordClass := by
  have hminus {s : List Char} (hs : s ∈ optionalMinus) : ∀ c ∈ s, c ∉ wordClass := by
    obtain rfl | rfl := mem_optionalMinus.mp hs
    · simp
    · simpa using not_mem_wordClass rfl
  have hdigits {ds : List Char} (hds : ds ∈ stretch digitClass) : ∀ c ∈ ds, c ∉ wordClass :=
    fun c hc => not_mem_wordClass_of_isDigit (mem_digitClass.mp (hds.2 c hc))
  cases r with
  | blank =>
      intro c hc
      have hblank : c = ' ' ∨ c = '\t' ∨ c = '\r' ∨ c = '\n' ∨ c = '\x0c' := hm.2 c hc
      obtain rfl | rfl | rfl | rfl | rfl := hblank <;> exact not_mem_wordClass rfl
  | decimal =>
      obtain ⟨s, hs, ds, hds, fs, hfs, rfl⟩ := mem_decimal.mp hm
      simp only [List.forall_mem_append, List.forall_mem_cons]
      exact ⟨hminus hs, hdigits hds, not_mem_wordClass rfl, hdigits hfs⟩
  | integer =>
      obtain ⟨s, hs, ds, hds, rfl⟩ := mem_integer.mp hm
      exact List.forall_mem_append.mpr ⟨hminus hs, hdigits hds⟩
  | longSign | shortSign =>
      obtain ⟨entry, hentry, rfl⟩ := hm
      intro c hc
      exact not_mem_wordClass (isWordChar_of_sign entry (by simp [hentry]) c hc)
  | comment | keyword | name => simp at hr

/-- **Keywords are allowed** wherever a word goes on after a match. -/
lemma Rule.Applies.fits (h : r.Applies p text m rest) : (p.after r m).Fits rest := by
  have hlast (hr : r ≠ .comment ∧ r ≠ .keyword ∧ r ≠ .name) : (p.after r m).Fits rest := by
    refine .inl (.inr fun c hc => not_mem_wordClass_of_mem h.isMatch.mem hr c ?_)
    rw [Place.after, List.getLast?_append_of_ne_nil _ (ne_nil_of_mem h.isMatch.mem)] at hc
    exact List.mem_of_getLast? hc
  cases r with
  | keyword => exact .inl (.inl rfl)
  | comment =>
      refine .inr fun c hc hword => ?_
      obtain ⟨w, hw, rfl⟩ := mem_comment.mp h.isMatch.mem
      obtain ⟨rest, rfl⟩ := List.head?_eq_some_iff.mp hc
      refine h.not_mem_append (mem_comment.mpr ⟨w ++ [c], ?_, rfl⟩)
      rintro hmem
      obtain hmem | rfl : '\n' ∈ w ∨ '\n' = c := by simpa using hmem
      · exact hw hmem
      · exact not_mem_wordClass rfl hword
  | name =>
      refine .inr fun c hc hword => ?_
      obtain ⟨rest, rfl⟩ := List.head?_eq_some_iff.mp hc
      exact h.not_mem_append (mem_stretch_append h.isMatch.mem hword)
  | blank | decimal | integer | longSign | shortSign => exact hlast (by simp)

/-! ### Numbers -/

/-- The minus sign of a number, if it is negative. -/
def minusOf (negative : Bool) : List Char := if negative then ['-'] else []

lemma exists_minusOf {s : List Char} (h : s ∈ optionalMinus) :
    ∃ negative, s = minusOf negative := by
  obtain rfl | rfl := mem_optionalMinus.mp h
  · exact ⟨false, rfl⟩
  · exact ⟨true, rfl⟩

lemma minusOf_mem (negative : Bool) : minusOf negative ∈ optionalMinus := by
  cases negative with
  | false => exact mem_optionalMinus.mpr (.inl rfl)
  | true => exact mem_optionalMinus.mpr (.inr rfl)

lemma mem_stretch_digitClass :
    m ∈ stretch digitClass ↔ m ≠ [] ∧ ∀ c ∈ m, c.isDigit = true := by
  simp only [mem_stretch, mem_digitClass]

lemma naturalOf?_digits (h : m ∈ stretch digitClass) :
    naturalOf? m = some (Nat.ofDigitChars 10 m 0) := by
  obtain ⟨hne, hdigits⟩ := mem_stretch_digitClass.mp h
  exact if_pos ⟨hne, List.all_eq_true.mpr hdigits⟩

lemma integerOf?_digits (negative : Bool) (h : m ∈ stretch digitClass) :
    integerOf? (minusOf negative ++ m) = some (signed negative m) := by
  cases negative with
  | true =>
      show (naturalOf? m).map (fun n => -(n : ℤ)) = _
      rw [naturalOf?_digits h]
      rfl
  | false =>
      obtain ⟨d, ds, rfl⟩ := List.exists_cons_of_ne_nil h.1
      have hd := ne_of_isDigit (mem_digitClass.mp (h.2 d List.mem_cons_self)) (d := '-') rfl
      rw [minusOf, if_neg (by decide), List.nil_append, integerOf?, naturalOf?_digits h]
      · rfl
      · rintro text ⟨⟩
        exact hd rfl

lemma decimalOf?_digits (negative : Bool) {ds fs : List Char} (hds : ds ∈ stretch digitClass)
    (hfs : fs ∈ stretch digitClass) :
    decimalOf? (minusOf negative ++ (ds ++ '.' :: fs)) = some (.ofDigits negative ds fs) := by
  have hwhole : ∀ c ∈ minusOf negative ++ ds, decide (c ≠ '.') = true := by
    intro c hc
    obtain hc | hc := List.mem_append.mp hc
    · cases negative with
      | false => simp [minusOf] at hc
      | true =>
          obtain rfl : c = '-' := by simpa [minusOf] using hc
          rfl
    · exact decide_eq_true (ne_of_isDigit (mem_digitClass.mp (hds.2 c hc)) rfl)
  have hpoint : ∀ c ∈ ('.' :: fs).head?, decide (c ≠ '.') = false := by
    rintro c ⟨⟩
    rfl
  have hall : ds ++ fs ∈ stretch digitClass := by
    refine ⟨by simp [hds.1], fun c hc => ?_⟩
    exact (List.mem_append.mp hc).elim (hds.2 c) (hfs.2 c)
  rw [decimalOf?, ← List.append_assoc, takeWhile_of_all hwhole hpoint,
    dropWhile_of_all hwhole hpoint, List.tail_cons, List.append_assoc,
    integerOf?_digits negative hall]
  rfl

/-! ### What a match spells -/

lemma lookup_keywords :
    ∀ entry ∈ keywords, keywords.lookup (String.ofList entry.1.toList) = some entry.2 := by
  simp only [String.ofList_toList]
  decide

lemma lookup_longSigns :
    ∀ entry ∈ longSigns, longSigns.lookup (String.ofList entry.1.toList) = some entry.2 := by
  simp only [String.ofList_toList]
  decide

lemma lookup_shortSigns :
    ∀ entry ∈ shortSigns, shortSigns.lookup (String.ofList entry.1.toList) = some entry.2 := by
  simp only [String.ofList_toList]
  decide

/-- **What a rule matches, it can read.** -/
lemma token?_ne_none (hm : m ∈ r.language) (hr : r.isTrivia = false) : r.token? m ≠ none := by
  cases r with
  | blank | comment => cases hr
  | decimal =>
      obtain ⟨s, hs, ds, hds, fs, hfs, rfl⟩ := mem_decimal.mp hm
      obtain ⟨negative, rfl⟩ := exists_minusOf hs
      simp [Rule.token?, decimalOf?_digits negative hds hfs]
  | integer =>
      obtain ⟨s, hs, ds, hds, rfl⟩ := mem_integer.mp hm
      obtain ⟨negative, rfl⟩ := exists_minusOf hs
      simp [Rule.token?, integerOf?_digits negative hds]
  | keyword =>
      obtain ⟨entry, hentry, rfl⟩ := hm
      simp only [Rule.token?, lookup_keywords entry hentry, ne_eq, reduceCtorEq,
        not_false_eq_true]
  | name => simp [Rule.token?]
  | longSign =>
      obtain ⟨entry, hentry, rfl⟩ := hm
      simp only [Rule.token?, lookup_longSigns entry hentry, ne_eq, reduceCtorEq,
        not_false_eq_true]
  | shortSign =>
      obtain ⟨entry, hentry, rfl⟩ := hm
      simp only [Rule.token?, lookup_shortSigns entry hentry, ne_eq, reduceCtorEq,
        not_false_eq_true]

/-! ### Bytes -/

lemma byteCount_append (cs ds : List Char) :
    byteCount (cs ++ ds) = byteCount cs + byteCount ds := by
  simp [byteCount]

lemma byteCount_eq (cs : List Char) : byteCount cs = (String.ofList cs).utf8ByteSize := by
  induction cs with
  | nil => rfl
  | cons c cs ih =>
      rw [String.utf8ByteSize_ofList] at ih ⊢
      rw [byteCount, List.map_cons, List.sum_cons, String.utf8Len_cons, ← ih, Nat.add_comm]
      rfl

lemma byteCount_eq_length (h : ∀ c ∈ cs, c.utf8Size = 1) : byteCount cs = cs.length := by
  rw [byteCount, List.map_eq_replicate_iff.mpr h]
  simp

lemma Place.position_after (p : Place) (r : Rule) (m : List Char) :
    (p.after r m).position = p.position + byteCount m :=
  byteCount_append _ _

lemma byteCount_le_byteSize {source : String} (h : cs <+: source.toList) :
    byteCount cs ≤ source.utf8ByteSize := by
  obtain ⟨more, hmore⟩ := h
  rw [← String.ofList_toList (s := source), ← byteCount_eq, ← hmore, byteCount_append]
  exact Nat.le_add_right _ _

/-- In a source that is shorter than `2 ^ 32` bytes the ends of a stretch are the numbers of the
bytes before them. -/
lemma toNat_ofBytes {source : String} {before cut : List Char}
    (hsize : source.utf8ByteSize < 2 ^ 32) (h : before ++ cut <+: source.toList) :
    (Span.ofBytes (byteCount before) (byteCount before + byteCount cut)).start.toNat
        = byteCount before
      ∧ (Span.ofBytes (byteCount before) (byteCount before + byteCount cut)).stop.toNat
        = byteCount (before ++ cut) := by
  have hstop : byteCount (before ++ cut) < 2 ^ 32 := (byteCount_le_byteSize h).trans_lt hsize
  rw [byteCount_append] at hstop ⊢
  have hstart : byteCount before < 2 ^ 32 := by omega
  exact ⟨Span.toNat_start_ofBytes _ hstart, Span.toNat_stop_ofBytes _ hstop⟩

lemma utf8Size_of_isDigit (h : c.isDigit = true) : c.utf8Size = 1 := by
  simp only [Char.isDigit, Bool.and_eq_true, decide_eq_true_eq, UInt32.le_iff_toNat_le] at h
  rw [Char.utf8Size_eq_one_iff, UInt32.le_iff_toNat_le]
  simp at h ⊢
  omega

lemma utf8Size_of_isWordChar (h : isWordChar c = true) : c.utf8Size = 1 := by
  rw [isWordChar, Bool.or_eq_true, beq_iff_eq] at h
  obtain h | rfl := h
  · simp only [Char.isAlpha, Char.isUpper, Char.isLower, Bool.or_eq_true, Bool.and_eq_true,
      decide_eq_true_eq, UInt32.le_iff_toNat_le] at h
    rw [Char.utf8Size_eq_one_iff, UInt32.le_iff_toNat_le]
    simp at h ⊢
    omega
  · rfl

lemma byteCount_digits (h : m ∈ stretch digitClass) : byteCount m = m.length :=
  byteCount_eq_length fun c hc => utf8Size_of_isDigit (mem_digitClass.mp (h.2 c hc))

lemma byteCount_minusOf (negative : Bool) :
    byteCount (minusOf negative) = if negative then 1 else 0 := by
  cases negative <;> rfl

/-! ### Scans of numbers -/

lemma scan_minusOf (negative : Bool) {ds : List Char} (hds : ds ∈ stretch digitClass)
    (more : List Char) :
    scan (minusOf negative ++ (ds ++ more))
      = some ([(scanNumber negative (ds ++ more)).1], (scanNumber negative (ds ++ more)).2) := by
  obtain ⟨d, ds, rfl⟩ := List.exists_cons_of_ne_nil hds.1
  have hd : d.isDigit = true := mem_digitClass.mp (hds.2 d List.mem_cons_self)
  cases negative with
  | false => exact scan_number hd (ds ++ more)
  | true => exact scan_minus hd (ds ++ more)

/-- A longest stretch of digits is followed by no digit. -/
lemma Rule.Applies.isDigit_of_rest {front ds : List Char} (h : r.Applies p text (front ++ ds) rest)
    (hmem : ∀ c, ds ++ [c] ∈ stretch digitClass → front ++ (ds ++ [c]) ∈ r.language)
    (hds : ds ∈ stretch digitClass) : ∀ c ∈ rest.head?, c.isDigit = false := by
  intro c hc
  obtain ⟨rest, rfl⟩ := List.head?_eq_some_iff.mp hc
  by_contra hdigit
  refine h.not_mem_append ?_
  rw [List.append_assoc]
  exact hmem c (mem_stretch_append hds (mem_digitClass.mpr (by simpa using hdigit)))

lemma scan_of_decimal (h : Rule.decimal.Applies p text m rest)
    (htoken : Rule.decimal.token? m = some t) : scan text = some ([(t, byteCount m)], rest) := by
  obtain ⟨s, hs, ds, hds, fs, hfs, rfl⟩ := mem_decimal.mp h.isMatch.mem
  obtain ⟨negative, rfl⟩ := exists_minusOf hs
  have hfront : minusOf negative ++ (ds ++ '.' :: fs) = minusOf negative ++ ds ++ ['.'] ++ fs := by
    simp
  have hrest : ∀ c ∈ rest.head?, c.isDigit = false := by
    refine Rule.Applies.isDigit_of_rest (hfront ▸ h) (fun c hc => ?_) hfs
    exact mem_decimal.mpr ⟨_, hs, ds, hds, fs ++ [c], hc, by simp⟩
  have hscan := scanNumber_decimal negative (mem_stretch_digitClass.mp hds).2
    (mem_stretch_digitClass.mp hfs).2 hfs.1 hrest
  have hbytes : byteCount (minusOf negative ++ (ds ++ '.' :: fs))
      = (if negative then 1 else 0) + ds.length + 1 + fs.length := by
    rw [hfront]
    simp only [byteCount_append, byteCount_minusOf, byteCount_digits hds, byteCount_digits hfs]
    rfl
  rw [Rule.token?, decimalOf?_digits negative hds hfs] at htoken
  obtain rfl := Option.some.inj htoken
  rw [h.split, List.append_assoc, List.append_assoc, scan_minusOf negative hds, List.cons_append,
    hscan, hbytes]

lemma scan_of_integer (h : Rule.integer.Applies p text m rest)
    (htoken : Rule.integer.token? m = some t) : scan text = some ([(t, byteCount m)], rest) := by
  obtain ⟨s, hs, ds, hds, rfl⟩ := mem_integer.mp h.isMatch.mem
  obtain ⟨negative, rfl⟩ := exists_minusOf hs
  have hrest : ∀ c ∈ rest.head?, c.isDigit = false :=
    h.isDigit_of_rest (fun c hc => mem_integer.mpr ⟨_, hs, ds ++ [c], hc, rfl⟩) hds
  -- With a point and a digit behind it, a decimal would have been taken.
  have hpoint : ∀ c more, rest = '.' :: c :: more → c.isDigit = false := by
    rintro c more rfl
    by_contra hdigit
    have hc : [c] ∈ stretch digitClass := by simpa [mem_stretch_digitClass] using hdigit
    refine h.first .decimal (by decide) (minusOf negative ++ (ds ++ '.' :: [c])) ⟨?_, ?_, by simp⟩
    · exact mem_decimal.mpr ⟨_, hs, ds, hds, [c], hc, rfl⟩
    · exact ⟨more, by simp [h.split]⟩
  have hscan := scanNumber_integer negative (mem_stretch_digitClass.mp hds).2 hrest hpoint
  have hbytes : byteCount (minusOf negative ++ ds) = (if negative then 1 else 0) + ds.length := by
    rw [byteCount_append, byteCount_minusOf, byteCount_digits hds]
  rw [Rule.token?, integerOf?_digits negative hds] at htoken
  obtain rfl := Option.some.inj htoken
  rw [h.split, List.append_assoc, scan_minusOf negative hds, hscan, hbytes]

/-! ### Words -/

lemma mem_stretch_wordClass :
    m ∈ stretch wordClass ↔ m ≠ [] ∧ ∀ c ∈ m, isWordChar c = true := by
  simp only [mem_stretch, mem_wordClass]

lemma functionName_mem (f : RealFunction) : f.name.toList ∈ Rule.keyword.language := by
  cases f with
  | sqrt => exact ⟨("sqrt", .function .sqrt), by simp [keywords], rfl⟩
  | exp => exact ⟨("exp", .function .exp), by simp [keywords], rfl⟩
  | log => exact ⟨("log", .function .log), by simp [keywords], rfl⟩

lemma exists_function :
    ∀ entry ∈ keywords, ∃ f : RealFunction, entry = (f.name, .function f) := by
  simp only [keywords, List.forall_mem_cons]
  exact ⟨⟨.sqrt, rfl⟩, ⟨.exp, rfl⟩, ⟨.log, rfl⟩, by simp⟩

lemma functionName_mem_stretch (f : RealFunction) : f.name.toList ∈ stretch wordClass :=
  mem_stretch_wordClass.mpr ⟨functionName_ne_nil f, isWordChar_of_mem_functionName f⟩

/-- Keywords are words. -/
lemma exists_head_of_keyword (h : m ∈ Rule.keyword.language) :
    ∃ d ds, m = d :: ds ∧ d ∈ wordClass := by
  obtain ⟨entry, hentry, rfl⟩ := h
  obtain ⟨f, rfl⟩ := exists_function entry hentry
  obtain ⟨hne, hword⟩ := functionName_mem_stretch f
  obtain ⟨d, ds, hf⟩ := List.exists_cons_of_ne_nil hne
  exact ⟨d, ds, hf, hword d (by rw [hf]; exact List.mem_cons_self)⟩

lemma scan_of_name (hp : p.Fits text) (h : Rule.name.Applies p text m rest)
    (htoken : Rule.name.token? m = some t) : scan text = some ([(t, byteCount m)], rest) := by
  obtain ⟨hne, hword⟩ := mem_stretch_wordClass.mp h.isMatch.mem
  have hrest : ∀ c ∈ rest.head?, isWordChar c = false := by
    intro c hc
    obtain ⟨rest, rfl⟩ := List.head?_eq_some_iff.mp hc
    by_contra hc
    exact h.not_mem_append
      (mem_stretch_append h.isMatch.mem (mem_wordClass.mpr (by simpa using hc)))
  -- A word starts here, so a keyword would have been taken.
  have hstarts : p.StartsWord := by
    obtain ⟨d, m, rfl⟩ := List.exists_cons_of_ne_nil hne
    exact hp.startsWord ⟨d, by simp [h.split], mem_wordClass.mpr (hword d List.mem_cons_self)⟩
  have hkeyword : keyword? m = none := by
    refine keyword?_eq_none_iff.mpr fun f hprefix => ?_
    refine h.first .keyword (by decide) f.name.toList ⟨functionName_mem f, ?_, fun _ => hstarts⟩
    exact hprefix.trans h.isMatch.isPrefix
  have hbytes : byteCount m = m.length :=
    byteCount_eq_length fun c hc => utf8Size_of_isWordChar (hword c hc)
  obtain rfl := Option.some.inj htoken
  rw [h.split, scan_word hne hword hrest, splitWord_name hne hkeyword, hbytes]

/-- A keyword is read, and then what follows it, as if it stood there alone. -/
lemma itemsFrom_keyword (pos : ℕ) (f : RealFunction) (rest : List Char) :
    itemsFrom pos (f.name.toList ++ rest)
      = .ok ⟨.function f, .ofBytes pos (pos + f.name.length)⟩
        :: itemsFrom (pos + f.name.length) rest := by
  obtain ⟨hne, hname⟩ := mem_stretch_wordClass.mp (functionName_mem_stretch f)
  obtain ⟨word, after, rfl, hword, hafter⟩ : ∃ word after, rest = word ++ after
      ∧ (∀ c ∈ word, isWordChar c = true) ∧ ∀ c ∈ after.head?, isWordChar c = false := by
    refine ⟨rest.takeWhile isWordChar, rest.dropWhile isWordChar,
      List.takeWhile_append_dropWhile.symm, List.all_eq_true.mp List.all_takeWhile, ?_⟩
    intro c hc
    by_contra hword
    exact absurd (List.head?_dropWhile_not isWordChar rest) (by simp_all)
  have hscan : scan (f.name.toList ++ (word ++ after))
      = some ((.function f, f.name.length) :: splitWord word, after) := by
    rw [← List.append_assoc, scan_word (by simp [hne]) (List.forall_mem_append.mpr ⟨hname, hword⟩)
      hafter, splitWord_functionName]
  rw [itemsFrom_of_scan pos hscan, place, List.map_cons, List.cons_append, extent, ← add_assoc]
  congr 1
  by_cases hempty : word = []
  · subst hempty
    rw [splitWord_nil]
    rfl
  · rw [itemsFrom_of_scan _ (scan_word hempty hword hafter)]

/-! ### Signs -/

lemma scan_longSign (rest : List Char) :
    ∀ entry ∈ longSigns, scan (entry.1.toList ++ rest) = some ([(entry.2, 2)], rest) := by
  simp only [longSigns, List.forall_mem_cons]
  exact ⟨rfl, rfl, rfl, rfl, rfl, by simp⟩

/-- Only signs are read as signs. -/
lemma exists_sign {piece : SizedToken} {after : List Char} (h : sign? text = some (piece, after)) :
    ∃ entry ∈ longSigns ++ shortSigns, text = entry.1.toList ++ after := by
  rw [sign?.eq_def] at h
  split at h <;> cases h
  · exact ⟨("**", .operator .pow), by decide, rfl⟩
  · exact ⟨("==", .operator .equal), by decide, rfl⟩
  · exact ⟨(">=", .operator .greaterOrEqual), by decide, rfl⟩
  · exact ⟨("<=", .operator .lessOrEqual), by decide, rfl⟩
  · exact ⟨("!=", .operator .notEqual), by decide, rfl⟩
  · exact ⟨("+", .operator .add), by decide, rfl⟩
  · exact ⟨("-", .operator .sub), by decide, rfl⟩
  · exact ⟨("*", .operator .mul), by decide, rfl⟩
  · exact ⟨("/", .operator .div), by decide, rfl⟩
  · exact ⟨("(", .lparen), by decide, rfl⟩
  · exact ⟨(")", .rparen), by decide, rfl⟩
  · exact ⟨("=", .assign), by decide, rfl⟩
  · exact ⟨(">", .operator .greater), by decide, rfl⟩
  · exact ⟨("<", .operator .less), by decide, rfl⟩

/-- A sign is taken alone where it starts no longer one. -/
lemma sign?_shortSign (rest : List Char) : ∀ entry ∈ shortSigns,
    (∀ long ∈ longSigns, ¬ long.1.toList <+: entry.1.toList ++ rest) →
      sign? (entry.1.toList ++ rest) = some ((entry.2, 1), rest) := by
  have hsecond {c d : Char} {t : Token} (hmem : (String.ofList [c, d], t) ∈ longSigns)
      (h : ∀ long ∈ longSigns, ¬ long.1.toList <+: c :: rest) : ∀ cs, rest = d :: cs → False := by
    rintro cs rfl
    exact h _ hmem ⟨cs, by simp⟩
  simp only [shortSigns, List.forall_mem_cons]
  refine ⟨fun h => ?_, fun h => ?_, fun h => ?_, fun h => ?_, fun _ => rfl, fun _ => rfl,
    fun _ => rfl, fun _ => rfl, fun _ => rfl, by simp⟩
  · show sign? ('*' :: rest) = _
    rw [sign?]
    exact hsecond (d := '*') (t := .operator .pow) (by decide) h
  · show sign? ('=' :: rest) = _
    rw [sign?]
    exact hsecond (d := '=') (t := .operator .equal) (by decide) h
  · show sign? ('>' :: rest) = _
    rw [sign?]
    exact hsecond (d := '=') (t := .operator .greaterOrEqual) (by decide) h
  · show sign? ('<' :: rest) = _
    rw [sign?]
    exact hsecond (d := '=') (t := .operator .lessOrEqual) (by decide) h

lemma scan_shortSign (rest : List Char) : ∀ entry ∈ shortSigns,
    (∀ long ∈ longSigns, ¬ long.1.toList <+: entry.1.toList ++ rest) →
    startsNegative (entry.1.toList ++ rest) = false →
      scan (entry.1.toList ++ rest) = some ([(entry.2, 1)], rest) := by
  intro entry hentry hlong hnegative
  have hone : ∀ entry ∈ shortSigns, ∃ c : Char,
      entry.1.toList = [c] ∧ c.isDigit = false ∧ isWordChar c = false := by
    simp only [shortSigns, List.forall_mem_cons]
    exact ⟨⟨_, rfl, rfl, rfl⟩, ⟨_, rfl, rfl, rfl⟩, ⟨_, rfl, rfl, rfl⟩, ⟨_, rfl, rfl, rfl⟩,
      ⟨_, rfl, rfl, rfl⟩, ⟨_, rfl, rfl, rfl⟩, ⟨_, rfl, rfl, rfl⟩, ⟨_, rfl, rfl, rfl⟩,
      ⟨_, rfl, rfl, rfl⟩, by simp⟩
  have hsign := sign?_shortSign rest entry hentry hlong
  obtain ⟨c, htext, hdigit, hword⟩ := hone entry hentry
  rw [htext, List.singleton_append] at hnegative hsign ⊢
  rw [scan, if_neg (by simp [hdigit]), if_neg (by simp [hnegative]), if_neg (by simp [hword]),
    hsign]
  rfl

lemma scan_of_longSign (h : Rule.longSign.Applies p text m rest)
    (htoken : Rule.longSign.token? m = some t) : scan text = some ([(t, byteCount m)], rest) := by
  obtain ⟨entry, hentry, rfl⟩ := h.isMatch.mem
  have hbytes : ∀ entry ∈ longSigns, byteCount entry.1.toList = 2 := by
    simp [longSigns, byteCount]
    decide
  rw [Rule.token?, lookup_longSigns entry hentry] at htoken
  obtain rfl := Option.some.inj htoken
  rw [h.split, scan_longSign rest entry hentry, hbytes entry hentry]

lemma scan_of_shortSign (h : Rule.shortSign.Applies p text m rest)
    (htoken : Rule.shortSign.token? m = some t) :
    scan text = some ([(t, byteCount m)], rest) := by
  obtain ⟨entry, hentry, rfl⟩ := h.isMatch.mem
  have hbytes : ∀ entry ∈ shortSigns, byteCount entry.1.toList = 1 := by
    simp [shortSigns, byteCount]
    decide
  have hlong : ∀ long ∈ longSigns, ¬ long.1.toList <+: entry.1.toList ++ rest := by
    intro long hmem hprefix
    refine h.first .longSign (by decide) _ ⟨⟨long, hmem, rfl⟩, ?_, by simp⟩
    rwa [h.split]
  -- A minus sign before a digit would have been taken as part of a number.
  have hnegative : startsNegative (entry.1.toList ++ rest) = false := by
    rw [startsNegative.eq_def]
    split
    · next c more heq =>
      by_contra hdigit
      have hc : [c] ∈ stretch digitClass := by simpa [mem_stretch_digitClass] using hdigit
      refine h.first .integer (by decide) ['-', c] ⟨?_, ⟨more, ?_⟩, by simp⟩
      · exact mem_integer.mpr ⟨_, minusOf_mem true, _, hc, rfl⟩
      · rw [h.split, heq]
        rfl
    · rfl
  rw [Rule.token?, lookup_shortSigns entry hentry] at htoken
  obtain rfl := Option.some.inj htoken
  rw [h.split, scan_shortSign rest entry hentry hlong hnegative, hbytes entry hentry]

/-! ### Blanks and comments -/

lemma itemsFrom_blanks (hm : ∀ c ∈ m, isBlank c = true) (pos : ℕ) (rest : List Char) :
    itemsFrom pos (m ++ rest) = itemsFrom (pos + byteCount m) rest := by
  induction m generalizing pos with
  | nil => rfl
  | cons c m ih =>
      obtain ⟨hc, hm⟩ := List.forall_mem_cons.mp hm
      rw [List.cons_append, itemsFrom_blank pos hc, ih hm, add_assoc]
      rfl

lemma byteCount_spaces (n : ℕ) : byteCount (List.replicate n ' ') = n := by
  rw [byteCount_eq_length fun c hc => by rw [List.eq_of_mem_replicate hc]; rfl,
    List.length_replicate]

lemma itemsFrom_spaces (n pos : ℕ) (rest : List Char) :
    itemsFrom pos (List.replicate n ' ' ++ rest) = itemsFrom (pos + n) rest := by
  rw [itemsFrom_blanks fun c hc => by rw [List.eq_of_mem_replicate hc]; rfl, byteCount_spaces]

lemma skipTrivia_comment (hm : '\n' ∉ m) (pos : ℕ) (rest : List Char) :
    skipTrivia true pos (m ++ rest) = skipTrivia true (pos + byteCount m) rest := by
  induction m generalizing pos with
  | nil => rfl
  | cons c m ih =>
      rw [List.mem_cons, not_or] at hm
      rw [List.cons_append, skipTrivia, if_pos (by simp [Ne.symm hm.1]), ih hm.2, add_assoc]
      rfl

lemma itemsFrom_comment (hm : '\n' ∉ m) (hrest : ∀ c ∈ rest.head?, c = '\n') (pos : ℕ) :
    itemsFrom pos ('#' :: (m ++ rest)) = itemsFrom (pos + byteCount ('#' :: m)) rest := by
  refine itemsFrom_congr ?_
  have hcomment : skipTrivia false pos ('#' :: (m ++ rest))
      = skipTrivia true (pos + byteCount ('#' :: m)) rest := by
    rw [skipTrivia, if_neg (by decide), if_neg (by decide), if_pos (by decide),
      skipTrivia_comment hm, add_assoc]
    rfl
  rw [hcomment]
  cases rest with
  | nil => rfl
  | cons c rest =>
      obtain rfl := hrest c rfl
      rfl

/-- A comment runs up to the end of its line. -/
lemma Rule.Applies.newline_of_comment (h : Rule.comment.Applies p text m rest) :
    ∀ c ∈ rest.head?, c = '\n' := by
  intro c hc
  obtain ⟨w, hw, rfl⟩ := mem_comment.mp h.isMatch.mem
  obtain ⟨rest, rfl⟩ := List.head?_eq_some_iff.mp hc
  by_contra hne
  exact h.not_mem_append (mem_comment.mpr ⟨w ++ [c], by simp [hw, Ne.symm hne], rfl⟩)

/-- What is skipped by the rules is skipped. -/
lemma itemsFrom_of_trivia (h : r.Applies p text m rest) (hr : r.isTrivia = true) :
    itemsFrom p.position text = itemsFrom (p.after r m).position rest := by
  rw [Place.position_after, h.split]
  cases r with
  | blank =>
      exact itemsFrom_blanks (fun c hc => mem_blankClass.mp (h.isMatch.mem.2 c hc)) _ rest
  | comment =>
      have hnewline := h.newline_of_comment
      obtain ⟨w, hw, rfl⟩ := mem_comment.mp h.isMatch.mem
      exact itemsFrom_comment hw hnewline _
  | decimal | integer | keyword | name | longSign | shortSign => cases hr

/-! ### The lexer and the rules -/

/-- **What is taken by the rules is read**: the token that the match spells, and then what
follows it. -/
lemma itemsFrom_of_applies (hp : p.Fits text) (h : r.Applies p text m rest)
    (htoken : r.token? m = some t) :
    itemsFrom p.position text
      = .ok ⟨t, p.span m⟩ :: itemsFrom (p.after r m).position rest := by
  have hitems (hscan : scan text = some ([(t, byteCount m)], rest)) : itemsFrom p.position text
      = .ok ⟨t, p.span m⟩ :: itemsFrom (p.after r m).position rest := by
    rw [itemsFrom_of_scan _ hscan, Place.position_after]
    rfl
  cases r with
  | blank | comment => cases htoken
  | decimal => exact hitems (scan_of_decimal h htoken)
  | integer => exact hitems (scan_of_integer h htoken)
  | name => exact hitems (scan_of_name hp h htoken)
  | longSign => exact hitems (scan_of_longSign h htoken)
  | shortSign => exact hitems (scan_of_shortSign h htoken)
  | keyword =>
      obtain ⟨entry, hentry, rfl⟩ := h.isMatch.mem
      obtain ⟨f, rfl⟩ := exists_function entry hentry
      rw [Rule.token?, lookup_keywords _ hentry] at htoken
      obtain rfl := Option.some.inj htoken
      have hbytes : byteCount f.name.toList = f.name.length :=
        byteCount_eq_length fun c hc => utf8Size_of_isWordChar
          ((mem_stretch_wordClass.mp (functionName_mem_stretch f)).2 c hc)
      rw [h.split, itemsFrom_keyword, Place.position_after, Place.span, hbytes]

/-- Where no rule matches, no token and nothing to skip stands. -/
lemma scan_of_no_match (h : ∀ (r : Rule) (m : List Char), ¬ r.Matches p (c :: rest) m) :
    scan (c :: rest) = none ∧ isBlank c = false ∧ c ≠ '#' := by
  have hno (r : Rule) (hr : r ≠ .keyword) (m : List Char) (hm : m ∈ r.language) :
      ¬ m <+: c :: rest :=
    fun hprefix => h r m ⟨hm, hprefix, fun hkeyword => absurd hkeyword hr⟩
  have hone : [c] <+: c :: rest := ⟨rest, rfl⟩
  have hblank : isBlank c = false := by
    by_contra hblank
    exact hno .blank (by simp) [c] ⟨by simp, by simpa [mem_blankClass] using hblank⟩ hone
  have hcomment : c ≠ '#' := by
    rintro rfl
    exact hno .comment (by simp) ['#'] (mem_comment.mpr ⟨[], by simp, rfl⟩) hone
  have hdigit {d : Char} (hd : ¬ d.isDigit = false) : [d] ∈ stretch digitClass := by
    simpa [mem_stretch_digitClass] using hd
  have hnumber : c.isDigit = false := by
    by_contra hc
    exact hno .integer (by simp) [c] (mem_integer.mpr ⟨_, minusOf_mem false, _, hdigit hc, rfl⟩)
      hone
  have hnegative : startsNegative (c :: rest) = false := by
    rw [startsNegative.eq_def]
    split
    · next d more heq =>
      by_contra hd
      refine hno .integer (by simp) ['-', d] ?_ ⟨more, by simp [heq]⟩
      exact mem_integer.mpr ⟨_, minusOf_mem true, _, hdigit hd, rfl⟩
    · rfl
  have hword : isWordChar c = false := by
    by_contra hc
    exact hno .name (by simp) [c] ⟨by simp, by simpa [mem_wordClass] using hc⟩ hone
  have hsign : sign? (c :: rest) = none := by
    rw [Option.eq_none_iff_forall_ne_some]
    rintro ⟨piece, after⟩ hsome
    obtain ⟨entry, hentry, htext⟩ := exists_sign hsome
    have hprefix : entry.1.toList <+: c :: rest := ⟨after, htext.symm⟩
    obtain hlong | hshort := List.mem_append.mp hentry
    · exact hno .longSign (by simp) _ ⟨entry, hlong, rfl⟩ hprefix
    · exact hno .shortSign (by simp) _ ⟨entry, hshort, rfl⟩ hprefix
  refine ⟨?_, hblank, hcomment⟩
  rw [scan, if_neg (by simp [hnumber]), if_neg (by simp [hnegative]), if_neg (by simp [hword]),
    hsign]
  rfl

/-- Where no rule matches, the next character is reported. -/
lemma itemsFrom_of_no_match (h : ∀ (r : Rule) (m : List Char), ¬ r.Matches p (c :: rest) m) :
    itemsFrom p.position (c :: rest) = [.error ⟨.unrecognized c, p.span [c]⟩] := by
  obtain ⟨hscan, hblank, hcomment⟩ := scan_of_no_match h
  have hskip : skipTrivia false p.position (c :: rest) = (p.position, c :: rest) := by
    simp [skipTrivia, hblank, hcomment]
  simp [itemsFrom_unrecognized hskip hscan, Place.span, byteCount]

lemma mapM_ok_cons (l : Lexeme) (items : List Item) :
    (Except.ok l :: items).mapM id = (items.mapM id).map (l :: ·) := by
  rw [List.mapM_cons]
  cases items.mapM id <;> rfl

/-- **The items of a text** are those that the rules give. -/
lemma ByRules.mapM_itemsFrom {result : Except LexicalError (List Lexeme)}
    (h : ByRules p text result) (hp : p.Fits text) :
    (itemsFrom p.position text).mapM id = result := by
  induction h with
  | ended p =>
      rw [itemsFrom_ended rfl]
      rfl
  | skipped h htrivia _ ih =>
      rw [itemsFrom_of_trivia h htrivia]
      exact ih h.fits
  | taken h htoken _ ih =>
      rw [itemsFrom_of_applies hp h htoken, mapM_ok_cons, ih h.fits]
  | malformed h htrivia htoken => exact absurd htoken (token?_ne_none h.isMatch.mem htrivia)
  | unrecognized h =>
      rw [itemsFrom_of_no_match h]
      rfl

/-- By the rules, no number is malformed. -/
lemma ByRules.ne_malformedNumber {result : Except LexicalError (List Lexeme)}
    (h : ByRules p text result) (span : Span) : result ≠ .error ⟨.malformedNumber, span⟩ := by
  induction h with
  | ended p => simp
  | skipped _ _ _ ih => exact ih
  | @taken p r text m rest t result _ _ _ ih =>
      cases result with
      | ok ls => simp [Except.map]
      | error e => exact ih
  | malformed h htrivia htoken => exact absurd htoken (token?_ne_none h.isMatch.mem htrivia)
  | unrecognized h => simp

end Lexer

open Lexer

/-- **The lexer follows its rules.** A text is tokenized as exactly what the rules give: the
tokens of the first rules that match with their longest matches, up to the end of the input,
or the first character where no rule matches. No number is malformed. The places of tokens and
errors are counted in 32 bits, which is exact in a text that is shorter than `2 ^ 32` bytes. -/
theorem tokenize_iff_byRules (src : String) :
    (∀ result, tokenize src = result ↔ Lexer.ByRules .start src.toList result)
      ∧ (∀ span, tokenize src ≠ .error ⟨.malformedNumber, span⟩)
      ∧ (src.utf8ByteSize < 2 ^ 32 → ∀ (p : Place) (m : List Char), p.before ++ m <+: src.toList →
          (p.span m).start.toNat = byteCount p.before
            ∧ (p.span m).stop.toNat = byteCount (p.before ++ m)) := by
  have hstart : Lexer.Place.start.Fits src.toList := .inl (.inr (by simp [Lexer.Place.start]))
  have hrules {result : Except LexicalError (List Lexeme)}
      (h : Lexer.ByRules .start src.toList result) : tokenize src = result :=
    h.mapM_itemsFrom hstart
  obtain ⟨result, hresult⟩ := Lexer.exists_byRules .start src.toList
  refine ⟨fun result' => ⟨?_, hrules⟩, fun span => ?_, fun hsize p m h => toNat_ofBytes hsize h⟩
  · rintro rfl
    rwa [hrules hresult]
  · rw [hrules hresult]
    exact hresult.ne_malformedNumber span

/-- The comment below has a character of two bytes, so that the sign behind it, which no rule
matches, is the fifth character and the sixth byte. -/
theorem tokenize_iff_byRules_accent :
    "# é\n$".utf8ByteSize < 2 ^ 32
      ∧ ByRules .start "# é\n$".toList (.error ⟨.unrecognized '$', ⟨5, 6⟩⟩)
      ∧ (⟨"# é\n".toList, false⟩ : Place).span ['$'] = ⟨5, 6⟩
      ∧ byteCount "# é\n".toList = 5 ∧ byteCount "# é\n$".toList = 6 := by
  obtain ⟨hrules, -, hexact⟩ := tokenize_iff_byRules "# é\n$"
  have htokens : tokenize "# é\n$" = .error ⟨.unrecognized '$', ⟨5, 6⟩⟩ := by cbv
  have hsize : "# é\n$".utf8ByteSize < 2 ^ 32 := by decide
  obtain ⟨hstart, hstop⟩ := hexact hsize ⟨"# é\n".toList, false⟩ ['$'] (by decide)
  have hspan : (⟨"# é\n".toList, false⟩ : Place).span ['$'] = ⟨5, 6⟩ := by decide
  rw [hspan] at hstart hstop
  exact ⟨hsize, (hrules _).mp htokens, hspan, hstart.symm, hstop.symm⟩

/-- Behind blanks the sign is reported at the byte it stands at, in 32 bits. -/
lemma tokenize_blanks_dollar (n : ℕ) :
    tokenize (String.ofList (List.replicate n ' ' ++ ['$']))
      = .error ⟨.unrecognized '$', .ofBytes n (n + 1)⟩ := by
  have hitems : items (String.ofList (List.replicate n ' ' ++ ['$']))
      = [.error ⟨.unrecognized '$', .ofBytes n (n + 1)⟩] := by
    rw [items, String.toList_ofList, itemsFrom_spaces, Nat.zero_add]
    exact itemsFrom_unrecognized rfl rfl
  rw [tokenize, hitems]
  rfl

/-- **Places are not exact** in longer texts: behind `2 ^ 32` blanks the sign that is reported
seems to be the first character. -/
theorem tokenize_wraps_around :
    tokenize (String.ofList (List.replicate (2 ^ 32) ' ' ++ ['$']))
        = .error ⟨.unrecognized '$', ⟨0, 1⟩⟩
      ∧ byteCount (List.replicate (2 ^ 32) ' ') = 2 ^ 32
      ∧ (⟨0, 1⟩ : Span).start.toNat ≠ byteCount (List.replicate (2 ^ 32) ' ') := by
  have hbytes := byteCount_spaces (2 ^ 32)
  have hspan : Span.ofBytes (2 ^ 32) (2 ^ 32 + 1) = ⟨0, 1⟩ := by decide
  refine ⟨?_, hbytes, ?_⟩
  · rw [← hspan]
    exact tokenize_blanks_dollar (2 ^ 32)
  · rw [hbytes]
    decide

end Reckoner
