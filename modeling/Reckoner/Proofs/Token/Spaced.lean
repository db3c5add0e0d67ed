import Reckoner.Proofs.Decimal.Text
import Reckoner.Proofs.Token.Scan

/-!
Texts that are written token by token.

Tokens are written with a space between any two of them, and are read back where each of
them is read back when a space or nothing follows it.

* `Lexer.itemsFrom_of_scan`, `Lexer.itemsFrom_blank`: reading from a token or a blank on;
* `Lexer.scan_signText_digits`, `Lexer.scan_signText_pointed`: digits behind a sign;
* `Lexer.scan_integerText`, `Lexer.scan_plainText_of_places`, `Lexer.scan_decimalText`,
  `Lexer.scan_functionName`: the texts of numbers and functions;
* `Lexer.ReadsBack`: a token that is read back from what it is written as, as integers,
  names, functions and signs are;
* `spaced`, `tokenize_spaced`: the text of tokens, and that it is read back.
-/

namespace Reckoner

namespace Lexer

variable {cs after : List Char} {c : Char} {pieces : List SizedToken}

/-! ### Reading from a token on -/

lemma itemsFrom_congr {pos pos' : ℕ} {cs' : List Char}
    (h : skipTrivia false pos cs = skipTrivia false pos' cs') :
    itemsFrom pos cs = itemsFrom pos' cs' := by
  rcases hs : skipTrivia false pos cs with ⟨start, _ | ⟨c, rest⟩⟩
  · rw [itemsFrom_ended hs, itemsFrom_ended (h.symm.trans hs)]
  · have hs' := h.symm.trans hs
    rcases hscan : scan (c :: rest) with _ | ⟨pieces, after⟩
    · rw [itemsFrom_unrecognized hs hscan, itemsFrom_unrecognized hs' hscan]
    · rw [itemsFrom_scanned hs hscan, itemsFrom_scanned hs' hscan]

lemma itemsFrom_blank (pos : ℕ) (h : isBlank c = true) (cs : List Char) :
    itemsFrom pos (c :: cs) = itemsFrom (pos + c.utf8Size) cs :=
  itemsFrom_congr (by simp [skipTrivia, h])

/-- Where a token stands first, nothing is skipped. -/
lemma itemsFrom_of_scan (pos : ℕ) (h : scan cs = some (pieces, after)) :
    itemsFrom pos cs = (place pos pieces).map .ok ++ itemsFrom (pos + extent pieces) after := by
  cases cs with
  | nil => simp [scan] at h
  | cons c cs =>
      have hc : ¬ (isBlank c = true ∨ c = '#') := fun hc => by simp [scan_trivia hc] at h
      rw [not_or] at hc
      exact itemsFrom_scanned (by simp [skipTrivia, hc]) h

/-! ### Tokens with spaces between them -/

/-- What can stand after a token that is written on its own: a space, or nothing. -/
def Apart (rest : List Char) : Prop := ∀ c ∈ rest.head?, c = ' '

/-- A token is read back from what it is written as. -/
def ReadsBack (t : Token) : Prop :=
  ∀ rest, Apart rest → ∃ length, scan (t.literal.toList ++ rest) = some ([(t, length)], rest)

lemma Apart.head {rest : List Char} (h : Apart rest) {p : Char → Bool} (hp : p ' ' = false) :
    ∀ c ∈ rest.head?, p c = false :=
  fun c hc => h c hc ▸ hp

lemma Apart.endsNumber {rest : List Char} (h : Apart rest) : EndsNumber rest :=
  fun c hc => h c hc ▸ ⟨rfl, by decide⟩

/-- Digits behind the sign of `n` are an integer of this sign. -/
lemma scan_signText_digits (n : ℤ) {ds rest : List Char} (hds : ∀ c ∈ ds, c.isDigit = true)
    (hne : ds ≠ []) (hrest : EndsNumber rest) :
    ∃ length, scan ((signText n).toList ++ (ds ++ rest))
      = some ([(.int (signed (decide (n < 0)) ds), length)], rest) := by
  obtain ⟨d, ds, rfl⟩ := List.exists_cons_of_ne_nil hne
  by_cases hn : n < 0
  · refine ⟨_, Eq.trans ?_ (decide_eq_true hn ▸ scan_negative hds hrest)⟩
    rw [signText, if_pos hn]
    rfl
  · refine ⟨_, Eq.trans ?_ (decide_eq_false hn ▸ scan_digits hds hrest)⟩
    rw [signText, if_neg hn]
    rfl

/-- Digits with a point among them, behind the sign of `n`, are a decimal of this sign. -/
lemma scan_signText_pointed (n : ℤ) {ds fs rest : List Char}
    (hdigits : ∀ c ∈ ds ++ fs, c.isDigit = true) (hne : ds ≠ []) (hfs : fs ≠ [])
    (hrest : ∀ c ∈ rest.head?, c.isDigit = false) :
    ∃ length, scan ((signText n).toList ++ (ds ++ '.' :: (fs ++ rest)))
      = some ([(.decimal (.ofDigits (decide (n < 0)) ds fs), length)], rest) := by
  obtain ⟨hds, hfraction⟩ := List.forall_mem_append.mp hdigits
  obtain ⟨d, ds, rfl⟩ := List.exists_cons_of_ne_nil hne
  have hd : d.isDigit = true := hds d List.mem_cons_self
  by_cases hn : n < 0
  · have hscan := scan_minus hd (ds ++ '.' :: (fs ++ rest))
    rw [← List.cons_append, scanNumber_decimal true hds hfraction hfs hrest] at hscan
    refine ⟨_, Eq.trans ?_ (decide_eq_true hn ▸ hscan)⟩
    rw [signText, if_pos hn]
    rfl
  · have hscan := scan_number hd (ds ++ '.' :: (fs ++ rest))
    rw [← List.cons_append, scanNumber_decimal false hds hfraction hfs hrest] at hscan
    refine ⟨_, Eq.trans ?_ (decide_eq_false hn ▸ hscan)⟩
    rw [signText, if_neg hn]
    rfl

lemma signed_eq {n : ℤ} {ds : List Char} (h : Nat.ofDigitChars 10 ds 0 = n.natAbs) :
    signed (decide (n < 0)) ds = n := by
  rw [signed, h]
  exact Decimal.natAbs_signed n

/-- The text of an integer is read back where nothing follows that would go on with it. -/
lemma scan_integerText (n : ℤ) {rest : List Char} (hrest : EndsNumber rest) :
    ∃ length, scan ((integerText n).toList ++ rest) = some ([(.int n, length)], rest) := by
  have hscan := scan_signText_digits n
    (fun c (hc : c ∈ digits n.natAbs) => isDigit_of_mem_digits hc) (digits_ne_nil _) hrest
  rwa [signed_eq (ofDigitChars_digits n.natAbs), ← List.append_assoc,
    ← String.toList_ofList (l := digits n.natAbs), ← String.toList_append] at hscan

/-- A decimal with places is read back from its plain text. -/
lemma scan_plainText_of_places {a : Decimal} (hplaces : 0 < a.scale.toInt) {rest : List Char}
    (hrest : ∀ c ∈ rest.head?, c.isDigit = false) :
    ∃ length, scan (a.plainText.toList ++ rest) = some ([(.decimal a, length)], rest) := by
  obtain ⟨whole, fraction, hdigits, hwhole, hfraction, hvalue, htext⟩ :=
    Decimal.exists_plainText_of_places hplaces
  have hscan := scan_signText_pointed a.unscaled hdigits hwhole hfraction hrest
  rw [← hvalue] at hscan
  rwa [htext, List.append_assoc, List.append_assoc, List.cons_append]

/-- The text of a decimal in positional notation is read back in the same way. -/
lemma scan_decimalText {a : Decimal} (h : a.IsPositional) {rest : List Char}
    (hrest : ∀ c ∈ rest.head?, c.isDigit = false) :
    ∃ length, scan (a.text.toList ++ rest) = some ([(.decimal a, length)], rest) := by
  rw [Decimal.text_of_plain h.ne_zero (Decimal.isPositional_iff.mp h).2.2]
  exact scan_plainText_of_places h.hasPlaces hrest

lemma readsBack_int (n : ℤ) : ReadsBack (.int n) :=
  fun _ hrest => scan_integerText n hrest.endsNumber

lemma splitWord_name {word : List Char} (hne : word ≠ []) (h : keyword? word = none) :
    splitWord word = [(.ident (String.ofList word), word.length)] := by
  rw [splitWord]
  split
  · next h' => simp [h] at h'
  · simp [hne]

lemma readsBack_ident {name : String} (h : IsName name) : ReadsBack (.ident name) := by
  intro rest hrest
  obtain ⟨hne, hword, hkeyword⟩ := h
  refine ⟨name.toList.length, ?_⟩
  have hscan := scan_word hne (List.all_eq_true.mp hword) (hrest.head (p := isWordChar) rfl)
  rwa [splitWord_name hne hkeyword, String.ofList_toList] at hscan

lemma keyword?_functionName (f : RealFunction) (word : List Char) :
    keyword? (f.name.toList ++ word) = some (f, word) := by
  cases f <;> simp [RealFunction.name, keyword?]

lemma isWordChar_of_mem_functionName (f : RealFunction) :
    ∀ c ∈ f.name.toList, isWordChar c = true := by
  cases f <;> simp [RealFunction.name] <;> decide

lemma not_mem_functionName (f : RealFunction) {c : Char} (hc : isWordChar c = false) :
    c ∉ f.name.toList := by
  intro hmem
  simp [isWordChar_of_mem_functionName f c hmem] at hc

lemma functionName_ne_nil (f : RealFunction) : f.name.toList ≠ [] := by
  cases f <;> simp [RealFunction.name]

lemma splitWord_nil : splitWord [] = [] := by
  rw [splitWord]
  simp [keyword?]

lemma splitWord_functionName (f : RealFunction) (word : List Char) :
    splitWord (f.name.toList ++ word) = (.function f, f.name.length) :: splitWord word := by
  rw [splitWord]
  split
  · next h =>
    rw [keyword?_functionName] at h
    cases h
    rfl
  · next h => simp [keyword?_functionName] at h

lemma scan_functionName (f : RealFunction) {rest : List Char}
    (hrest : ∀ c ∈ rest.head?, isWordChar c = false) :
    scan (f.name.toList ++ rest) = some ([(.function f, f.name.length)], rest) := by
  have hsplit := splitWord_functionName f []
  rw [List.append_nil, splitWord_nil] at hsplit
  rw [scan_word (functionName_ne_nil f) (isWordChar_of_mem_functionName f) hrest, hsplit]

lemma readsBack_function (f : RealFunction) : ReadsBack (.function f) :=
  fun _ hrest => ⟨_, scan_functionName f (hrest.head (p := isWordChar) rfl)⟩

/-- The tokens that are signs. -/
def IsSign : Token → Prop
  | .operator _ | .assign | .lparen | .rparen => True
  | _ => False

lemma readsBack_sign {t : Token} (h : IsSign t) : ReadsBack t := by
  intro rest hrest
  obtain rfl | ⟨c, rest, rfl⟩ : rest = [] ∨ ∃ c cs, rest = c :: cs := by
    cases rest <;> simp
  · cases t with
    | operator op => cases op <;> exact ⟨_, rfl⟩
    | assign | lparen | rparen => exact ⟨_, rfl⟩
    | _ => exact h.elim
  · obtain rfl := hrest c rfl
    cases t with
    | operator op => cases op <;> exact ⟨_, rfl⟩
    | assign | lparen | rparen => exact ⟨_, rfl⟩
    | _ => exact h.elim

end Lexer

/-- What tokens are written as, with a space between any two of them. -/
def spaced : List Token → List Char
  | [] => []
  | [t] => t.literal.toList
  | t :: u :: ts => t.literal.toList ++ ' ' :: spaced (u :: ts)

namespace Lexer

lemma itemsFrom_spaced {ts : List Token} (h : ∀ t ∈ ts, ReadsBack t) (pos : ℕ) :
    ∃ ls ending, itemsFrom pos (spaced ts) = stream (ls ++ [⟨.eof, ending⟩]) none
      ∧ tokensOf ls = ts := by
  induction ts generalizing pos with
  | nil => exact ⟨[], .point (.ofNat pos), itemsFrom_ended rfl, rfl⟩
  | cons t ts ih =>
      obtain ⟨ht, hts⟩ := List.forall_mem_cons.mp h
      cases ts with
      | nil =>
          obtain ⟨length, hscan⟩ := ht [] (by rintro c ⟨⟩)
          rw [List.append_nil] at hscan
          refine ⟨[⟨t, .ofBytes pos (pos + length)⟩], .point (.ofNat (pos + length)), ?_, rfl⟩
          rw [spaced, itemsFrom_of_scan pos hscan, itemsFrom_ended rfl]
          rfl
      | cons u ts =>
          obtain ⟨length, hscan⟩ := ht (' ' :: spaced (u :: ts)) (by rintro c ⟨⟩; rfl)
          obtain ⟨ls, ending, hitems, htokens⟩ := ih hts (pos + length + 1)
          refine ⟨⟨t, .ofBytes pos (pos + length)⟩ :: ls, ending, ?_,
            by rw [tokensOf_cons, htokens]⟩
          rw [spaced, itemsFrom_of_scan pos hscan, itemsFrom_blank _ rfl]
          exact congrArg _ hitems

/-- **Tokens are read back** from the text they are written as. -/
theorem tokenize_spaced {ts : List Token} (h : ∀ t ∈ ts, ReadsBack t) :
    ∃ ls, tokenize (String.ofList (spaced ts)) = .ok ls ∧ tokensOf ls = ts ++ [.eof] := by
  obtain ⟨ls, ending, hitems, htokens⟩ := itemsFrom_spaced h 0
  refine ⟨ls ++ [⟨.eof, ending⟩], ?_, by simp [htokens]⟩
  rw [tokenize, items, String.toList_ofList, hitems, mapM_stream]

end Lexer

end Reckoner
