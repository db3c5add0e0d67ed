import Reckoner.Proofs.Decimal.Exact
import Reckoner.Proofs.Token.Junction

/-!
The texts of decimals, read as tokens.

What is written without exponent is one token: a decimal where the decimal has places, and a whole
number of the same value where it has none. The letter of an exponent starts a name, so that the
number ends before it.

* `Token.number?`: the number that a token is;
* `Lexer.scan_plainText_of_whole`: one token for a decimal without places;
* `Lexer.scan_text_of_needsExponent`: another number, and the letter of the exponent;
* `SpellsNumber`, `spellsNumber_of_scan`, `not_spellsNumber_of_scan`: texts that are one number,
  and nothing else.
-/

namespace Reckoner

/-- The number that a token is. -/
def Token.number? : Token → Option ℚ
  | int n => some n
  | decimal a => some a.toRat
  | _ => none

namespace Lexer

variable {a : Decimal} {rest : List Char}

/-! ### Without exponent -/

lemma signed_of_whole (hplaces : a.scale.toInt ≤ 0) {ds : List Char}
    (h : Nat.ofDigitChars 10 ds 0 = a.unscaled.natAbs * 10 ^ (-a.scale.toInt).toNat) :
    (signed (decide (a.unscaled < 0)) ds : ℚ) = a.toRat := by
  have hsigned : signed (decide (a.unscaled < 0)) ds
      = a.unscaled * 10 ^ (-a.scale.toInt).toNat := by
    calc signed (decide (a.unscaled < 0)) ds
        = (if decide (a.unscaled < 0) = true then -(a.unscaled.natAbs : ℤ)
            else a.unscaled.natAbs) * 10 ^ (-a.scale.toInt).toNat := by
          rw [signed, h]
          push_cast
          split
          · exact (neg_mul _ _).symm
          · rfl
      _ = a.unscaled * 10 ^ (-a.scale.toInt).toNat := by rw [Decimal.natAbs_signed]
  rw [hsigned, Decimal.toRat_of_whole hplaces]

/-- A decimal without places is read as the whole number that it is. -/
lemma scan_plainText_of_whole (hplaces : a.scale.toInt ≤ 0) (hrest : EndsNumber rest) :
    ∃ (n : ℤ) (length : ℕ), (n : ℚ) = a.toRat
      ∧ scan (a.plainText.toList ++ rest) = some ([(.int n, length)], rest) := by
  obtain ⟨ds, hdigits, hne, hvalue, htext⟩ := Decimal.exists_plainText_of_whole hplaces
  obtain ⟨length, hscan⟩ := scan_signText_digits a.unscaled hdigits hne hrest
  refine ⟨_, length, signed_of_whole hplaces hvalue, ?_⟩
  rwa [htext, List.append_assoc]

/-! ### With an exponent -/

/-- The letter of an exponent goes on with no number. -/
lemma endsNumber_exponent {e : Char} (he : e = 'e' ∨ e = 'E') (more : List Char) :
    EndsNumber (e :: more) := by
  rintro c ⟨⟩
  obtain rfl | rfl := he <;> decide

/-- The number in front of an exponent is not the one that is written. -/
lemma scan_text_of_needsExponent (h : a.NeedsExponent) (rest : List Char) :
    ∃ e more t length, (e = 'e' ∨ e = 'E') ∧ t ≠ .decimal a
      ∧ scan (a.text.toList ++ rest) = some ([(t, length)], e :: more) := by
  obtain ⟨e, more, he, hform⟩ := Decimal.exists_text_of_needsExponent h
  have hrest := endsNumber_exponent he (more ++ rest)
  obtain ⟨ds, hdigits, hne, htext⟩ | ⟨d, fraction, hdigits, hne, hlength, htext⟩ := hform
  · obtain ⟨length, hscan⟩ := scan_signText_digits a.unscaled hdigits hne hrest
    refine ⟨e, more ++ rest, .int (signed (decide (a.unscaled < 0)) ds), length, he, by simp, ?_⟩
    simpa [htext] using hscan
  · have hpointed : ∀ c ∈ [d] ++ fraction, c.isDigit = true := hdigits
    obtain ⟨length, hscan⟩ := scan_signText_pointed a.unscaled hpointed (by simp) hne
      fun c hc => (hrest c hc).1
    refine ⟨e, more ++ rest, .decimal (.ofDigits (decide (a.unscaled < 0)) [d] fraction), length,
      he, ?_, ?_⟩
    · -- there are fewer digits behind this point than the decimal has places
      intro heq
      have hscale : Int64.ofNat fraction.length = a.scale := by
        injection heq with heq
        rw [← heq]
        rfl
      have htoInt : (fraction.length : ℤ) = a.scale.toInt := by
        have hlt := a.scale.toInt_lt
        rw [← hscale, Int64.toInt_ofNat_of_lt]
        omega
      omega
    · simpa [htext] using hscan

/-! ### Texts that are one number -/

lemma splitWord_ne_nil {word : List Char} (h : word ≠ []) : splitWord word ≠ [] := by
  rw [splitWord]
  split
  · exact List.cons_ne_nil _ _
  · simp [h]

/-- Where a token stands, the input does not end. -/
lemma reading_ne_end (pos : ℕ) {cs after : List Char} {pieces : List SizedToken}
    (h : scan cs = some (pieces, after)) (hne : pieces ≠ []) :
    reading (itemsFrom pos cs) ≠ some [.eof] := by
  obtain ⟨piece, pieces, rfl⟩ := List.exists_cons_of_ne_nil hne
  rw [reading_scanned pos h]
  intro hend
  obtain ⟨ts, -, htokens⟩ := Option.map_eq_some_iff.mp hend
  exact scan_ne_eof h piece List.mem_cons_self (List.cons.inj htokens).1

/-- The letter of an exponent starts a name, or a function. -/
lemma reading_exponent_ne_end {e : Char} (he : e = 'e' ∨ e = 'E') (pos : ℕ) (more : List Char) :
    reading (itemsFrom pos (e :: more)) ≠ some [.eof] := by
  have hword : isWordChar e = true := by obtain rfl | rfl := he <;> rfl
  have hscan : scan (e :: more)
      = some (splitWord ((e :: more).takeWhile isWordChar), (e :: more).dropWhile isWordChar) := by
    obtain rfl | rfl := he <;> rfl
  refine reading_ne_end pos hscan (splitWord_ne_nil ?_)
  rw [List.takeWhile_cons_of_pos hword]
  exact List.cons_ne_nil _ _

end Lexer

open Lexer

/-- A text that is read as the number `q`, and as nothing else. -/
def SpellsNumber (text : String) (q : ℚ) : Prop :=
  ∃ l ending, tokenize text = .ok [l, ⟨.eof, ending⟩] ∧ l.token.number? = some q

/-- A text that is one token spells the number that the token is. -/
lemma spellsNumber_of_scan {text : String} {t : Token} {length : ℕ} {q : ℚ}
    (h : scan text.toList = some ([(t, length)], [])) (hq : t.number? = some q) :
    SpellsNumber text q := by
  have hitems : items text = stream
      [⟨t, .ofBytes 0 (0 + length)⟩, ⟨.eof, .point (.ofNat (0 + extent [(t, length)]))⟩] none := by
    rw [items, itemsFrom_of_scan 0 h, itemsFrom_ended rfl]
    rfl
  refine ⟨⟨t, .ofBytes 0 (0 + length)⟩, .point (.ofNat (0 + extent [(t, length)])), ?_, hq⟩
  rw [tokenize, hitems, mapM_stream]

/-- A text in which an exponent follows a number spells no number. -/
lemma not_spellsNumber_of_scan {text : String} {t : Token} {length : ℕ} {q : ℚ} {e : Char}
    {more : List Char} (h : scan text.toList = some ([(t, length)], e :: more))
    (he : e = 'e' ∨ e = 'E') : ¬ SpellsNumber text q := by
  rintro ⟨l, ending, htokens, -⟩
  have hreading : reading (items text) = some [l.token, .eof] := reading_of_tokenize htokens
  rw [items, reading_scanned 0 h] at hreading
  obtain ⟨ts, hts, hcons⟩ := Option.map_eq_some_iff.mp hreading
  obtain rfl : ts = [.eof] := (List.cons.inj hcons).2
  exact reading_exponent_ne_end he 0 more hts

end Reckoner
