import Reckoner.Proofs.Token.Junction
import Reckoner.Proofs.Token.Written

/-!
Texts for tokens.

Every token of a text can be spelled on its own, and tokens that can be spelled are the tokens of
a text. It need not be the text that they are printed as: a decimal is spelled with a point,
however many places it has.

* `Lexer.Spelled`: a token that some characters spell when a space or nothing follows them;
* `Lexer.ReadsBack.spelled`, `Lexer.HasPlace.spelled`, `Lexer.spelled_of_tokenize`: the tokens of
  a text are such tokens;
* `exists_text`: a text for tokens.
-/

namespace Reckoner

namespace Lexer

/-- There are characters that spell a token when a space or nothing follows them. -/
def Spelled (t : Token) : Prop :=
  ∃ cs, ∀ rest, Apart rest → ∃ length, scan (cs ++ rest) = some ([(t, length)], rest)

lemma ReadsBack.spelled {t : Token} (h : ReadsBack t) : Spelled t := ⟨t.literal.toList, h⟩

/-- A decimal with places is spelled with all of them, zeros in front included. -/
lemma HasPlace.spelled {n : ℕ} {a : Decimal} (h : HasPlace n a) : Spelled (.decimal a) := by
  obtain ⟨places, hplaces, -, hscale⟩ := h
  obtain ⟨whole, fraction, hdigits, hwhole, hlength, hvalue, -⟩ := Decimal.exists_pointed
    (fun c (hc : c ∈ digits a.unscaled.natAbs) => isDigit_of_mem_digits hc) hplaces
  have hfraction : fraction ≠ [] := List.ne_nil_of_length_pos (hlength ▸ hplaces)
  have ha : Decimal.ofDigits (decide (a.unscaled < 0)) whole fraction = a := by
    simp only [Decimal.ofDigits, hvalue, ofDigitChars_digits, hlength, ← hscale]
    exact congrArg (Decimal.mk · a.scale) (Decimal.natAbs_signed a.unscaled)
  refine ⟨(signText a.unscaled).toList ++ (whole ++ '.' :: fraction), fun rest hrest => ?_⟩
  obtain ⟨length, hscan⟩ := scan_signText_pointed a.unscaled hdigits hwhole hfraction
    (hrest.head (p := Char.isDigit) rfl)
  rw [ha] at hscan
  exact ⟨length, by simpa using hscan⟩

/-- **The tokens of a text** can be spelled on their own. -/
theorem spelled_of_tokenize {src : String} {ls : List Lexeme} (h : tokenize src = .ok ls) :
    ∀ t ∈ tokensOf ls, t ≠ .eof → Spelled t := by
  intro t ht hne
  cases t with
  | int n => exact (readsBack_int n).spelled
  | decimal a => exact (hasPlace_of_tokenize h ht).spelled
  | ident name => exact (readsBack_ident (written_of_tokenize h _ ht)).spelled
  | function f => exact (readsBack_function f).spelled
  | operator _ | assign | lparen | rparen => exact ReadsBack.spelled (readsBack_sign trivial)
  | eof => exact absurd rfl hne

/-- Tokens that can be spelled are what some characters are read as, up to the end of the
input. -/
lemma exists_reading {ts : List Token} (h : ∀ t ∈ ts, Spelled t) :
    ∃ cs, Apart cs ∧ reading (itemsFrom 0 cs) = some (ts ++ [.eof]) := by
  induction ts with
  | nil => exact ⟨[], by rintro c ⟨⟩, congrArg reading (itemsFrom_ended rfl)⟩
  | cons t ts ih =>
      obtain ⟨⟨cs, hcs⟩, hts⟩ := List.forall_mem_cons.mp h
      obtain ⟨rest, hrest, hreading⟩ := ih hts
      obtain ⟨length, hscan⟩ := hcs rest hrest
      refine ⟨' ' :: (cs ++ rest), by rintro c ⟨⟩; rfl, ?_⟩
      rw [reading_blank, reading_scanned 0 hscan, hreading]
      rfl

end Lexer

/-- **A text for tokens** that can be spelled. -/
theorem exists_text {ts : List Token} (h : ∀ t ∈ ts, Lexer.Spelled t) :
    ∃ src ls, tokenize src = .ok ls ∧ tokensOf ls = ts ++ [.eof] := by
  obtain ⟨cs, -, hreading⟩ := Lexer.exists_reading h
  have hitems : Lexer.reading (Lexer.items (String.ofList cs)) = some (ts ++ [.eof]) := by
    rwa [Lexer.items, String.toList_ofList]
  rw [Lexer.reading_items] at hitems
  exact ⟨String.ofList cs, exists_tokenize hitems⟩

end Reckoner
