import Reckoner.Proofs.Decimal.Magnitude
import Reckoner.Proofs.Line.Effect
import Reckoner.Proofs.Token.Numbers

/-!
How exact numbers are shown.

Outside the fixed range a number is shown as its text. It is read back as one number unless it is
so small that more than five zeros would follow the point, or has so many places to the left that
more than fifteen zeros would have to be appended. Such numbers are shown with an exponent.

* `Output.inFixedRange_iff`: the numbers that are shown in fixed notation;
* `Decimal.needsExponent_iff`: the numbers that are written with an exponent;
* `spellsNumber_text_iff`: the numbers whose text spells them;
* `Output.notation_tfae`: the notation of exact numbers outside the fixed range.
-/

namespace Reckoner

variable {a : Decimal}

/-- The fixed range is the numbers strictly between one and a million, on both sides of zero. -/
lemma Output.inFixedRange_iff :
    inFixedRange a = true ↔ 1 < |a.toRat| ∧ |a.toRat| < 1000000 := by
  have hlower : ((lowerBound : ℤ) : ℚ) = 1 := by norm_num [lowerBound]
  have hupper : ((upperBound : ℤ) : ℚ) = 1000000 := by norm_num [upperBound]
  rw [inFixedRange, Decimal.cmp_eq_compare, Decimal.cmp_eq_compare, Decimal.toRat_abs,
    Decimal.toRat_ofInt, Decimal.toRat_ofInt, hlower, hupper, Bool.and_eq_true, beq_iff_eq,
    beq_iff_eq, compare_gt_iff_gt, compare_lt_iff_lt]

/-- The numbers that are written with an exponent: those below a millionth, and those that are
written with more than fifteen places to the left of their digits. -/
lemma Decimal.needsExponent_iff :
    a.NeedsExponent ↔ a.toRat ≠ 0 ∧ (|a.toRat| < 1 / 1000000 ∨ a.scale.toInt < -15) := by
  have hmillionth : (1 / 1000000 : ℚ) = 10 ^ (-6 : ℤ) := by norm_num
  have hleading : leadingZeroLimit < -a.leadingPlace ↔ a.leadingPlace ≤ -6 := by
    rw [leadingZeroLimit]
    omega
  have happended : appendedZeroLimit < -a.scale.toInt ↔ a.scale.toInt < -15 := by
    rw [appendedZeroLimit]
    omega
  constructor
  · rintro ⟨hzero, hbeyond⟩
    rw [hleading, happended, leadingPlace_le_iff hzero, ← hmillionth] at hbeyond
    exact ⟨mt toRat_eq_zero.mp hzero, hbeyond⟩
  · rintro ⟨hne, hbeyond⟩
    have hzero : a.unscaled ≠ 0 := mt toRat_eq_zero.mpr hne
    refine ⟨hzero, ?_⟩
    rwa [hleading, happended, leadingPlace_le_iff hzero, ← hmillionth]

/-! ### Reading the text of a number -/

open Lexer in
lemma spellsNumber_plainText (a : Decimal) : SpellsNumber a.plainText a.toRat := by
  have hrest : EndsNumber [] := by rintro c ⟨⟩
  by_cases hplaces : 0 < a.scale.toInt
  · obtain ⟨length, hscan⟩ := scan_plainText_of_places hplaces fun c hc => (hrest c hc).1
    rw [List.append_nil] at hscan
    exact spellsNumber_of_scan hscan rfl
  · obtain ⟨n, length, hn, hscan⟩ := scan_plainText_of_whole (Int.not_lt.mp hplaces) hrest
    rw [List.append_nil] at hscan
    exact spellsNumber_of_scan hscan (congrArg some hn)

/-- A number is read back from its text exactly if it is written without exponent. -/
lemma spellsNumber_text_iff : SpellsNumber a.text a.toRat ↔ ¬ a.NeedsExponent := by
  constructor
  · intro h hexponent
    obtain ⟨e, more, t, length, he, -, hscan⟩ := Lexer.scan_text_of_needsExponent hexponent []
    rw [List.append_nil] at hscan
    exact not_spellsNumber_of_scan hscan he h
  · intro hexponent
    by_cases hzero : a.unscaled = 0
    · have hspells := spellsNumber_plainText (.ofInt 0)
      rwa [Decimal.toRat_ofInt, Int.cast_zero, ← Decimal.toRat_eq_zero.mpr hzero,
        show (Decimal.ofInt 0).plainText = "0" from rfl, ← Decimal.text_of_zero hzero] at hspells
    · rw [Decimal.text_of_plain hzero hexponent]
      exact spellsNumber_plainText a

/-! ### What is shown -/

lemma Value.shown_of_toDecimal? {v : Value} (h : v.toDecimal? = some a) : v.shown = a.text := by
  cases v with
  | integer n =>
      obtain rfl := Option.some.inj h
      exact (Decimal.text_ofInt n).symm
  | decimal b =>
      obtain rfl := Option.some.inj h
      rfl
  | real _ | boolean _ | text _ | nothing => simp [toDecimal?] at h

lemma Output.ofValue_of_toDecimal? {v : Value} (h : v.toDecimal? = some a) :
    ofValue v = ofExact v a := by
  cases v with
  | integer n =>
      obtain rfl := Option.some.inj h
      rfl
  | decimal b =>
      obtain rfl := Option.some.inj h
      rfl
  | real _ | boolean _ | text _ | nothing => simp [Value.toDecimal?] at h

lemma Output.text_ofValue {v : Value} (hv : v.toDecimal? = some a)
    (hrange : inFixedRange a = false) : (ofValue v).text = a.text := by
  have hplain : ofValue v = .plain v := by
    rw [ofValue_of_toDecimal? hv, ofExact, hrange]
    rfl
  rw [hplain, Output.text, Value.shown_of_toDecimal? hv]

/-- **The notation of exact numbers outside the fixed range.** Exactly those are shown without
exponent that are read back as one number of the same value, namely zero, and the numbers from a
millionth up that are not written with more than fifteen places to the left. -/
theorem Output.notation_tfae {v : Value} (hv : v.toDecimal? = some a)
    (hrange : |a.toRat| ≤ 1 ∨ 1000000 ≤ |a.toRat|) :
    ['e' ∉ (ofValue v).text.toList ∧ 'E' ∉ (ofValue v).text.toList,
      SpellsNumber (ofValue v).text a.toRat,
      a.toRat = 0 ∨ 1 / 1000000 ≤ |a.toRat| ∧ -15 ≤ a.scale.toInt].TFAE := by
  have hfixed : inFixedRange a = false := by
    rw [← Bool.not_eq_true, inFixedRange_iff, not_and_or, not_lt, not_lt]
    exact hrange
  have hplain : a.toRat = 0 ∨ 1 / 1000000 ≤ |a.toRat| ∧ -15 ≤ a.scale.toInt
      ↔ ¬ a.NeedsExponent := by
    rw [Decimal.needsExponent_iff, not_and_or, not_not, not_or, not_lt, not_lt]
  rw [text_ofValue hv hfixed, ← not_or, Decimal.exponent_mem_text_iff, spellsNumber_text_iff,
    hplain]
  tfae_have 1 ↔ 2 := Iff.rfl
  tfae_have 2 ↔ 3 := Iff.rfl
  tfae_finish

/-- One half is shown as `0.5`, which is read back. -/
theorem Output.notation_tfae_half :
    Value.toDecimal? (.decimal ⟨5, 1⟩) = some ⟨5, 1⟩ ∧ |(⟨5, 1⟩ : Decimal).toRat| ≤ 1
      ∧ SpellsNumber (ofValue (.decimal ⟨5, 1⟩)).text (⟨5, 1⟩ : Decimal).toRat := by
  have hhalf : (⟨5, 1⟩ : Decimal).toRat = 1 / 2 := by
    rw [Decimal.toRat, show (1 : Int64).toInt = 1 from rfl]
    norm_num
  have hrange : |(⟨5, 1⟩ : Decimal).toRat| ≤ 1 := by
    rw [hhalf]
    norm_num [abs_of_pos]
  have hlarge : 1 / 1000000 ≤ |(⟨5, 1⟩ : Decimal).toRat| := by
    rw [hhalf]
    norm_num [abs_of_pos]
  have hspells := (notation_tfae (v := .decimal ⟨5, 1⟩) rfl (.inl hrange)).out 1 2
  exact ⟨rfl, hrange, hspells.mpr (.inr ⟨hlarge, by decide⟩)⟩

/-- The line `0.0000001` has the value of a ten-millionth. It is shown with an exponent, and what
is shown is read as three tokens. -/
theorem Output.notation_tenMillionth :
    (Line.run .standard "0.0000001" (.id 7) .empty).outcome = .ok (ofValue (.decimal ⟨1, 7⟩))
      ∧ (ofValue (.decimal ⟨1, 7⟩)).text = "1E-7"
      ∧ (tokenize "1E-7").map tokensOf = .ok [.int 1, .ident "E", .int (-7), .eof] := by
  have htree : Line.tree .standard "0.0000001" = .ok (.literal (.decimal ⟨1, 7⟩) ⟨0, 9⟩) := by cbv
  refine ⟨Line.outcome_of_denote htree rfl, by decide, ?_⟩
  cbv

end Reckoner
