import Reckoner.Decimal.Text
import Reckoner.Proofs.Decimal.Digits

/-!
The texts of decimals.

A decimal is written with a point if it has places, and if no more than five zeros follow the
point. Zeros are put in front of its digits where it has more places than digits; they do not
change the number that the text spells.

* `Decimal.exists_pointed`: digits with a point among them;
* `Decimal.exists_plainText_of_places`, `Decimal.exists_plainText_of_whole`: what is written
  without exponent spells the decimal;
* `Decimal.NeedsExponent`, `Decimal.exists_text_of_needsExponent`,
  `Decimal.exponent_mem_text_iff`: what is written with one;
* `Decimal.IsPositional`: a decimal that is written with a point, and without exponent.
-/

namespace Reckoner

namespace Decimal

/-- Digits with a point before the last `places` of them: zeros in front do not change the
number. -/
lemma exists_pointed {ds : List Char} (hds : ∀ c ∈ ds, c.isDigit = true) {places : ℕ}
    (hplaces : 0 < places) :
    ∃ whole fraction, (∀ c ∈ whole ++ fraction, c.isDigit = true) ∧ whole ≠ []
      ∧ fraction.length = places
      ∧ Nat.ofDigitChars 10 (whole ++ fraction) 0 = Nat.ofDigitChars 10 ds 0
      ∧ (pointed ds places).toList = whole ++ '.' :: fraction := by
  obtain ⟨padded, hpadded⟩ :
      ∃ padded, padded = List.replicate (places + 1 - ds.length) '0' ++ ds := ⟨_, rfl⟩
  have hlength : places < padded.length := by
    rw [hpadded, List.length_append, List.length_replicate]
    omega
  have hdigits : ∀ c ∈ padded, c.isDigit = true := by
    intro c hc
    rw [hpadded, List.mem_append, List.mem_replicate] at hc
    obtain ⟨-, rfl⟩ | hc := hc
    · rfl
    · exact hds c hc
  refine ⟨padded.take (padded.length - places), padded.drop (padded.length - places), ?_, ?_, ?_,
    ?_, ?_⟩
  · rwa [List.take_append_drop]
  · rw [← List.length_pos_iff, List.length_take]
    omega
  · rw [List.length_drop]
    omega
  · rw [List.take_append_drop, hpadded, Nat.ofDigitChars_append, Nat.ofDigitChars_replicate_zero,
      Nat.mul_zero]
  · rw [pointed, String.toList_ofList, hpadded]

/-! ### Without exponent -/

lemma natAbs_signed (n : ℤ) :
    (if decide (n < 0) = true then -(n.natAbs : ℤ) else n.natAbs) = n := by
  split
  · next hneg =>
    have := of_decide_eq_true hneg
    omega
  · next hneg =>
    have : ¬ n < 0 := by simpa using hneg
    omega

/-- A decimal with places is spelled by digits with a point among them, and by a sign. -/
lemma exists_plainText_of_places {a : Decimal} (hplaces : 0 < a.scale.toInt) :
    ∃ whole fraction, (∀ c ∈ whole ++ fraction, c.isDigit = true) ∧ whole ≠ [] ∧ fraction ≠ []
      ∧ a = .ofDigits (decide (a.unscaled < 0)) whole fraction
      ∧ a.plainText.toList = (signText a.unscaled).toList ++ (whole ++ '.' :: fraction) := by
  have hpositive : 0 < a.scale.toInt.toNat := by omega
  obtain ⟨whole, fraction, hdigits, hwhole, hlength, hvalue, htext⟩ :=
    exists_pointed (fun c (hc : c ∈ digits a.unscaled.natAbs) => isDigit_of_mem_digits hc) hpositive
  rw [ofDigitChars_digits] at hvalue
  have hscale : Int64.ofNat fraction.length = a.scale := by
    have htoNat : ((a.scale.toInt.toNat : ℕ) : ℤ) = a.scale.toInt :=
      Int.toNat_of_nonneg hplaces.le
    rw [hlength, ← Int64.ofInt_eq_ofNat, htoNat, Int64.ofInt_toInt]
  refine ⟨whole, fraction, hdigits, hwhole, ?_, ?_, ?_⟩
  · exact List.ne_nil_of_length_pos (hlength ▸ hpositive)
  · rw [ofDigits, hvalue, hscale]
    exact congrArg (Decimal.mk · a.scale) (natAbs_signed a.unscaled).symm
  · rw [plainText, if_pos hplaces, String.toList_append, htext]

/-- A decimal without places is spelled by digits with zeros appended, and by a sign. -/
lemma exists_plainText_of_whole {a : Decimal} (hplaces : a.scale.toInt ≤ 0) :
    ∃ ds, (∀ c ∈ ds, c.isDigit = true) ∧ ds ≠ []
      ∧ Nat.ofDigitChars 10 ds 0 = a.unscaled.natAbs * 10 ^ (-a.scale.toInt).toNat
      ∧ a.plainText.toList = (signText a.unscaled).toList ++ ds := by
  have hpoint : ¬ 0 < a.scale.toInt := by omega
  rw [plainText, if_neg hpoint, String.toList_append]
  split
  · next hzero =>
    refine ⟨['0'], by simp, by simp, ?_, rfl⟩
    rw [hzero, Int.natAbs_zero, Nat.zero_mul]
    rfl
  · refine ⟨_, ?_, ?_, ?_, by rw [String.toList_ofList]⟩
    · intro c hc
      rw [List.mem_append, List.mem_replicate] at hc
      obtain hc | ⟨-, rfl⟩ := hc
      · exact isDigit_of_mem_digits hc
      · rfl
    · simp [digits_ne_nil]
    · rw [Nat.ofDigitChars_append, Nat.ofDigitChars_replicate_zero, ofDigitChars_digits,
        Nat.mul_comm]

/-- What is written without exponent is a sign, and digits with at most one point. -/
lemma exists_plainText (a : Decimal) :
    ∃ cs, (∀ c ∈ cs, c.isDigit = true ∨ c = '.')
      ∧ a.plainText.toList = (signText a.unscaled).toList ++ cs := by
  by_cases hplaces : 0 < a.scale.toInt
  · obtain ⟨whole, fraction, hdigits, -, -, -, htext⟩ := exists_plainText_of_places hplaces
    refine ⟨whole ++ '.' :: fraction, fun c hc => ?_, htext⟩
    obtain hc | rfl | hc : c ∈ whole ∨ c = '.' ∨ c ∈ fraction := by simpa using hc
    · exact .inl (hdigits c (List.mem_append_left _ hc))
    · exact .inr rfl
    · exact .inl (hdigits c (List.mem_append_right _ hc))
  · obtain ⟨ds, hdigits, -, -, htext⟩ := exists_plainText_of_whole (Int.not_lt.mp hplaces)
    exact ⟨ds, fun c hc => .inl (hdigits c hc), htext⟩

lemma not_mem_of_digits {cs : List Char} (h : ∀ c ∈ cs, c.isDigit = true ∨ c = '.') {d : Char}
    (hd : d.isDigit = false) (hpoint : d ≠ '.') : d ∉ cs := by
  intro hmem
  obtain hdigit | rfl := h d hmem
  · simp [hd] at hdigit
  · exact hpoint rfl

lemma not_mem_plainText (a : Decimal) {d : Char} (hd : d.isDigit = false) (hpoint : d ≠ '.')
    (hminus : d ≠ '-') : d ∉ a.plainText.toList := by
  obtain ⟨cs, hcs, htext⟩ := a.exists_plainText
  have hsign : d ∉ (signText a.unscaled).toList :=
    fun hmem => hminus (eq_minus_of_mem_signText hmem)
  rw [htext, List.mem_append, not_or]
  exact ⟨hsign, not_mem_of_digits hcs hd hpoint⟩

/-! ### With or without exponent -/

/-- A decimal that is written with an exponent: more than five zeros would follow the point, or
more than fifteen would have to be appended. -/
structure NeedsExponent (a : Decimal) : Prop where
  ne_zero : a.unscaled ≠ 0
  beyond : leadingZeroLimit < -a.leadingPlace ∨ appendedZeroLimit < -a.scale.toInt

lemma text_of_zero {a : Decimal} (h : a.unscaled = 0) : a.text = "0" := by
  rw [text, if_pos h]

lemma text_of_plain {a : Decimal} (hzero : a.unscaled ≠ 0) (h : ¬ a.NeedsExponent) :
    a.text = a.plainText := by
  have hbeyond := mt (NeedsExponent.mk hzero) h
  rw [not_or] at hbeyond
  rw [text, if_neg hzero, if_neg hbeyond.1, if_neg hbeyond.2]

/-- How a number that needs an exponent starts: with digits and the letter of the exponent, or
with all its digits, a point behind the first of them. -/
lemma exists_text_of_needsExponent {a : Decimal} (h : a.NeedsExponent) :
    ∃ e more, (e = 'e' ∨ e = 'E') ∧
      ((∃ ds, (∀ c ∈ ds, c.isDigit = true) ∧ ds ≠ []
          ∧ a.text.toList = (signText a.unscaled).toList ++ (ds ++ e :: more))
        ∨ ∃ d fraction, (∀ c ∈ d :: fraction, c.isDigit = true) ∧ fraction ≠ []
          ∧ fraction.length + 6 < a.scale.toInt
          ∧ a.text.toList
            = (signText a.unscaled).toList ++ (d :: '.' :: (fraction ++ e :: more))) := by
  have hdigits : ∀ c ∈ digits a.unscaled.natAbs, c.isDigit = true :=
    fun c hc => isDigit_of_mem_digits hc
  have hne := digits_ne_nil a.unscaled.natAbs
  rw [text, if_neg h.ne_zero]
  split
  · next hleading =>
    -- a number below one: its digits and a negative exponent
    rw [leadingPlace, digitCount, leadingZeroLimit] at hleading
    simp only [exponentText, String.toList_append, String.toList_ofList]
    rcases hds : digits a.unscaled.natAbs with _ | ⟨d, _ | ⟨f, fs⟩⟩
    · exact absurd hds hne
    · rw [hds] at hdigits
      exact ⟨'E', _, .inr rfl, .inl ⟨[d], hdigits, by simp, by simp; rfl⟩⟩
    · rw [hds] at hdigits hleading
      refine ⟨'E', _, .inr rfl, .inr ⟨d, f :: fs, hdigits, by simp, ?_, by simp; rfl⟩⟩
      simp only [List.length_cons] at hleading ⊢
      omega
  · next hleading =>
    have happended := h.beyond.resolve_left hleading
    rw [if_pos happended]
    refine ⟨'e', '+' :: (toString (-a.scale.toInt)).toList, .inl rfl, .inl ⟨_, hdigits, hne, ?_⟩⟩
    simp [integerText]

lemma text_ofInt (n : ℤ) : (ofInt n).text = integerText n := by
  have hcount := digitCount_pos n.natAbs
  by_cases hzero : n = 0
  · rw [hzero]
    rfl
  · have hplain : ¬ (ofInt n).NeedsExponent := by
      rintro ⟨-, hleading | happended⟩
      · rw [leadingPlace, leadingZeroLimit, ofInt, Int64.toInt_zero] at hleading
        omega
      · rw [appendedZeroLimit, ofInt, Int64.toInt_zero] at happended
        omega
    rw [text_of_plain hzero hplain, plainText, ofInt, Int64.toInt_zero, if_neg (Int.lt_irrefl 0),
      if_neg hzero, integerText]
    simp

/-- Only the letter of an exponent is a letter. -/
lemma exponent_mem_text_iff {a : Decimal} :
    'e' ∈ a.text.toList ∨ 'E' ∈ a.text.toList ↔ a.NeedsExponent := by
  constructor
  · intro h
    by_contra hexponent
    by_cases hzero : a.unscaled = 0
    · simp [text_of_zero hzero] at h
    · rw [text_of_plain hzero hexponent] at h
      obtain h | h := h
      · exact not_mem_plainText a rfl (by decide) (by decide) h
      · exact not_mem_plainText a rfl (by decide) (by decide) h
  · intro h
    obtain ⟨e, more, rfl | rfl, hform⟩ := exists_text_of_needsExponent h
    · left
      obtain ⟨ds, -, -, htext⟩ | ⟨d, fraction, -, -, -, htext⟩ := hform <;> simp [htext]
    · right
      obtain ⟨ds, -, -, htext⟩ | ⟨d, fraction, -, -, -, htext⟩ := hform <;> simp [htext]

/-- A decimal that is written with a point: it is not zero, it has places, and no more than
five zeros follow the point. -/
structure IsPositional (a : Decimal) : Prop where
  ne_zero : a.unscaled ≠ 0
  hasPlaces : 0 < a.scale.toInt
  zeros : a.scale.toInt - digitCount a.unscaled.natAbs ≤ 5

lemma isPositional_iff {a : Decimal} :
    a.IsPositional ↔ a.unscaled ≠ 0 ∧ 0 < a.scale.toInt ∧ ¬ a.NeedsExponent := by
  constructor
  · intro h
    refine ⟨h.ne_zero, h.hasPlaces, fun hexponent => ?_⟩
    have hplaces := h.hasPlaces
    have hzeros := h.zeros
    have hbeyond := hexponent.beyond
    rw [leadingPlace, leadingZeroLimit, appendedZeroLimit] at hbeyond
    omega
  · rintro ⟨hzero, hplaces, hexponent⟩
    refine ⟨hzero, hplaces, ?_⟩
    have hbeyond := mt (NeedsExponent.mk hzero) hexponent
    rw [leadingPlace, leadingZeroLimit, appendedZeroLimit] at hbeyond
    omega

end Decimal

end Reckoner
