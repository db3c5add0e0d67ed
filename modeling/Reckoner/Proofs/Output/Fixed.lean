import Reckoner.Proofs.Line.Assignment
import Reckoner.Proofs.Output.Notation

/-!
Fixed notation.

A number in the fixed range is shown with all its digits and without exponent. What is shown is a
line again: one number of the same value, which is shown in the same way. A decimal without places
becomes a whole number, whose digits are those of the decimal and the zeros that it appends.

* `Output.isFixed_ofValue_iff`, `Output.text_of_isFixed`: what is shown in fixed notation, and how;
* `Decimal.plainText_of_whole`: decimals without places;
* `Decimal.exists_literal`: the literal that is read;
* `Line.prepare_plainText`, `Line.outcome_of_literal`: the literal as a line;
* `Output.fixed_reentered`: numbers in fixed notation, entered again.
-/

namespace Reckoner

open Lexer

variable {v : Value} {a : Decimal}

/-! ### What is shown in fixed notation -/

namespace Output

lemma isFixed_ofValue_iff (hv : v.toDecimal? = some a) :
    (ofValue v).isFixed = true ↔ 1 < |a.toRat| ∧ |a.toRat| < 1000000 := by
  rw [ofValue_of_toDecimal? hv, ofExact, ← inFixedRange_iff]
  cases inFixedRange a <;> simp [isFixed]

lemma text_of_isFixed (hv : v.toDecimal? = some a) (h : (ofValue v).isFixed = true) :
    (ofValue v).text = a.plainText := by
  rw [isFixed_ofValue_iff hv, ← inFixedRange_iff] at h
  rw [ofValue_of_toDecimal? hv, ofExact, if_pos h, text]

end Output

/-! ### The number that is read back -/

namespace Decimal

/-- A decimal without places is written as the whole number that it is. -/
lemma plainText_of_whole (hplaces : a.scale.toInt ≤ 0) {n : ℤ} (h : (n : ℚ) = a.toRat) :
    a.plainText = integerText n := by
  have hpoint : ¬ 0 < a.scale.toInt := by omega
  rw [toRat_of_whole hplaces, Int.cast_inj] at h
  subst h
  rw [plainText, if_neg hpoint, integerText]
  by_cases hzero : a.unscaled = 0
  · rw [if_pos hzero, hzero, Int.zero_mul]
    rfl
  · have hpow : (0 : ℤ) < 10 ^ (-a.scale.toInt).toNat := by positivity
    have hnegative : a.unscaled * 10 ^ (-a.scale.toInt).toNat < 0 ↔ a.unscaled < 0 :=
      ⟨fun h => neg_of_mul_neg_left h hpow.le, fun h => mul_neg_of_neg_of_pos h hpow⟩
    have hsign : signText (a.unscaled * 10 ^ (-a.scale.toInt).toNat) = signText a.unscaled := by
      simp only [signText, hnegative]
    have hdigits : digits (a.unscaled * 10 ^ (-a.scale.toInt).toNat).natAbs
        = digits a.unscaled.natAbs ++ List.replicate (-a.scale.toInt).toNat '0' := by
      rw [Int.natAbs_mul, Int.natAbs_pow]
      exact digits_mul_ten_pow (Int.natAbs_pos.mpr hzero) _
    rw [if_neg hzero, hsign, hdigits]

/-- The text of a decimal is one literal. It has the same value, and is written in the same
way. -/
lemma exists_literal (a : Decimal) :
    ∃ (value : Literal) (length : ℕ) (b : Decimal),
      scan a.plainText.toList = some ([(value.token, length)], [])
      ∧ (Value.ofLiteral value).toDecimal? = some b ∧ b.toRat = a.toRat
      ∧ b.plainText = a.plainText := by
  have hends : EndsNumber [] := by rintro c ⟨⟩
  by_cases hplaces : 0 < a.scale.toInt
  · obtain ⟨length, hscan⟩ := scan_plainText_of_places hplaces fun c hc => (hends c hc).1
    rw [List.append_nil] at hscan
    exact ⟨.decimal a, length, a, hscan, rfl, rfl, rfl⟩
  · have hwhole : a.scale.toInt ≤ 0 := Int.not_lt.mp hplaces
    obtain ⟨n, length, hn, hscan⟩ := scan_plainText_of_whole hwhole hends
    rw [List.append_nil] at hscan
    have hvalue : (n : ℚ) = (ofInt n).toRat := (toRat_ofInt n).symm
    refine ⟨.int n, length, .ofInt n, hscan, rfl, hvalue.symm.trans hn, ?_⟩
    rw [plainText_of_whole le_rfl hvalue, plainText_of_whole hwhole hn]

/-- A minus sign is written only in front of a number. -/
lemma minusApart_plainText (a : Decimal) : Line.MinusApart a.plainText.toList := by
  obtain ⟨cs, hcs, htext⟩ := a.exists_plainText
  rw [htext]
  exact Line.minusApart_signText a.unscaled (not_mem_of_digits hcs rfl (by decide))

end Decimal

/-! ### The number as a line -/

namespace Line

variable {settings : Settings} {line : String} {user : UserId} {env : Environment}

lemma prepare_plainText (a : Decimal) : prepare a.plainText = a.plainText :=
  prepare_of_minusApart a.minusApart_plainText
    (a.not_mem_plainText rfl (by decide) (by decide))

/-- A line that is one literal shows its value, wherever any expression is read. -/
lemma outcome_of_literal {value : Literal}
    (h : reading (items (prepare line)) = some [value.token, .eof])
    (hdepth : 1 ≤ settings.maxDepth) :
    (run settings line user env).outcome = .ok (.ofValue (.ofLiteral value)) := by
  obtain ⟨t, htree, hbare⟩ := tree_of_reading
    (s := .statement (.expression (.number value .origin)) .origin) trivial hdepth h
  have hliteral : t.bare = (Formula.literal value .origin).bare := hbare
  have hvalue : t.denote settings.precision (env.tableOf user)
      = some (.ofLiteral value, env.tableOf user) := by
    rw [Formula.denote_congr hliteral]
    rfl
  exact outcome_of_denote htree hvalue

lemma outcome_plainText {value : Literal} {length : ℕ}
    (h : scan a.plainText.toList = some ([(value.token, length)], []))
    (hdepth : 1 ≤ settings.maxDepth) :
    (run settings a.plainText user env).outcome = .ok (.ofValue (.ofLiteral value)) := by
  refine outcome_of_literal ?_ hdepth
  rw [prepare_plainText, items, reading_scanned 0 h, itemsFrom_ended rfl, reading_end]
  rfl

end Line

/-- **Fixed notation is exact.** The whole numbers and decimals of every scale that are shown in
fixed notation are those strictly between one and a million in magnitude. They are shown without
exponent, as one number of the same value, and this number is shown as the same text again when
it is entered as a line: by any user, in any environment and under any limit that allows an
expression. -/
theorem Output.fixed_reentered (hv : v.toDecimal? = some a) :
    ((ofValue v).isFixed = true ↔ 1 < |a.toRat| ∧ |a.toRat| < 1000000)
    ∧ ((ofValue v).isFixed = true →
      ('e' ∉ (ofValue v).text.toList ∧ 'E' ∉ (ofValue v).text.toList)
      ∧ SpellsNumber (ofValue v).text a.toRat
      ∧ ∀ (settings : Settings) (user : UserId) (env : Environment), 1 ≤ settings.maxDepth →
          ∃ output, (Line.run settings (ofValue v).text user env).outcome = .ok output
            ∧ output.text = (ofValue v).text) := by
  refine ⟨isFixed_ofValue_iff hv, fun hfixed => ?_⟩
  rw [text_of_isFixed hv hfixed]
  refine ⟨⟨a.not_mem_plainText rfl (by decide) (by decide),
    a.not_mem_plainText rfl (by decide) (by decide)⟩, spellsNumber_plainText a, ?_⟩
  intro settings user env hdepth
  obtain ⟨value, length, b, hscan, hb, hvalue, htext⟩ := a.exists_literal
  refine ⟨_, Line.outcome_plainText hscan hdepth, ?_⟩
  have hfixed' : (ofValue (.ofLiteral value)).isFixed = true := by
    rwa [isFixed_ofValue_iff hb, hvalue, ← isFixed_ofValue_iff hv]
  rw [text_of_isFixed hb hfixed', htext]

/-- Twenty-five tens are shown as `250`, and so is the line `250`. -/
theorem Output.fixed_reentered_appendedZero :
    Value.toDecimal? (.decimal ⟨25, -1⟩) = some ⟨25, -1⟩
    ∧ (ofValue (.decimal ⟨25, -1⟩)).isFixed = true
    ∧ SpellsNumber "250" (⟨25, -1⟩ : Decimal).toRat
    ∧ ∃ output, (Line.run .standard "250" .anonymous ∅).outcome = .ok output
        ∧ output.text = "250" := by
  have htext : (ofValue (.decimal ⟨25, -1⟩)).text = "250" := by decide
  have hfixed : (ofValue (.decimal ⟨25, -1⟩)).isFixed = true := by decide
  obtain ⟨-, hshown⟩ := fixed_reentered (v := .decimal ⟨25, -1⟩) rfl
  obtain ⟨-, hspells, hline⟩ := hshown hfixed
  rw [htext] at hspells hline
  exact ⟨rfl, hfixed, hspells, hline .standard .anonymous ∅ (by decide)⟩

end Reckoner
