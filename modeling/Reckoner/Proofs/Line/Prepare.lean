import Reckoner.Line.Prepare
import Reckoner.Proofs.Token.Scan

/-!
What preparing does to a line.

* `Line.separateMinus_append`, `Line.separateMinus_of_not_mem`: texts without minus signs;
* `Line.MinusApart`, `Line.prepare_of_minusApart`: texts in which no minus sign follows a digit;
* `Line.prepare_of_not_mem`: texts with neither sign;
* `Line.prepare_tight`, `Line.prepare_spaced`: a minus sign between two digits, and the same
  sign with spaces around it.
-/

namespace Reckoner.Line

variable {cs ds : List Char} {c : Char}

lemma separateMinus_cons (c : Char) (h : ∀ d ∈ cs.head?, d ≠ '-') :
    separateMinus (c :: cs) = c :: separateMinus cs := by
  match cs with
  | [] => rfl
  | d :: ds =>
      rw [separateMinus]
      rintro b rest ⟨⟩
      exact h '-' rfl rfl

/-- A minus sign is separated only from a digit before it. -/
lemma separateMinus_cons_of_not_isDigit (h : c.isDigit = false) (cs : List Char) :
    separateMinus (c :: cs) = c :: separateMinus cs := by
  by_cases hminus : ∃ b rest, cs = '-' :: b :: rest
  · obtain ⟨b, rest, rfl⟩ := hminus
    rw [separateMinus, if_neg (by simp [h])]
  · rw [separateMinus]
    intro b rest hcs
    exact hminus ⟨b, rest, hcs⟩

/-- Texts without minus signs are left as they are, whatever follows them but a minus sign. -/
lemma separateMinus_append (hcs : '-' ∉ cs) (hds : ∀ d ∈ ds.head?, d ≠ '-') :
    separateMinus (cs ++ ds) = cs ++ separateMinus ds := by
  induction cs with
  | nil => rfl
  | cons c cs ih =>
      obtain ⟨-, hcs⟩ := not_or.mp (List.mem_cons.not.mp hcs)
      have hhead : ∀ d ∈ (cs ++ ds).head?, d ≠ '-' := by
        cases cs with
        | nil => exact hds
        | cons d cs =>
            rintro _ ⟨⟩ rfl
            exact hcs List.mem_cons_self
      rw [List.cons_append, separateMinus_cons c hhead, ih hcs, List.cons_append]

lemma separateMinus_of_not_mem (h : '-' ∉ cs) : separateMinus cs = cs := by
  have happend : separateMinus (cs ++ []) = cs ++ separateMinus [] :=
    separateMinus_append h (by rintro d ⟨⟩)
  rwa [List.append_nil, separateMinus, List.append_nil] at happend

lemma spellPower_append (cs ds : List Char) :
    spellPower (cs ++ ds) = spellPower cs ++ spellPower ds := List.flatMap_append

lemma spellPower_cons (h : c ≠ '^') (cs : List Char) :
    spellPower (c :: cs) = c :: spellPower cs := by
  simp [spellPower, h]

lemma spellPower_of_not_mem (h : '^' ∉ cs) : spellPower cs = cs := by
  induction cs with
  | nil => rfl
  | cons c cs ih =>
      rw [List.mem_cons, not_or] at h
      rw [spellPower_cons (Ne.symm h.1), ih h.2]

/-- No minus sign follows a digit. -/
def MinusApart (cs : List Char) : Prop := cs.IsChain fun a b => b = '-' → a.isDigit = false

lemma minusApart_cons (hc : c.isDigit = false) (h : MinusApart cs) : MinusApart (c :: cs) :=
  List.isChain_cons.mpr ⟨fun _ _ _ => hc, h⟩

lemma minusApart_cons_of_not_mem (h : '-' ∉ cs) (c : Char) : MinusApart (c :: cs) := by
  induction cs generalizing c with
  | nil => exact List.isChain_singleton c
  | cons d cs ih =>
      rw [List.mem_cons, not_or] at h
      refine List.isChain_cons_cons.mpr ⟨fun hd => ?_, ih h.2 d⟩
      exact absurd hd.symm h.1

lemma minusApart_of_not_mem (h : '-' ∉ cs) : MinusApart cs := by
  cases cs with
  | nil => exact List.isChain_nil
  | cons c cs => exact minusApart_cons_of_not_mem (List.not_mem_of_not_mem_cons h) c

lemma minusApart_signText (n : ℤ) (h : '-' ∉ cs) : MinusApart ((signText n).toList ++ cs) := by
  rw [signText]
  split
  · exact minusApart_cons_of_not_mem h '-'
  · exact minusApart_of_not_mem h

lemma minusApart_append (hcs : MinusApart cs) (hds : MinusApart ds)
    (hhead : ∀ d ∈ ds.head?, d ≠ '-') : MinusApart (cs ++ ds) := by
  refine List.isChain_append.mpr ⟨hcs, hds, fun a _ b hb hminus => ?_⟩
  exact absurd hminus (hhead b hb)

lemma separateMinus_of_minusApart (h : MinusApart cs) : separateMinus cs = cs := by
  induction cs with
  | nil => rfl
  | cons c cs ih =>
      obtain ⟨hhead, hcs⟩ := List.isChain_cons.mp h
      by_cases hc : c.isDigit = true
      · rw [separateMinus_cons c, ih hcs]
        rintro d hd rfl
        have hnot := hhead '-' hd rfl
        simp [hc] at hnot
      · rw [separateMinus_cons_of_not_isDigit (by simpa using hc), ih hcs]

/-- A line in which no minus sign follows a digit, and without power signs, is read as it is. -/
lemma prepare_of_minusApart {line : String} (hminus : MinusApart line.toList)
    (hpower : '^' ∉ line.toList) : prepare line = line := by
  rw [prepare, separateMinus_of_minusApart hminus, spellPower_of_not_mem hpower,
    String.ofList_toList]

/-- A line without minus and power signs is read as it is. -/
lemma prepare_of_not_mem {line : String} (hminus : '-' ∉ line.toList)
    (hpower : '^' ∉ line.toList) : prepare line = line := by
  rw [prepare, separateMinus_of_not_mem hminus, spellPower_of_not_mem hpower,
    String.ofList_toList]

lemma minus_not_mem_spellPower (h : '-' ∉ cs) : '-' ∉ spellPower cs := by
  rw [spellPower, List.mem_flatMap]
  rintro ⟨d, hd, hminus⟩
  by_cases hpower : d = '^'
  · simp [hpower] at hminus
  · rw [if_neg hpower, List.mem_singleton] at hminus
    exact h (hminus ▸ hd)

variable {a b : Char}

/-- Between two digits a minus sign gets a plus sign before it. -/
lemma prepare_tight (ha : a.isDigit = true) (hb : b.isDigit = true) (hcs : '-' ∉ cs)
    (hds : '-' ∉ ds) :
    spellPower (separateMinus (cs ++ a :: '-' :: b :: ds))
      = spellPower (cs ++ [a]) ++ '+' :: '-' :: b :: spellPower ds := by
  have hminus : separateMinus (a :: '-' :: b :: ds) = a :: '+' :: '-' :: b :: ds := by
    rw [separateMinus, if_pos (by simp [ha, hb]), separateMinus_of_not_mem hds]
  have hhead : ∀ d ∈ (a :: '-' :: b :: ds).head?, d ≠ '-' := by
    rintro _ ⟨⟩
    exact Lexer.ne_of_isDigit ha rfl
  rw [separateMinus_append hcs hhead, hminus,
    show cs ++ a :: '+' :: '-' :: b :: ds = (cs ++ [a]) ++ '+' :: '-' :: b :: ds by simp,
    spellPower_append, spellPower_cons (by decide), spellPower_cons (by decide),
    spellPower_cons (Lexer.ne_of_isDigit hb rfl)]

/-- A minus sign with spaces around it is left alone. -/
lemma prepare_spaced (hb : b.isDigit = true) (hcs : '-' ∉ cs) (hds : '-' ∉ b :: ds) :
    spellPower (separateMinus (cs ++ ' ' :: '-' :: ' ' :: b :: ds))
      = spellPower cs ++ ' ' :: '-' :: ' ' :: b :: spellPower ds := by
  have hspaced : '-' ∉ ' ' :: b :: ds := by
    rw [List.mem_cons, not_or]
    exact ⟨by decide, hds⟩
  have hminus : separateMinus (' ' :: '-' :: ' ' :: b :: ds) = ' ' :: '-' :: ' ' :: b :: ds := by
    rw [separateMinus, if_neg (by decide), separateMinus_cons '-' (by rintro _ ⟨⟩; decide),
      separateMinus_of_not_mem hspaced]
  have hhead : ∀ d ∈ (' ' :: '-' :: ' ' :: b :: ds).head?, d ≠ '-' := by
    rintro _ ⟨⟩
    decide
  rw [separateMinus_append hcs hhead, hminus, spellPower_append, spellPower_cons (by decide),
    spellPower_cons (by decide), spellPower_cons (by decide),
    spellPower_cons (Lexer.ne_of_isDigit hb rfl)]

end Reckoner.Line
