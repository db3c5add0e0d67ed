import Reckoner.Proofs.Token.Rendered

/-!
Tokens that their texts tell apart.

Most tokens are told apart by the lexer, which reads each of them back. It does not read decimals
back that are written with an exponent, and stops in front of the letter `E`. Two of these are told
apart by their digits, which stand around a point in front of the letter, and by what stands behind
it.

* `Decimal.exists_exponentText`, `Decimal.exponentText_injective`: decimals with an exponent;
* `Token.IsDistinct`, `Token.literal_inj`: the tokens that are told apart;
* `spaced_append`, `spaced_inj`: so are lists of them that are written with spaces.
-/

namespace Reckoner

open Lexer

/-! ### Tokens that are read back -/

/-- Tokens that are read back from the same text are the same. -/
lemma Lexer.ReadsBack.eq_of_literal {t u : Token} (ht : ReadsBack t) (hu : ReadsBack u)
    (h : t.literal = u.literal) : t = u := by
  have hnothing : Apart [] := by rintro c ⟨⟩
  obtain ⟨m, htscan⟩ := ht [] hnothing
  obtain ⟨n, huscan⟩ := hu [] hnothing
  rw [h, huscan] at htscan
  simp only [Option.some.injEq, Prod.mk.injEq, List.cons.injEq, and_true] at htscan
  exact htscan.1.symm

lemma integerText_injective : Function.Injective integerText := fun m n h => by
  simpa using (readsBack_int m).eq_of_literal (readsBack_int n) h

/-! ### Decimals with an exponent -/

namespace Decimal

/-- How an exponent is written. -/
def exponentSuffix (n : ℤ) : String := (if n < 0 then "-" else "+") ++ toString n.natAbs

lemma exponentSuffix_injective : Function.Injective exponentSuffix := by
  intro m n h
  have habs {s : String} (hs : s ++ toString m.natAbs = s ++ toString n.natAbs) :
      m.natAbs = n.natAbs :=
    Nat.repr_inj.mp ((String.append_right_inj s).mp hs)
  have hsign (k l : ℕ) : "-" ++ toString k ≠ "+" ++ toString l := by
    intro heq
    simpa using congrArg (·.toList.head?) heq
  unfold exponentSuffix at h
  split at h <;> split at h
  · have := habs h
    omega
  · exact absurd h (hsign _ _)
  · exact absurd h.symm (hsign _ _)
  · have := habs h
    omega

lemma filter_point {ds : List Char} (h : ∀ c ∈ ds, c.isDigit = true) :
    ds.filter (· != '.') = ds := by
  refine List.filter_eq_self.mpr fun c hc => bne_iff_ne.mpr ?_
  rintro rfl
  exact absurd (h _ hc) (by decide)

/-- In front of the letter stand a sign and the digits of the number, with a point behind the first
of them if there are others. -/
lemma exists_exponentText (a : Decimal) :
    ∃ ds, (∀ c ∈ ds, c.isDigit = true ∨ c = '.')
      ∧ ds.filter (· != '.') = digits a.unscaled.natAbs
      ∧ a.exponentText.toList = (signText a.unscaled).toList ++ (ds ++ 'E' ::
        (exponentSuffix ((digits a.unscaled.natAbs).length - 1 - a.scale.toInt)).toList) := by
  have hdigits : ∀ c ∈ digits a.unscaled.natAbs, c.isDigit = true :=
    fun c hc => isDigit_of_mem_digits hc
  have hpoint := filter_point hdigits
  simp only [exponentText, exponentSuffix, String.toList_append, String.toList_ofList]
  split
  · next d e more heq =>
    rw [heq] at hdigits hpoint
    refine ⟨d :: '.' :: e :: more, fun c hc => ?_, ?_, by simp⟩
    · obtain rfl | rfl | hc : c = d ∨ c = '.' ∨ c ∈ e :: more := by simpa using hc
      · exact .inl (hdigits _ List.mem_cons_self)
      · exact .inr rfl
      · exact .inl (hdigits c (List.mem_cons_of_mem d hc))
    · rw [heq, ← hpoint]
      simp [List.filter_cons]
  · exact ⟨_, fun c hc => .inl (hdigits c hc), hpoint, by simp⟩

/-- In front of the letter of an exponent stands a sign, with digits and a point behind it. -/
lemma takeWhile_exponent (n : ℤ) {ds : List Char} (hds : ∀ c ∈ ds, c.isDigit = true ∨ c = '.')
    (more : List Char) :
    ((signText n).toList ++ ds ++ 'E' :: more).takeWhile (· != 'E')
      = (signText n).toList ++ ds := by
  have hfront : ∀ c ∈ (signText n).toList ++ ds, (c != 'E') = true := by
    intro c hc
    obtain hc | hc := List.mem_append.mp hc
    · simp [eq_minus_of_mem_signText hc]
    · exact bne_iff_ne.mpr (ne_of_mem_of_not_mem hc (not_mem_of_digits hds rfl (by decide)))
  rw [List.takeWhile_append_of_pos hfront]
  simp

/-- Without the point it is the text of an integer. -/
lemma filter_mantissa (n : ℤ) {ds : List Char} (hds : ds.filter (· != '.') = digits n.natAbs) :
    ((signText n).toList ++ ds).filter (· != '.') = (integerText n).toList := by
  have hsign : (signText n).toList.filter (· != '.') = (signText n).toList :=
    List.filter_eq_self.mpr fun c hc => by simp [eq_minus_of_mem_signText hc]
  rw [List.filter_append, hsign, hds, integerText, String.toList_append, String.toList_ofList]

/-- **Decimals that are written with an exponent** are told apart by their texts. -/
lemma exponentText_injective : Function.Injective exponentText := by
  intro a b h
  obtain ⟨ds, hds, hdigits, ha⟩ := a.exists_exponentText
  obtain ⟨es, hes, hdigits', hb⟩ := b.exists_exponentText
  rw [← List.append_assoc] at ha hb
  have htexts := ha.symm.trans ((congrArg String.toList h).trans hb)
  have hfronts : (signText a.unscaled).toList ++ ds = (signText b.unscaled).toList ++ es := by
    have htake := congrArg (List.takeWhile (· != 'E')) htexts
    rwa [takeWhile_exponent _ hds, takeWhile_exponent _ hes] at htake
  have hunscaled : a.unscaled = b.unscaled := by
    have hintegers := congrArg (List.filter (· != '.')) hfronts
    rw [filter_mantissa _ hdigits, filter_mantissa _ hdigits'] at hintegers
    exact integerText_injective (String.toList_inj.mp hintegers)
  rw [hfronts] at htexts
  have hsuffix := String.toList_inj.mp (List.cons.inj (List.append_cancel_left htexts)).2
  have hexponent := exponentSuffix_injective hsuffix
  rw [hunscaled] at hexponent
  have hscale : a.scale = b.scale := Int64.toInt_inj.mp (by omega)
  calc a = ⟨a.unscaled, a.scale⟩ := rfl
    _ = ⟨b.unscaled, b.scale⟩ := by rw [hunscaled, hscale]

lemma text_of_exponent {a : Decimal} (hplaces : 0 < a.scale.toInt) (h : a.NeedsExponent) :
    a.text = a.exponentText := by
  have happended : ¬ appendedZeroLimit < -a.scale.toInt := by
    rw [appendedZeroLimit]
    omega
  rw [text, if_neg h.ne_zero, if_pos (h.beyond.resolve_right happended)]

lemma not_mem_exponentText (a : Decimal) {c : Char} (hc : c.isDigit = false)
    (h : c ∉ ['.', '-', '+', 'E']) : c ∉ a.exponentText.toList := by
  obtain ⟨ds, hds, -, htext⟩ := a.exists_exponentText
  obtain ⟨hpoint, hminus, hplus, hE⟩ : c ≠ '.' ∧ c ≠ '-' ∧ c ≠ '+' ∧ c ≠ 'E' := by simpa using h
  have hsign (n : ℤ) : c ∉ (signText n).toList :=
    fun hmem => hminus (eq_minus_of_mem_signText hmem)
  have hsuffix (n : ℤ) : c ∉ (exponentSuffix n).toList := by
    have hnat : c ∉ (toString n.natAbs).toList := by
      intro hmem
      rw [Nat.toString_eq_repr, Nat.toList_repr] at hmem
      simpa [hc] using Nat.isDigit_of_mem_toDigits (by decide) (by decide) hmem
    rw [exponentSuffix, String.toList_append, List.mem_append, not_or]
    refine ⟨?_, hnat⟩
    split <;> simp [hminus, hplus]
  rw [htext]
  simp only [List.mem_append, List.mem_cons, not_or]
  exact ⟨hsign _, not_mem_of_digits hds hc hpoint, hE, hsuffix _⟩

end Decimal

/-! ### Tokens -/

/-- Tokens that are told apart by their texts: names are read back, and decimals are not zero and
have places. -/
def Token.IsDistinct : Token → Prop
  | ident name => IsName name
  | decimal a => a.unscaled ≠ 0 ∧ 0 < a.scale.toInt
  | eof => False
  | int _ | function _ | operator _ | assign | lparen | rparen => True

namespace Token

variable {t u : Token} {ts us : List Token}

/-- A token that is told apart is read back, or is written with an exponent. -/
lemma IsDistinct.readsBack_or (h : t.IsDistinct) :
    ReadsBack t ∨ ∃ a : Decimal, t = .decimal a ∧ a.NeedsExponent ∧ a.text = a.exponentText := by
  cases t with
  | int n => exact .inl (readsBack_int n)
  | ident name => exact .inl (readsBack_ident h)
  | function f => exact .inl (readsBack_function f)
  | operator _ | assign | lparen | rparen => exact .inl (readsBack_sign trivial)
  | eof => exact h.elim
  | decimal a =>
      obtain ⟨hzero, hplaces⟩ := h
      by_cases hexponent : a.NeedsExponent
      · exact .inr ⟨a, rfl, hexponent, Decimal.text_of_exponent hplaces hexponent⟩
      · exact .inl (readsBack_of_isReadable (t := .decimal a)
          (Decimal.isPositional_iff.mpr ⟨hzero, hplaces, hexponent⟩))

/-- What is read back is read up to its end, and an exponent is not. -/
lemma literal_ne_text (ht : ReadsBack t) {a : Decimal} (ha : a.NeedsExponent) :
    t.literal ≠ a.text := by
  intro heq
  obtain ⟨m, hscan⟩ := ht [] (by rintro c ⟨⟩)
  obtain ⟨e, more, u, n, -, -, hscan'⟩ := scan_text_of_needsExponent ha []
  rw [heq, hscan'] at hscan
  simp at hscan

/-- **Tokens are told apart** by their texts. -/
lemma literal_inj (ht : t.IsDistinct) (hu : u.IsDistinct) (h : t.literal = u.literal) : t = u := by
  obtain ht | ⟨a, rfl, ha, hatext⟩ := ht.readsBack_or <;>
    obtain hu | ⟨b, rfl, hb, hbtext⟩ := hu.readsBack_or
  · exact ht.eq_of_literal hu h
  · exact absurd h (literal_ne_text ht hb)
  · exact absurd h.symm (literal_ne_text hu ha)
  · exact congrArg decimal (Decimal.exponentText_injective (hatext.symm.trans (h.trans hbtext)))

lemma IsDistinct.space_not_mem (h : t.IsDistinct) : ' ' ∉ t.literal.toList := by
  cases t with
  | int n =>
      have hdigits : ' ' ∉ digits n.natAbs := fun hmem => by simpa using isDigit_of_mem_digits hmem
      rw [literal, integerText, signText]
      split <;> simp [hdigits]
  | ident name => exact IsName.not_mem h rfl
  | function f => exact not_mem_functionName f rfl
  | operator op => cases op <;> decide
  | assign | lparen | rparen => decide
  | eof => exact h.elim
  | decimal a =>
      obtain ⟨hzero, hplaces⟩ := h
      rw [literal]
      by_cases hexponent : a.NeedsExponent
      · rw [Decimal.text_of_exponent hplaces hexponent]
        exact a.not_mem_exponentText rfl (by decide)
      · rw [Decimal.text_of_plain hzero hexponent]
        exact a.not_mem_plainText rfl (by decide) (by decide)

lemma IsDistinct.toList_ne_nil (h : t.IsDistinct) : t.literal.toList ≠ [] := by
  intro hnil
  obtain ht | ⟨a, rfl, -, htext⟩ := h.readsBack_or
  · obtain ⟨m, hscan⟩ := ht [] (by rintro c ⟨⟩)
    simp [hnil, scan] at hscan
  · obtain ⟨ds, -, -, hexponent⟩ := a.exists_exponentText
    rw [literal, htext, hexponent] at hnil
    simp at hnil

end Token

/-! ### Lists of tokens -/

/-- The words of a text are the texts of its tokens. -/
lemma splitOn_spaced {ts : List Token} (hne : ts ≠ []) (h : ∀ t ∈ ts, t.IsDistinct) :
    (spaced ts).splitOn ' ' = ts.map (·.literal.toList) := by
  have hspace : ∀ word ∈ (ts.map Token.literal).map String.toList, ' ' ∉ word := by
    simpa using fun t ht => (h t ht).space_not_mem
  rw [← toList_rendered, String.toList_intercalate]
  exact (List.splitOn_intercalate ' ' hspace (by simpa using hne)).trans List.map_map

/-- Between two lists stands a space. -/
lemma spaced_append {ts us : List Token} (hts : ts ≠ []) (hus : us ≠ []) :
    spaced (ts ++ us) = spaced ts ++ ' ' :: spaced us := by
  induction ts with
  | nil => exact absurd rfl hts
  | cons t ts ih =>
      obtain ⟨u, us, rfl⟩ := List.exists_cons_of_ne_nil hus
      cases ts with
      | nil => rfl
      | cons t' ts =>
          rw [List.cons_append, List.cons_append, spaced, ← List.cons_append, ih (by simp), spaced,
            List.append_assoc, List.cons_append]

lemma spaced_eq_nil_iff {ts : List Token} (h : ∀ t ∈ ts, t.IsDistinct) :
    spaced ts = [] ↔ ts = [] := by
  match ts with
  | [] => simp [spaced]
  | [t] => simpa [spaced] using (h t (by simp)).toList_ne_nil
  | t :: u :: ts => simp [spaced]

/-- Lists of tokens with the same texts are the same. -/
lemma eq_of_map_literal {ts us : List Token} (hts : ∀ t ∈ ts, t.IsDistinct)
    (hus : ∀ u ∈ us, u.IsDistinct)
    (h : ts.map (·.literal.toList) = us.map (·.literal.toList)) : ts = us := by
  induction ts generalizing us with
  | nil => simpa using h.symm
  | cons t ts ih =>
      obtain ⟨u, us, rfl, ht, htexts⟩ := List.map_eq_cons_iff.mp h.symm
      obtain ⟨htd, hts⟩ := List.forall_mem_cons.mp hts
      obtain ⟨hud, hus⟩ := List.forall_mem_cons.mp hus
      rw [Token.literal_inj htd hud (String.toList_inj.mp ht.symm), ih hts hus htexts.symm]

/-- **Tokens with single spaces between them** are told apart by their text. -/
theorem spaced_inj {ts us : List Token} (hts : ∀ t ∈ ts, t.IsDistinct)
    (hus : ∀ u ∈ us, u.IsDistinct) (h : spaced ts = spaced us) : ts = us := by
  by_cases hnil : ts = []
  · rw [hnil, spaced, eq_comm, spaced_eq_nil_iff hus] at h
    rw [hnil, h]
  · have hnil' : us ≠ [] := by
      rwa [ne_eq, ← spaced_eq_nil_iff hus, ← h, spaced_eq_nil_iff hts]
    refine eq_of_map_literal hts hus ?_
    rw [← splitOn_spaced hnil hts, ← splitOn_spaced hnil' hus, h]

end Reckoner
