import Reckoner.Proofs.Token.Junction

/-!
A minus sign between two numbers.

Written apart, `2 - 3`, it is an operator; written as `2+-3` it belongs to the number after
it. The tokens of the two texts differ in these two places only.

* `Token.negate`: a number with its sign turned;
* `turnMinus`: tokens in which every minus sign has become part of what follows it;
* `MinusBeforeNumber`: tokens in which every minus sign stands before a number;
* `Lexer.scan_minus_number`: a number with its sign;
* `Lexer.reading_junction`: the two texts.
-/

namespace Reckoner

/-- A number with its sign turned; other tokens as they are. -/
def Token.negate : Token → Token
  | int n => int (-n)
  | decimal a => decimal a.neg
  | t => t

/-- The tokens in which every minus sign has become a plus sign, and the number after it has
taken the sign. -/
def turnMinus : List Token → List Token
  | .operator .sub :: t :: ts => .operator .add :: t.negate :: turnMinus ts
  | t :: ts => t :: turnMinus ts
  | [] => []

lemma turnMinus_cons {t : Token} (h : t ≠ .operator .sub) (ts : List Token) :
    turnMinus (t :: ts) = t :: turnMinus ts := by
  rw [turnMinus]
  rintro u us ⟨⟩
  exact absurd rfl h

lemma turnMinus_of_not_mem {ts : List Token} (h : .operator .sub ∉ ts) : turnMinus ts = ts := by
  induction ts with
  | nil => rfl
  | cons t ts ih =>
      obtain ⟨ht, hts⟩ := not_or.mp (List.mem_cons.not.mp h)
      rw [turnMinus_cons (Ne.symm ht), ih hts]

/-- Tokens are turned part by part, where no part ends with a minus sign. -/
lemma turnMinus_append (ts us : List Token) (h : ∀ t ∈ ts.getLast?, t ≠ .operator .sub) :
    turnMinus (ts ++ us) = turnMinus ts ++ turnMinus us := by
  induction ts using turnMinus.induct with
  | case1 t ts ih =>
      have hts : ∀ u ∈ ts.getLast?, u ≠ .operator .sub := by
        intro u hu
        refine h u ?_
        rw [List.getLast?_cons, List.getLast?_cons, Option.mem_def.mp hu]
        rfl
      simp only [List.cons_append, turnMinus, ih hts]
  | case2 t ts hcases ih =>
      by_cases ht : t = .operator .sub
      · subst ht
        cases ts with
        | nil => exact absurd rfl (h _ rfl)
        | cons u ts => exact absurd rfl (hcases u ts rfl)
      · have hts : ∀ u ∈ ts.getLast?, u ≠ .operator .sub := by
          intro u hu
          refine h u ?_
          rw [List.getLast?_cons, Option.mem_def.mp hu]
          rfl
        rw [List.cons_append, turnMinus_cons ht, turnMinus_cons ht, ih hts, List.cons_append]
  | case3 => rfl

/-- Every minus sign stands right before a number. -/
def MinusBeforeNumber (ts : List Token) : Prop :=
  ∀ us t ws, ts = us ++ .operator .sub :: t :: ws → t.isNumber = true

lemma MinusBeforeNumber.of_append_left {ts us : List Token} (h : MinusBeforeNumber (ts ++ us)) :
    MinusBeforeNumber ts := by
  rintro vs t ws rfl
  exact h vs t (ws ++ us) (by simp)

lemma MinusBeforeNumber.of_append_right {ts us : List Token} (h : MinusBeforeNumber (ts ++ us)) :
    MinusBeforeNumber us := by
  rintro vs t ws rfl
  exact h (ts ++ vs) t ws (by simp)

lemma MinusBeforeNumber.of_cons {t : Token} {ts : List Token} (h : MinusBeforeNumber (t :: ts)) :
    MinusBeforeNumber ts :=
  fun us u ws hts => h (t :: us) u ws (by rw [hts, List.cons_append])

lemma minusBeforeNumber_of_not_mem {ts : List Token} (h : .operator .sub ∉ ts) :
    MinusBeforeNumber ts := by
  rintro us t ws rfl
  simp at h

/-- One minus sign, and a number after it. -/
lemma minusBeforeNumber_junction {us ws : List Token} {t : Token} (ht : t.isNumber = true)
    (hus : .operator .sub ∉ us) (hws : .operator .sub ∉ ws) :
    MinusBeforeNumber (us ++ .operator .sub :: t :: ws) := by
  intro vs u xs h
  obtain ⟨ys, rfl, hys⟩ | ⟨ys, rfl, hys⟩ := List.append_eq_append_iff.mp h
  · cases ys with
    | nil =>
        cases hys
        exact ht
    | cons y ys =>
        obtain ⟨-, hys⟩ := List.cons.inj hys
        cases ys with
        | nil =>
            cases hys
            simp [Token.isNumber] at ht
        | cons z ys =>
            obtain ⟨-, rfl⟩ := List.cons.inj hys
            simp at hws
  · cases ys with
    | nil =>
        cases hys
        exact ht
    | cons y ys =>
        obtain ⟨rfl, -⟩ := List.cons.inj hys
        simp at hus

lemma turnMinus_junction {us ws : List Token} {t : Token} (hus : .operator .sub ∉ us)
    (hws : .operator .sub ∉ ws) :
    turnMinus (us ++ .operator .sub :: t :: ws) = us ++ .operator .add :: t.negate :: ws := by
  rw [turnMinus_append, turnMinus_of_not_mem hus, turnMinus, turnMinus_of_not_mem hws]
  rintro u hu rfl
  exact hus (List.mem_of_getLast? hu)

namespace Lexer

/-! ### A number with and without its sign -/

lemma ofDigits_negative (whole fraction : List Char) :
    Decimal.ofDigits true whole fraction = (Decimal.ofDigits false whole fraction).neg := rfl

lemma scanNumber_negative (cs : List Char) :
    scanNumber true cs
      = (((scanNumber false cs).1.1.negate, (scanNumber false cs).1.2 + 1),
        (scanNumber false cs).2) := by
  simp only [scanNumber]
  split
  · split
    · simp [Token.negate, ofDigits_negative]
      omega
    · simp [Token.negate, ofDigits_negative, Decimal.neg]
      omega
  · simp [Token.negate, ofDigits_negative, Decimal.neg]
    omega

lemma isNumber_scanNumber (negative : Bool) (cs : List Char) :
    (scanNumber negative cs).1.1.isNumber = true :=
  scanNumber_forall (P := fun t => t.isNumber = true) (fun _ => rfl) (fun _ _ _ _ _ => rfl) negative

variable {d : Char} {ds : List Char}

lemma scan_minus_number (hd : d.isDigit = true) :
    scan ('-' :: d :: ds)
      = some ([((scanNumber false (d :: ds)).1.1.negate, (scanNumber false (d :: ds)).1.2 + 1)],
        (scanNumber false (d :: ds)).2) := by
  rw [scan_minus hd, scanNumber_negative]

/-! ### The two texts -/

/-- Outside a comment a number is read after the minus sign, or with it. -/
lemma reading_minus (pos : ℕ) (hd : d.isDigit = true) (ds : List Char) :
    ∃ t after, t.isNumber = true ∧ after <:+ d :: ds
      ∧ reading (itemsFrom pos ('+' :: '-' :: d :: ds))
        = (reading (itemsFrom 0 after)).map ([.operator .add, t.negate] ++ ·)
      ∧ reading (itemsFrom pos (' ' :: '-' :: ' ' :: d :: ds))
        = (reading (itemsFrom 0 after)).map ([.operator .sub, t] ++ ·) := by
  refine ⟨(scanNumber false (d :: ds)).1.1, (scanNumber false (d :: ds)).2,
    isNumber_scanNumber _ _, scanNumber_suffix _ _, ?_, ?_⟩
  · have hplus : scan ('+' :: '-' :: d :: ds) = some ([(.operator .add, 1)], '-' :: d :: ds) :=
      rfl
    rw [reading_scanned pos hplus, reading_scanned 0 (scan_minus_number hd)]
    simp [Function.comp_def]
  · have hminus : scan ('-' :: ' ' :: d :: ds)
        = some ([(.operator .sub, 1)], ' ' :: d :: ds) := rfl
    rw [reading_blank, reading_scanned 0 hminus, reading_blank,
      reading_scanned 0 (scan_number hd ds)]
    simp [Function.comp_def]

/-- In a comment the two texts are read alike, and without minus signs. -/
lemma reading_comment (pos : ℕ) {cs : List Char} (hcs : '-' ∉ cs) :
    reading (itemsWithin true pos ('+' :: '-' :: cs))
        = reading (itemsWithin true pos (' ' :: '-' :: ' ' :: cs))
      ∧ ∀ ts ∈ reading (itemsWithin true pos (' ' :: '-' :: ' ' :: cs)), .operator .sub ∉ ts := by
  refine ⟨reading_itemsWithin true (pos + 1 + 1) (pos + 1 + 1 + 1) cs, fun ts hts => ?_⟩
  have hsuffix := skipTrivia_suffix true (pos + 1 + 1 + 1) cs
  exact sub_not_mem_reading hts fun hmem => hcs (hsuffix.mem hmem)

/-- **A minus sign between two numbers.** Where no other minus sign stands in the texts, the
tokens of the tight text are those of the spaced one after turning the minus sign. -/
theorem reading_junction {cs : List Char} (hd : d.isDigit = true) (hcs : '-' ∉ cs)
    (hds : '-' ∉ d :: ds) (pos : ℕ) :
    reading (itemsFrom pos (cs ++ '+' :: '-' :: d :: ds))
        = (reading (itemsFrom pos (cs ++ ' ' :: '-' :: ' ' :: d :: ds))).map turnMinus
      ∧ ∀ ts ∈ reading (itemsFrom pos (cs ++ ' ' :: '-' :: ' ' :: d :: ds)),
        MinusBeforeNumber ts := by
  obtain ⟨ls, hreads, hls⟩ := itemsFrom_append pos cs
  have hsub : .operator .sub ∉ tokensOf ls := by
    intro hmem
    obtain ⟨l, hl, htoken⟩ := List.mem_map.mp hmem
    exact hls hcs l hl htoken
  have htight : Quiet ('+' :: '-' :: d :: ds) := by rintro c ⟨⟩; exact .inr rfl
  have hspaced : Quiet (' ' :: '-' :: ' ' :: d :: ds) := by rintro c ⟨⟩; exact .inl rfl
  obtain ⟨e, hitems⟩ | ⟨inside, next, hitems⟩ := hreads
  · rw [hitems _ htight, hitems _ hspaced]
    simp
  · rw [hitems _ htight, hitems _ hspaced, reading_map_ok_append, reading_map_ok_append]
    cases inside with
    | true =>
        obtain ⟨heq, hsome⟩ := reading_comment next hds
        rw [heq]
        rcases hreading : reading (itemsWithin true next (' ' :: '-' :: ' ' :: d :: ds)) with _ | ws
        · simp
        · have hnone : .operator .sub ∉ tokensOf ls ++ ws := by
            rw [List.mem_append, not_or]
            exact ⟨hsub, hsome ws hreading⟩
          simp only [Option.map_some, Option.mem_some_iff, forall_eq', turnMinus_of_not_mem hnone,
            true_and]
          exact minusBeforeNumber_of_not_mem hnone
    | false =>
        obtain ⟨t, after, ht, hafter, hplus, hminus⟩ := reading_minus next hd ds
        rw [itemsWithin_false, itemsWithin_false, hplus, hminus]
        rcases hreading : reading (itemsFrom 0 after) with _ | ws
        · simp
        · have hws := sub_not_mem_reading hreading fun hmem => hds (hafter.mem hmem)
          simp only [Option.map_some, List.cons_append, List.nil_append, Option.mem_some_iff,
            forall_eq', turnMinus_junction hsub hws, true_and]
          exact minusBeforeNumber_junction ht hsub hws

end Lexer

end Reckoner
