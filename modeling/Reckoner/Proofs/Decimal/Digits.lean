import Mathlib.Tactic
import Reckoner.Decimal.Digits

/-!
The digits of whole numbers, as repeated division by ten gives them.

* `lastDigits`, `prependDigits_eq`: digits one at a time, and in two halves;
* `digits_eq`: the two agree;
* `isDigit_of_mem_digits`, `ofDigitChars_digits`: that they are digits, and of which number;
* `digits_mul_ten_pow`: the digits of a multiple of a power of ten;
* `digitCount_le_iff`: how many digits a number has.
-/

namespace Reckoner

/-! ### Digits by repeated division -/

/-- The last `j` digits of `n`, zeros in front included. -/
def lastDigits : Nat → Nat → List Char
  | 0, _ => []
  | j + 1, n => lastDigits j (n / 10) ++ [(n % 10).digitChar]

lemma lastDigits_add (i j n : Nat) :
    lastDigits (i + j) n = lastDigits i (n / 10 ^ j) ++ lastDigits j n := by
  induction j generalizing n with
  | zero => simp [lastDigits]
  | succ j ih =>
    rw [← Nat.add_assoc, lastDigits, lastDigits, ih, Nat.div_div_eq_div_mul,
      ← Nat.pow_succ', List.append_assoc]

lemma lastDigits_mod (j n : Nat) :
    lastDigits j (n % 10 ^ j) = lastDigits j n := by
  induction j generalizing n with
  | zero => rfl
  | succ j ih =>
    rw [lastDigits, lastDigits, Nat.pow_succ', Nat.mod_mul_right_div_self, ih,
      Nat.mod_mul_right_mod]

lemma prependDigits_eq {k n : Nat} (h : n < 10 ^ 2 ^ k) (tail : List Char) :
    prependDigits k n tail = lastDigits (2 ^ k) n ++ tail := by
  induction k generalizing n tail with
  | zero =>
    have : n % 10 = n := Nat.mod_eq_of_lt h
    simp [prependDigits, lastDigits, this]
  | succ k ih =>
    have hp : 0 < 10 ^ 2 ^ k := Nat.pow_pos (by decide)
    have hd : n / 10 ^ 2 ^ k < 10 ^ 2 ^ k := by
      rw [Nat.div_lt_iff_lt_mul hp, ← Nat.pow_add, ← Nat.two_mul, ← Nat.pow_succ']
      exact h
    rw [prependDigits, Nat.pow_eq, Nat.pow_eq, ih hd, ih (Nat.mod_lt _ hp), lastDigits_mod,
      ← List.append_assoc, ← lastDigits_add, ← Nat.two_mul, ← Nat.pow_succ']

lemma dropWhile_digitChar : ∀ n < 10,
    [n.digitChar].dropWhile (· == '0') = if n = 0 then [] else [n.digitChar] := by
  decide

lemma dropWhile_lastDigits {j n : Nat} (h : n < 10 ^ j) :
    (lastDigits j n).dropWhile (· == '0') =
      if n = 0 then [] else Nat.toDigits 10 n := by
  induction j generalizing n with
  | zero => simp [lastDigits, show n = 0 by simpa using h]
  | succ j ih =>
    have hj : n / 10 < 10 ^ j := by
      rw [Nat.div_lt_iff_lt_mul (by decide), ← Nat.pow_succ]
      exact h
    rw [lastDigits, List.dropWhile_append, ih hj]
    by_cases hn : n < 10
    · rw [Nat.div_eq_of_lt hn, Nat.mod_eq_of_lt hn, Nat.toDigits_of_lt_base hn,
        if_pos rfl, if_pos List.isEmpty_nil]
      exact dropWhile_digitChar n hn
    · have hq : n / 10 ≠ 0 := by omega
      rw [if_neg hq, if_neg (by simp [Nat.toDigits_ne_nil]), if_neg (by omega),
        ← Nat.toDigits_of_lt_base (Nat.mod_lt n (by decide)),
        Nat.toDigits_append_toDigits (by decide) (by omega)
          (Nat.mod_lt n (by decide)), Nat.div_add_mod]

lemma lt_ten_pow_halvings (n : Nat) : n < 10 ^ 2 ^ halvings n := by
  have h₁ : n.log2 / 3 + 1 < 2 ^ halvings n := Nat.lt_log2_self
  calc n < 2 ^ (n.log2 + 1) := Nat.lt_log2_self
    _ ≤ 2 ^ (3 * 2 ^ halvings n) := Nat.pow_le_pow_right (by decide) (by omega)
    _ = 8 ^ 2 ^ halvings n := Nat.pow_mul ..
    _ ≤ 10 ^ 2 ^ halvings n := Nat.pow_le_pow_left (by decide) _

/-- **Digits.** Cutting a number in halves gives the digits that repeated division gives. -/
theorem digits_eq (n : Nat) : digits n = Nat.toDigits 10 n := by
  rw [digits, prependDigits_eq (lt_ten_pow_halvings n), List.append_nil,
    dropWhile_lastDigits (lt_ten_pow_halvings n)]
  by_cases hn : n = 0
  · rw [hn]
    rfl
  · rw [if_neg hn]
    split
    · next h => exact absurd h Nat.toDigits_ne_nil
    · rfl

lemma isDigit_of_mem_digits {n : Nat} {c : Char} (h : c ∈ digits n) : c.isDigit = true :=
  Nat.isDigit_of_mem_toDigits (by decide) (by decide) (digits_eq n ▸ h)

lemma ofDigitChars_digits (n : Nat) : Nat.ofDigitChars 10 (digits n) 0 = n := by
  rw [digits_eq, Nat.ofDigitChars_ten_toDigits]

lemma digits_ne_nil (n : Nat) : digits n ≠ [] := digits_eq n ▸ Nat.toDigits_ne_nil

/-- A sign is a minus sign, or nothing. -/
lemma eq_minus_of_mem_signText {n : Int} {c : Char} (h : c ∈ (signText n).toList) : c = '-' := by
  rw [signText] at h
  split at h
  · exact List.mem_singleton.mp h
  · simp at h

/-- A power of ten appends its zeros. -/
lemma digits_mul_ten_pow {n : Nat} (hn : 0 < n) (k : Nat) :
    digits (n * 10 ^ k) = digits n ++ List.replicate k '0' := by
  induction k with
  | zero => simp
  | succ k ih =>
      have hpos : 0 < n * 10 ^ k := Nat.mul_pos hn (Nat.pow_pos (by decide))
      have happend := Nat.toDigits_append_toDigits (b := 10) (d := 0) (by decide) hpos (by decide)
      rw [digits_eq, digits_eq] at ih
      rw [digits_eq, digits_eq, List.replicate_succ', ← List.append_assoc, ← ih,
        show n * 10 ^ (k + 1) = 10 * (n * 10 ^ k) + 0 by ring, ← happend, Nat.toDigits_zero]

/-! ### Their number -/

lemma digitCount_le_iff {n k : Nat} (hk : 0 < k) :
    digitCount n ≤ k ↔ n < 10 ^ k := by
  rw [digitCount, digits_eq]
  exact Nat.length_toDigits_le_iff (by decide) hk

lemma digitCount_pos (n : Nat) : 0 < digitCount n := by
  rw [digitCount, List.length_pos_iff]
  exact digits_ne_nil n

/-- A number is below the power of ten with as many zeros as it has digits. -/
lemma lt_ten_pow_digitCount (n : Nat) : n < 10 ^ digitCount n :=
  (digitCount_le_iff (digitCount_pos n)).1 (Nat.le_refl _)

/-- A number of more than `k` digits reaches `10 ^ k`. -/
lemma ten_pow_le_of_lt_digitCount {n k : Nat} (hn : 0 < n)
    (h : k < digitCount n) : 10 ^ k ≤ n := by
  cases k with
  | zero => exact hn
  | succ k =>
    have : ¬ digitCount n ≤ k + 1 := by omega
    rw [digitCount_le_iff (by omega)] at this
    omega

lemma pos_of_one_lt_digitCount {n : Nat} (h : 1 < digitCount n) : 0 < n := by
  by_contra hzero
  have : digitCount n ≤ 1 := (digitCount_le_iff Nat.one_pos).2 (by omega)
  omega

/-- Powers of ten measure the length of a number. -/
lemma lt_digitCount_iff {n k : Nat} (hn : 0 < n) : k < digitCount n ↔ 10 ^ k ≤ n := by
  constructor
  · exact ten_pow_le_of_lt_digitCount hn
  · intro hle
    by_contra hnot
    have hlt : 10 ^ digitCount n ≤ 10 ^ k := Nat.pow_le_pow_right (by decide) (by omega)
    have := lt_ten_pow_digitCount n
    omega

/-- Digits that are put after a number make it longer by their number. -/
lemma digitCount_mul_ten_pow_add {n r k : Nat} (hn : 0 < n) (hr : r < 10 ^ k) :
    digitCount (n * 10 ^ k + r) = digitCount n + k := by
  have hcount := digitCount_pos n
  have hten : 0 < 10 ^ k := Nat.pow_pos (by decide)
  have hpos : 0 < n * 10 ^ k + r := Nat.add_pos_left (Nat.mul_pos hn hten) r
  refine Nat.le_antisymm ?_ ?_
  · rw [digitCount_le_iff (by omega)]
    calc n * 10 ^ k + r < n * 10 ^ k + 10 ^ k := Nat.add_lt_add_left hr _
      _ = (n + 1) * 10 ^ k := (Nat.succ_mul n _).symm
      _ ≤ 10 ^ digitCount n * 10 ^ k :=
          Nat.mul_le_mul_right _ (lt_ten_pow_digitCount n)
      _ = 10 ^ (digitCount n + k) := (Nat.pow_add 10 _ k).symm
  · have hlow : 10 ^ (digitCount n - 1 + k) ≤ n * 10 ^ k + r := by
      calc 10 ^ (digitCount n - 1 + k) = 10 ^ (digitCount n - 1) * 10 ^ k := Nat.pow_add 10 _ k
        _ ≤ n * 10 ^ k :=
            Nat.mul_le_mul_right _ (ten_pow_le_of_lt_digitCount hn (by omega))
        _ ≤ n * 10 ^ k + r := Nat.le_add_right _ r
    have := (lt_digitCount_iff hpos).2 hlow
    omega

/-- A whole quotient is as long as one number is longer than the other, or one digit longer. -/
lemma digitCount_div {n d : Nat} (hn : 0 < n) (hd : 0 < d) (h : digitCount d < digitCount n) :
    digitCount n ≤ digitCount (n / d) + digitCount d
      ∧ digitCount (n / d) + digitCount d ≤ digitCount n + 1 := by
  have hcount := digitCount_pos d
  have hlow : 10 ^ (digitCount n - 1 - digitCount d) ≤ n / d := by
    rw [Nat.le_div_iff_mul_le hd]
    calc 10 ^ (digitCount n - 1 - digitCount d) * d
        ≤ 10 ^ (digitCount n - 1 - digitCount d) * 10 ^ digitCount d :=
          Nat.mul_le_mul_left _ (Nat.le_of_lt (lt_ten_pow_digitCount d))
      _ = 10 ^ (digitCount n - 1) := by
          rw [← Nat.pow_add]
          congr 1
          omega
      _ ≤ n := ten_pow_le_of_lt_digitCount hn (by omega)
  have hhigh : n / d < 10 ^ (digitCount n + 1 - digitCount d) := by
    rw [Nat.div_lt_iff_lt_mul hd]
    calc n < 10 ^ digitCount n := lt_ten_pow_digitCount n
      _ = 10 ^ (digitCount n + 1 - digitCount d) * 10 ^ (digitCount d - 1) := by
          rw [← Nat.pow_add]
          congr 1
          omega
      _ ≤ 10 ^ (digitCount n + 1 - digitCount d) * d :=
          Nat.mul_le_mul_left _ (ten_pow_le_of_lt_digitCount hd (by omega))
  have hpos : 0 < n / d := Nat.lt_of_lt_of_le (Nat.pow_pos (by decide)) hlow
  rw [← lt_digitCount_iff hpos] at hlow
  rw [← digitCount_le_iff (by omega)] at hhigh
  omega

end Reckoner
