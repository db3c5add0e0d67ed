import Mathlib.Algebra.Order.Floor.Semifield
import Mathlib.Data.Int.Log
import Mathlib.Tactic

/-!
Significant digits of rational numbers.

The first `p` significant digits of a number end at a power of ten, its last place. A magnitude is
cut off there, or rounded to the nearer multiple of this power, a half going up.

* `lastPlace`, `cutTo`, `roundedTo`: the last place, and the magnitudes that end there;
* `lastPlace_scaled`, `cutTo_scaled`, `roundedTo_scaled`: the same of a magnitude that is known by
  its whole part at some scale;
* `HasDigits`, `roundedTo_of_hasDigits`: numbers of no more digits are left as they are;
* `IsRounding`, `toLastPlace_mono`: a larger magnitude ends up no smaller, whichever way its digits
  are taken off.
-/

namespace Reckoner

/-- The power of ten that the first `p` significant digits of a number end at. -/
def lastPlace (p : ℕ) (x : ℚ) : ℤ := Int.log 10 |x| + 1 - p

/-- A magnitude cut off after `p` significant digits. -/
def cutTo (p : ℕ) (x : ℚ) : ℚ := ⌊x / 10 ^ lastPlace p x⌋ * 10 ^ lastPlace p x

/-- A magnitude rounded to `p` significant digits, a half going up. -/
def roundedTo (p : ℕ) (x : ℚ) : ℚ := ⌊x / 10 ^ lastPlace p x + 1 / 2⌋ * 10 ^ lastPlace p x

/-- A number of no more than `p` significant digits. -/
def HasDigits (p : ℕ) (x : ℚ) : Prop := ∃ n k : ℤ, |n| < 10 ^ p ∧ x = n * 10 ^ k

variable {p : ℕ} {x : ℚ}

@[simp] lemma cutTo_zero (p : ℕ) : cutTo p 0 = 0 := by
  simp [cutTo]

@[simp] lemma roundedTo_zero (p : ℕ) : roundedTo p 0 = 0 := by
  norm_num [roundedTo]

/-! ### Magnitudes at a scale -/

/-- The power of ten at the leading digit. -/
lemma log_abs_eq {n : ℤ} (hlow : 10 ^ n ≤ |x|) (hhigh : |x| < 10 ^ (n + 1)) :
    Int.log 10 |x| = n := by
  have hpos : 0 < |x| := lt_of_lt_of_le (by positivity) hlow
  have hle : n ≤ Int.log 10 |x| :=
    (Int.zpow_le_iff_le_log (by norm_num) hpos).mp (by exact_mod_cast hlow)
  have hlt : Int.log 10 |x| < n + 1 :=
    (Int.lt_zpow_iff_log_lt (by norm_num) hpos).mp (by exact_mod_cast hhigh)
  omega

section Scaled

variable {y : ℚ} {j : ℕ}

/-- A magnitude of `p + j` digits before the point has its last place `j` digits before the point,
wherever the point is put afterwards. -/
lemma lastPlace_scaled (hp : 0 < p) (hlow : 10 ^ (p + j - 1) ≤ y) (hhigh : y < 10 ^ (p + j))
    (s : ℤ) : lastPlace p (y * 10 ^ (-s)) = j - s := by
  have hten : (0 : ℚ) < 10 ^ (-s) := by positivity
  have hy : 0 < y := lt_of_lt_of_le (by positivity) hlow
  have habs : |y * 10 ^ (-s)| = y * 10 ^ (-s) := abs_of_pos (mul_pos hy hten)
  have hpow (n : ℕ) (m : ℤ) (h : (n : ℤ) - s = m) : (10 : ℚ) ^ n * 10 ^ (-s) = 10 ^ m := by
    rw [← zpow_natCast, ← zpow_add₀ (by norm_num), ← h, sub_eq_add_neg]
  have hlog : Int.log 10 |y * 10 ^ (-s)| = p + j - 1 - s := by
    rw [log_abs_eq] <;> rw [habs]
    · rw [← hpow (p + j - 1) _ (by omega)]
      exact mul_le_mul_of_nonneg_right hlow hten.le
    · rw [← hpow (p + j) ((p : ℤ) + j - 1 - s + 1) (by push_cast; ring)]
      exact mul_lt_mul_of_pos_right hhigh hten
  rw [lastPlace, hlog]
  ring

/-- At its last place a magnitude is what is left before the point when `j` digits are taken off. -/
lemma div_lastPlace_scaled (s : ℤ) : y * 10 ^ (-s) / 10 ^ ((j : ℤ) - s) = y / (10 ^ j : ℕ) := by
  have hten : (10 : ℚ) ^ (-s) ≠ 0 := zpow_ne_zero _ (by norm_num)
  rw [sub_eq_add_neg, zpow_add₀ (by norm_num), zpow_natCast, mul_div_mul_right _ _ hten]
  push_cast
  rfl

/-- A magnitude is cut off by cutting off its whole part. -/
lemma cutTo_scaled (hp : 0 < p) (hlow : 10 ^ (p + j - 1) ≤ y) (hhigh : y < 10 ^ (p + j)) (s : ℤ) :
    cutTo p (y * 10 ^ (-s)) = (⌊y⌋₊ / 10 ^ j : ℕ) * 10 ^ ((j : ℤ) - s) := by
  have hy : 0 ≤ y := le_trans (by positivity) hlow
  have hfloor : ⌊y / (10 ^ j : ℕ)⌋ = (⌊y⌋₊ / 10 ^ j : ℕ) := by
    rw [← Nat.floor_div_natCast, Int.natCast_floor_eq_floor (by positivity)]
  rw [cutTo, lastPlace_scaled hp hlow hhigh, div_lastPlace_scaled, hfloor, Int.cast_natCast]

/-- A magnitude is rounded by rounding its whole part, if at least one digit of that is taken
off. -/
lemma roundedTo_scaled (hp : 0 < p) (hj : 0 < j) (hlow : 10 ^ (p + j - 1) ≤ y)
    (hhigh : y < 10 ^ (p + j)) (s : ℤ) :
    roundedTo p (y * 10 ^ (-s))
      = ((⌊y⌋₊ + 5 * 10 ^ (j - 1)) / 10 ^ j : ℕ) * 10 ^ ((j : ℤ) - s) := by
  have hy : 0 ≤ y := le_trans (by positivity) hlow
  have hhalf : y / (10 ^ j : ℕ) + 1 / 2 = (y + (5 * 10 ^ (j - 1) : ℕ)) / (10 ^ j : ℕ) := by
    obtain ⟨i, rfl⟩ : ∃ i, j = i + 1 := ⟨j - 1, by omega⟩
    rw [Nat.add_sub_cancel, pow_succ]
    push_cast
    field_simp
    ring
  have hfloor : ⌊(y + (5 * 10 ^ (j - 1) : ℕ)) / (10 ^ j : ℕ)⌋
      = ((⌊y⌋₊ + 5 * 10 ^ (j - 1)) / 10 ^ j : ℕ) := by
    rw [← Nat.floor_add_natCast hy, ← Nat.floor_div_natCast,
      Int.natCast_floor_eq_floor (by positivity)]
  rw [roundedTo, lastPlace_scaled hp hlow hhigh, div_lastPlace_scaled, hhalf, hfloor,
    Int.cast_natCast]

end Scaled

/-! ### Numbers of few digits -/

/-- **Rounding leaves numbers of few digits as they are.** -/
lemma roundedTo_of_hasDigits (h : HasDigits p x) : roundedTo p x = x := by
  obtain ⟨n, k, hn, rfl⟩ := h
  obtain rfl | hzero := eq_or_ne n 0
  · simp
  have hten : (0 : ℚ) < 10 ^ k := by positivity
  have habs : |(n : ℚ) * 10 ^ k| = |n| * 10 ^ k := by
    rw [abs_mul, abs_of_pos hten, Int.cast_abs]
  have hlt : Int.log 10 |(n : ℚ) * 10 ^ k| < p + k := by
    rw [← Int.lt_zpow_iff_log_lt (by norm_num) (by positivity), habs]
    calc ((|n| : ℤ) : ℚ) * 10 ^ k < 10 ^ p * 10 ^ k :=
          mul_lt_mul_of_pos_right (by exact_mod_cast hn) hten
      _ = ((10 : ℕ) : ℚ) ^ ((p : ℤ) + k) := by
          rw [← zpow_natCast, ← zpow_add₀ (by norm_num)]
          rfl
  -- The last place is no higher than the place of the last digit.
  obtain ⟨m, hm⟩ : ∃ m : ℕ, k - lastPlace p (n * 10 ^ k) = m :=
    ⟨(k - lastPlace p (n * 10 ^ k)).toNat, by rw [lastPlace]; omega⟩
  have hdiv : (n : ℚ) * 10 ^ k / 10 ^ lastPlace p (n * 10 ^ k) = (n * 10 ^ m : ℤ) := by
    rw [mul_div_assoc, ← zpow_sub₀ (by norm_num), hm]
    push_cast
    rw [zpow_natCast]
  have hfloor : ⌊((n * 10 ^ m : ℤ) : ℚ) + 1 / 2⌋ = n * 10 ^ m := by
    rw [Int.floor_intCast_add]
    norm_num
  rw [roundedTo, hdiv, hfloor, ← hdiv, div_mul_cancel₀ _ (by positivity)]

/-! ### Order -/

/-- A way of taking a number to an integer: it keeps the order, and leaves integers as they are. -/
structure IsRounding (r : ℚ → ℤ) : Prop where
  monotone : Monotone r
  intCast : ∀ n : ℤ, r n = n

lemma isRounding_floor : IsRounding Int.floor := ⟨Int.floor_mono, Int.floor_intCast⟩

lemma isRounding_nearest : IsRounding fun y => ⌊y + 1 / 2⌋ where
  monotone y z hyz := Int.floor_le_floor (by linarith)
  intCast n := by
    rw [Int.floor_intCast_add]
    norm_num

/-- A magnitude taken to a multiple of its last place. -/
def toLastPlace (r : ℚ → ℤ) (p : ℕ) (x : ℚ) : ℚ := r (x / 10 ^ lastPlace p x) * 10 ^ lastPlace p x

section Order

variable {r : ℚ → ℤ} {y : ℚ} {k : ℤ}

/-- A magnitude below a power of ten ends up no larger than this power. -/
lemma toLastPlace_le (hr : IsRounding r) (hx : 0 < x) (hlt : x < 10 ^ (Int.log 10 x + 1)) :
    toLastPlace r p x ≤ 10 ^ (Int.log 10 x + 1) := by
  have hten : (0 : ℚ) < 10 ^ lastPlace p x := by positivity
  have hpower : (10 : ℚ) ^ (Int.log 10 x + 1) = (10 ^ p : ℤ) * 10 ^ lastPlace p x := by
    push_cast
    rw [lastPlace, abs_of_pos hx, ← zpow_natCast, ← zpow_add₀ (by norm_num)]
    congr 1
    omega
  have hle : x / 10 ^ lastPlace p x ≤ (10 ^ p : ℤ) := by
    rw [div_le_iff₀ hten, ← hpower]
    exact hlt.le
  have hrounded : r (x / 10 ^ lastPlace p x) ≤ 10 ^ p := by
    rw [← hr.intCast (10 ^ p)]
    exact hr.monotone hle
  rw [hpower, toLastPlace]
  exact mul_le_mul_of_nonneg_right (by exact_mod_cast hrounded) hten.le

/-- A magnitude that reaches a power of ten still reaches it at its last place. -/
lemma le_toLastPlace (hr : IsRounding r) (hp : 0 < p) (hx : 0 < x)
    (hle : 10 ^ Int.log 10 x ≤ x) : 10 ^ Int.log 10 x ≤ toLastPlace r p x := by
  have hten : (0 : ℚ) < 10 ^ lastPlace p x := by positivity
  have hpower : (10 : ℚ) ^ Int.log 10 x = (10 ^ (p - 1) : ℤ) * 10 ^ lastPlace p x := by
    push_cast
    rw [lastPlace, abs_of_pos hx, ← zpow_natCast, ← zpow_add₀ (by norm_num)]
    congr 1
    omega
  have hge : ((10 ^ (p - 1) : ℤ) : ℚ) ≤ x / 10 ^ lastPlace p x := by
    rw [le_div_iff₀ hten, ← hpower]
    exact hle
  have hrounded : 10 ^ (p - 1) ≤ r (x / 10 ^ lastPlace p x) := by
    rw [← hr.intCast (10 ^ (p - 1))]
    exact hr.monotone hge
  rw [hpower, toLastPlace]
  exact mul_le_mul_of_nonneg_right (by exact_mod_cast hrounded) hten.le

lemma toLastPlace_nonneg (hr : IsRounding r) (hx : 0 ≤ x) : 0 ≤ toLastPlace r p x := by
  have hrounded : 0 ≤ r (x / 10 ^ lastPlace p x) := by
    rw [← hr.intCast 0]
    exact hr.monotone (by positivity)
  rw [toLastPlace]
  exact mul_nonneg (by exact_mod_cast hrounded) (by positivity)

/-- **A larger magnitude ends up no smaller.** Two magnitudes with the same leading place have the
same last place; otherwise a power of ten stands between them, and they end up on either side of
it. -/
lemma toLastPlace_mono (hr : IsRounding r) (hp : 0 < p) (hx : 0 ≤ x) (hxy : x ≤ y) :
    toLastPlace r p x ≤ toLastPlace r p y := by
  obtain rfl | hpos := hx.eq_or_lt
  · have hzero : toLastPlace r p 0 = 0 := by
      have := hr.intCast 0
      simp_all [toLastPlace]
    rw [hzero]
    exact toLastPlace_nonneg hr hxy
  have hypos : 0 < y := hpos.trans_le hxy
  have hlog : Int.log 10 x ≤ Int.log 10 y := Int.log_mono_right hpos hxy
  obtain heq | hlt := hlog.eq_or_lt
  · have hplace : lastPlace p x = lastPlace p y := by
      rw [lastPlace, lastPlace, abs_of_pos hpos, abs_of_pos hypos, heq]
    have hrounded : r (x / 10 ^ lastPlace p y) ≤ r (y / 10 ^ lastPlace p y) :=
      hr.monotone (div_le_div_of_nonneg_right hxy (by positivity))
    rw [toLastPlace, toLastPlace, hplace]
    exact mul_le_mul_of_nonneg_right (by exact_mod_cast hrounded) (by positivity)
  · calc toLastPlace r p x
        ≤ 10 ^ (Int.log 10 x + 1) :=
          toLastPlace_le hr hpos (by exact_mod_cast Int.lt_zpow_succ_log_self (by norm_num) x)
      _ ≤ 10 ^ Int.log 10 y := zpow_le_zpow_right₀ (by norm_num) (by omega)
      _ ≤ toLastPlace r p y :=
          le_toLastPlace hr hp hypos (by exact_mod_cast Int.zpow_log_le_self (by norm_num) hypos)

lemma roundedTo_eq_toLastPlace (p : ℕ) (x : ℚ) :
    roundedTo p x = toLastPlace (fun y => ⌊y + 1 / 2⌋) p x := by
  rw [roundedTo, toLastPlace]

lemma cutTo_eq_toLastPlace (p : ℕ) (x : ℚ) : cutTo p x = toLastPlace Int.floor p x := by
  rw [cutTo, toLastPlace]

lemma roundedTo_mono (hp : 0 < p) (hx : 0 ≤ x) (hxy : x ≤ y) : roundedTo p x ≤ roundedTo p y := by
  simpa only [roundedTo_eq_toLastPlace] using toLastPlace_mono isRounding_nearest hp hx hxy

lemma cutTo_mono (hp : 0 < p) (hx : 0 ≤ x) (hxy : x ≤ y) : cutTo p x ≤ cutTo p y := by
  simpa only [cutTo_eq_toLastPlace] using toLastPlace_mono isRounding_floor hp hx hxy

lemma roundedTo_nonneg (hx : 0 ≤ x) : 0 ≤ roundedTo p x := by
  simpa only [roundedTo_eq_toLastPlace] using toLastPlace_nonneg isRounding_nearest hx

lemma cutTo_nonneg (hx : 0 ≤ x) : 0 ≤ cutTo p x := by
  simpa only [cutTo_eq_toLastPlace] using toLastPlace_nonneg isRounding_floor hx

end Order

end Reckoner
