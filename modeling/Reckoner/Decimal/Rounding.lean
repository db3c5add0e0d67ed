import Reckoner.Decimal.Basic

/-!
Rounding a decimal to a number of significant digits, and its shortest form.

* `Decimal.withDigits`: exactly `p` significant digits. Digits beyond the `p`th
  are cut off; a positive number then goes up when the first digit cut off is
  five or more, a negative one is left cut off;
* `Decimal.stripped`: no trailing zero in the unscaled integer;
* `Decimal.trimmed`: the same, but never at a negative scale.
-/

namespace Reckoner.Decimal

/-- Whether cutting `places` digits with remainder `r` calls for one unit more.
The remainder carries the sign of the number, and a negative one never does. -/
def roundsUp (places : Nat) (r : Int) : Bool := Int.pow 10 places ≤ 2 * r

/-- The number to `p` significant digits, with zeros appended when it has
fewer. A carry may leave `p + 1` digits. -/
def withDigits (a : Decimal) (p : Nat) : Decimal :=
  let n := digitCount a.unscaled.natAbs
  if p < n then
    let places := n - p
    let quotient := a.unscaled.tdiv (Int.pow 10 places)
    let remainder := a.unscaled.tmod (Int.pow 10 places)
    ⟨if roundsUp places remainder then quotient + 1 else quotient,
      a.scale - .ofNat places⟩
  else if n < p then
    ⟨a.unscaled * Int.pow 10 (p - n), a.scale + .ofNat (p - n)⟩
  else a

/-- Strips the trailing zeros of a nonzero `u` and lowers the scale by their
number. -/
def stripZeros (u : Int) (s : Int64) : Decimal :=
  if _h : u ≠ 0 ∧ u.tmod 10 = 0 then stripZeros (u.tdiv 10) (s - 1) else ⟨u, s⟩
termination_by u.natAbs
decreasing_by
  have : (u.tdiv 10).natAbs = u.natAbs / 10 := Int.natAbs_tdiv u 10
  omega

/-- The number without trailing zeros; zero is at scale zero. -/
def stripped (a : Decimal) : Decimal :=
  if a.unscaled = 0 then ⟨0, 0⟩ else stripZeros a.unscaled a.scale

/-- The number without trailing zeros after the point and at no negative
scale. -/
def trimmed (a : Decimal) : Decimal :=
  let b := a.stripped
  if b.scale < 0 then ⟨b.unscaledAt 0, 0⟩ else b

end Reckoner.Decimal
