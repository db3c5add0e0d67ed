import Reckoner.Decimal.Rounding

/-!
Division of decimals to a number of significant digits.

The numerator is scaled up by so many places that the whole quotient has at
least two digits more than asked for. A remainder is remembered as one more
digit, a one, so that the rounding that follows never sees a false tie.

* `Decimal.shift`: the number of places, as a signed 64-bit word;
* `Decimal.scalingPlaces`: the places that the numerator is scaled by, a 32-bit
  word;
* `Decimal.div`: the rounded and trimmed quotient.
-/

namespace Reckoner.Decimal

/-- How many places `num` has to be scaled up, in signed 64-bit arithmetic and
never below zero. -/
def shift (precision : UInt64) (num den : Int) : Int64 :=
  let places := precision.toInt64 + .ofNat (digitCount den.natAbs)
    - .ofNat (digitCount num.natAbs) + 2
  if places < 0 then 0 else places

/-- The number of places that the numerator is scaled by: the shift as a 32-bit
word. -/
def scalingPlaces (shift : Int64) : Nat := shift.toInt.toNat % UInt32.size

/-- The digit that stands for a nonzero remainder, with the quotient's sign. -/
def sticky (num den : Int) : Int :=
  if decide (num < 0) != decide (den < 0) then -1 else 1

/-- The quotient `a / b` to `precision` significant digits, at least one, without
trailing zeros after the point. It is asked for nonzero `b` only. -/
def div (a b : Decimal) (precision : UInt64) : Decimal :=
  let precision := max precision 1
  let places := shift precision a.unscaled b.unscaled
  let scaled := a.unscaled * Int.pow 10 (scalingPlaces places)
  let quotient := scaled.tdiv b.unscaled
  let scale := a.scale - b.scale + places
  let exact :=
    if scaled.tmod b.unscaled = 0 then ⟨quotient, scale⟩
    else ⟨quotient * 10 + sticky a.unscaled b.unscaled, scale + 1⟩
  (withDigits exact precision.toNat).trimmed

end Reckoner.Decimal
