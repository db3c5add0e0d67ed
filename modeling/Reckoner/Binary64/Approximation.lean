import Reckoner.Decimal.Basic

/-!
The double that stands for an exact number.

A whole number goes to the nearest double. Any other decimal first loses digits
that cannot matter, nineteen at a time; what is left is read as a decimal text
if it has places after the point, and else is multiplied by a power of ten. A
scale that is no 32-bit exponent, however small the number, makes it infinite.

* `bitLength`: how many binary digits a natural number has;
* `Decimal.approximateDigits`, `Decimal.blocksToCut`: how much is cut;
* `Binary64.pow`: whole powers by repeated squaring;
* `Decimal.isExponent`: which scales are exponents;
* `Decimal.toFloat`: the double of a decimal.
-/

namespace Reckoner

/-- The number of binary digits of `n`; zero has none. -/
def bitLength (n : Nat) : Nat := if n = 0 then 0 else n.log2 + 1

namespace Binary64

/-- The positive infinite double. -/
def infinity : Float := 1.0 / 0.0

/-- Multiplies `acc` by `base ^ n`: one squaring for each binary digit of `n`,
and one multiplication for each that is one. -/
def powLoop (acc base : Float) (n : Nat) : Float :=
  let acc := if n % 2 = 1 then acc * base else acc
  if _h : n / 2 = 0 then acc else powLoop acc (base * base) (n / 2)
termination_by n

/-- The power `base ^ n`, rounded at every step. -/
def pow (base : Float) (n : Nat) : Float := powLoop 1.0 base n

end Binary64

namespace Decimal

/-- The digits that are always kept. -/
def keptDigits : Nat := 25

/-- The digits that are cut at a time. -/
def blockDigits : Nat := 19

/-- An estimate of the number of decimal digits from the number of binary ones:
the whole part of `(bitLength n + 1) * log 2`, to base ten. -/
def approximateDigits (n : Nat) : Nat :=
  digitCount (Nat.pow 2 (bitLength n + 1)) - 1

/-- The number of whole blocks beyond the digits that are kept. -/
def blocksToCut (n : Nat) : Nat := (approximateDigits n - keptDigits) / blockDigits

/-- Whether a scale and its negation are signed 32-bit words. -/
def isExponent (scale : Int) : Bool := -Int.pow 2 31 < scale && scale < Int.pow 2 31

/-- The double of the magnitude `n * 10 ^ (-scale)`, `n` after the cut. -/
def magnitudeToFloat (n : Nat) (scale : Int) : Float :=
  if !isExponent scale then Binary64.infinity
  else if 0 < scale then Float.ofScientific n true scale.toNat
  else Float.ofNat n * Binary64.pow 10.0 (-scale).toNat

/-- The double that stands for a decimal; infinite if the number is too large or
its scale is no exponent. -/
def toFloat (a : Decimal) : Float :=
  if a.unscaled = 0 then 0.0
  else if a.scale = 0 then Float.ofInt a.unscaled
  else
    let n := a.unscaled.natAbs
    let cut := blockDigits * blocksToCut n
    let magnitude := magnitudeToFloat (n / Nat.pow 10 cut) (a.scale.toInt - cut)
    if a.unscaled < 0 then -magnitude else magnitude

end Decimal

end Reckoner
