import Reckoner.Decimal.Digits

/-!
Decimal numbers as an unscaled integer and a scale.

The number is `unscaled * 10 ^ (-scale)`; a negative scale appends zeros. Two
decimals of different scale may be the same number, and the scale is part of
what is shown, so sums, differences and products say which scale they have.

A scale is a signed 64-bit word, and arithmetic on scales wraps around. Powers
of ten are therefore formed only where the result has that many digits: zero
stays zero at any scale, and numbers whose leading digits stand at different
places are told apart by these places.

* `Decimal`: the type, with `ofInt`, `neg`, `abs`;
* `Decimal.unscaledAt`: the unscaled integer at a larger scale;
* `Decimal.add`, `Decimal.sub`, `Decimal.mul`: exact arithmetic;
* `Decimal.cmp`: the order of the numbers, whatever their scales.
-/

namespace Reckoner

/-- The decimal number `unscaled * 10 ^ (-scale)`. -/
structure Decimal where
  unscaled : Int
  scale : Int64
deriving DecidableEq

namespace Decimal

/-- A whole number, at scale zero. -/
def ofInt (n : Int) : Decimal := ⟨n, 0⟩

/-- The number with its sign turned, at the same scale. -/
def neg (a : Decimal) : Decimal := ⟨-a.unscaled, a.scale⟩

/-- The number without its sign, at the same scale. -/
def abs (a : Decimal) : Decimal := ⟨a.unscaled.natAbs, a.scale⟩

/-- The unscaled integer of `a` when it is written at scale `s`, for `s` at
least its own scale. -/
def unscaledAt (a : Decimal) (s : Int64) : Int :=
  if a.unscaled = 0 then 0
  else a.unscaled * Int.pow 10 (s.toInt - a.scale.toInt).toNat

/-- The scale at which both `a` and `b` can be written. -/
def commonScale (a b : Decimal) : Int64 :=
  if a.scale < b.scale then b.scale else a.scale

/-! ### Exact arithmetic -/

/-- The sum, at the larger of the two scales, zero operands included. -/
def add (a b : Decimal) : Decimal :=
  let s := commonScale a b
  ⟨a.unscaledAt s + b.unscaledAt s, s⟩

/-- The difference. Taking zero away leaves `a` as it is, and taking `b` from
zero leaves `b` with its sign turned; else the scale is the larger one. -/
def sub (a b : Decimal) : Decimal :=
  if b.unscaled = 0 then a
  else if a.unscaled = 0 then b.neg
  else
    let s := commonScale a b
    ⟨a.unscaledAt s - b.unscaledAt s, s⟩

/-- The largest scale at which a number is recognised as one. -/
def oneScaleLimit : Int64 := 38

/-- Whether `a` is recognised as one: `1`, `1.0`, `1.00` and so on, up to
`oneScaleLimit` places. -/
def isOne (a : Decimal) : Bool :=
  0 ≤ a.scale && a.scale ≤ oneScaleLimit &&
    a.unscaled == Int.pow 10 a.scale.toInt.toNat

/-- The product. A factor recognised as one leaves the other as it is; else the
scales add up. -/
def mul (a b : Decimal) : Decimal :=
  if a.isOne then b
  else if b.isOne then a
  else ⟨a.unscaled * b.unscaled, a.scale + b.scale⟩

/-! ### Order -/

/-- The place of the leading digit: a nonzero number of leading place `l` has a
magnitude from `10 ^ (l - 1)` up and below `10 ^ l`. -/
def leadingPlace (a : Decimal) : Int :=
  digitCount a.unscaled.natAbs - a.scale.toInt

/-- The order of the unscaled integers at the larger scale. -/
def cmpAligned (a b : Decimal) : Ordering :=
  compare (a.unscaledAt (commonScale a b)) (b.unscaledAt (commonScale a b))

/-- The order of the two numbers. Signs decide first, then leading places, and
only then the digits. -/
def cmp (a b : Decimal) : Ordering :=
  if a.unscaled = 0 ∨ a.unscaled.sign ≠ b.unscaled.sign then
    compare a.unscaled.sign b.unscaled.sign
  else if a.leadingPlace = b.leadingPlace then cmpAligned a b
  else if 0 < a.unscaled then compare a.leadingPlace b.leadingPlace
  else compare b.leadingPlace a.leadingPlace

/-- Whether the two are the same number. -/
def same (a b : Decimal) : Bool := a.cmp b == .eq

end Decimal

end Reckoner
