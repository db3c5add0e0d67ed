import Reckoner.Decimal.Basic

/-!
How decimals are written.

* `Decimal.plainText`: without exponent, whatever the size;
* `Decimal.exponentText`: one digit before the point and an exponent;
* `Decimal.text`: the form shown to users: plain unless more than five zeros
  would follow the point or more than fifteen would have to be appended;
* `Decimal.ofDigits`: the number that a literal spells;
* `limbs`: the 64-bit words of a natural number, least significant first.
-/

namespace Reckoner

/-- The words of `n` in base `2 ^ 64`, least significant first; none for zero. -/
def limbs (n : Nat) : List Nat :=
  if _h : n = 0 then [] else n % UInt64.size :: limbs (n / UInt64.size)
termination_by n
decreasing_by exact Nat.div_lt_self (Nat.pos_of_ne_zero _h) (by decide)

namespace Decimal

/-- More zeros than this after the point call for an exponent. -/
def leadingZeroLimit : Int := 5

/-- More zeros than this to append call for an exponent. -/
def appendedZeroLimit : Int := 15

/-- Writes digits with a point before the last `places` of them, after as many
zeros as that needs. -/
def pointed (ds : List Char) (places : Nat) : String :=
  let padded := List.replicate (places + 1 - ds.length) '0' ++ ds
  let whole := padded.length - places
  String.ofList (padded.take whole ++ '.' :: padded.drop whole)

/-- The number in positional notation. All places of its scale are written. -/
def plainText (a : Decimal) : String :=
  let ds := digits a.unscaled.natAbs
  signText a.unscaled ++
    if 0 < a.scale.toInt then pointed ds a.scale.toInt.toNat
    else if a.unscaled = 0 then "0"
    else String.ofList (ds ++ List.replicate (-a.scale.toInt).toNat '0')

/-- The number as one digit, the others behind a point, and an exponent. -/
def exponentText (a : Decimal) : String :=
  let ds := digits a.unscaled.natAbs
  let exponent : Int := (ds.length : Int) - 1 - a.scale.toInt
  let mantissa := match ds with
    | d :: e :: more => d :: '.' :: e :: more
    | short => short
  signText a.unscaled ++ String.ofList mantissa ++ "E" ++
    (if exponent < 0 then "-" else "+") ++ toString exponent.natAbs

/-- The text shown for the number. Zero is written `0` at every scale. -/
def text (a : Decimal) : String :=
  if a.unscaled = 0 then "0"
  else if leadingZeroLimit < -a.leadingPlace then
    a.exponentText
  else if appendedZeroLimit < -a.scale.toInt then
    integerText a.unscaled ++ "e+" ++ toString (-a.scale.toInt)
  else a.plainText

/-- The number spelled by the digits before and after a point. -/
def ofDigits (negative : Bool) (whole fraction : List Char) : Decimal :=
  let n : Int := Nat.ofDigitChars 10 (whole ++ fraction) 0
  ⟨if negative then -n else n, .ofNat fraction.length⟩

end Decimal

end Reckoner
