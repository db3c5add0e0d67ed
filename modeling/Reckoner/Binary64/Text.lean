import Reckoner.Binary64.Shortest
import Reckoner.Decimal.Text

/-!
How doubles are written and read.

* `Binary64.plainText`: the shortest digits in positional notation;
* `Binary64.exponentText`: the same digits with an exponent;
* `Binary64.text`: the form shown to users, with an exponent from `1e16` up and
  below `1e-4`;
* `Binary64.ofText?`: reads any of these.
-/

namespace Reckoner.Binary64

/-- From this magnitude up a double is shown with an exponent. -/
def exponentFrom : Float := 1e16

/-- Below this magnitude a double is shown with an exponent. -/
def exponentBelow : Float := 1e-4

/-- The texts of the doubles that are no real numbers. -/
def specialText (x : Float) : Option String :=
  if x.isNaN then some "NaN"
  else if x.isFinite then none
  else if isNegative x then some "-inf"
  else some "inf"

/-- The sign and the shortest digits, without an exponent. -/
def plainText (x : Float) : String :=
  match specialText x with
  | some s => s
  | none =>
    (if isNegative x then "-" else "") ++ (magnitude x).shortest.plainText

/-- The sign and the shortest digits, one of them before the point, and the
exponent. -/
def exponentText (x : Float) : String :=
  match specialText x with
  | some s => s
  | none =>
    let d := (magnitude x).shortest
    let ds := digits d.unscaled.natAbs
    let mantissa := match ds with
      | a :: b :: more => a :: '.' :: b :: more
      | short => short
    (if isNegative x then "-" else "") ++ String.ofList mantissa ++ "e" ++
      toString ((ds.length : Int) - 1 - d.scale.toInt)

/-- The text shown for a double. -/
def text (x : Float) : String :=
  let a := x.abs
  if a != 0.0 && (a >= exponentFrom || a < exponentBelow) then exponentText x
  else plainText x

/-! ### Reading -/

/-- The whole number that a text of digits spells. -/
def ofDigits? (cs : List Char) : Option Nat :=
  if !cs.isEmpty && cs.all Char.isDigit then some (Nat.ofDigitChars 10 cs 0)
  else none

/-- The whole number that a text of digits with an optional sign spells. -/
def signedOfDigits? : List Char → Option Int
  | '-' :: cs => (ofDigits? cs).map fun n => -(n : Int)
  | '+' :: cs => (ofDigits? cs).map fun n => (n : Int)
  | cs => (ofDigits? cs).map fun n => (n : Int)

/-- The exponent that stands after the letter `e`, or zero if nothing does. -/
def exponentOfText? : List Char → Option Int
  | [] => some 0
  | c :: cs => if c.toLower = 'e' then signedOfDigits? cs else none

/-- Reads digits, a point and an exponent, all but some digit optional. -/
def unsignedOfText? (cs : List Char) : Option Float := do
  let whole := cs.takeWhile Char.isDigit
  let afterWhole := cs.dropWhile Char.isDigit
  let (fraction, rest) := match afterWhole with
    | '.' :: more => (more.takeWhile Char.isDigit, more.dropWhile Char.isDigit)
    | more => ([], more)
  guard (!(whole.isEmpty && fraction.isEmpty))
  let exponent := (← exponentOfText? rest) - fraction.length
  return Float.ofScientific (Nat.ofDigitChars 10 (whole ++ fraction) 0)
    (exponent < 0) exponent.natAbs

/-- Reads a magnitude, infinity and the missing number included. -/
def magnitudeOfText? (cs : List Char) : Option Float :=
  let name := String.ofList (cs.map Char.toLower)
  if name == "nan" then some (0.0 / 0.0)
  else if name == "inf" || name == "infinity" then some (1.0 / 0.0)
  else unsignedOfText? cs

/-- Reads a double. -/
def ofText? (s : String) : Option Float :=
  match s.toList with
  | '-' :: cs => (magnitudeOfText? cs).map fun x => -x
  | '+' :: cs => magnitudeOfText? cs
  | cs => magnitudeOfText? cs

end Reckoner.Binary64
