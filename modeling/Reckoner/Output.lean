import Reckoner.Value

/-!
What is shown for the value of a line.

Numbers strictly between one and a million in magnitude are shown in fixed
notation, without an exponent; every other value as it is.

* `Output`: a fixed decimal, or a value;
* `Output.ofValue`: the output for a value;
* `Output.text`: its text.
-/

namespace Reckoner

/-- What is shown for a value. -/
inductive Output where
  | fixed (value : Decimal)
  | plain (value : Value)
deriving DecidableEq

namespace Output

/-- Numbers up to this magnitude are not shown in fixed notation. -/
def lowerBound : Int := 1

/-- Numbers from this magnitude up are not shown in fixed notation. -/
def upperBound : Int := 1000000

/-- Whether a decimal is shown in fixed notation. -/
def inFixedRange (a : Decimal) : Bool :=
  a.abs.cmp (.ofInt lowerBound) == .gt && a.abs.cmp (.ofInt upperBound) == .lt

/-- Whether a real number is shown in fixed notation. -/
def realInFixedRange (x : Float) : Bool :=
  x.abs > Float.ofInt lowerBound && x.abs < Float.ofInt upperBound

/-- The output for an exact number. -/
def ofExact (value : Value) (a : Decimal) : Output :=
  if inFixedRange a then fixed a else plain value

/-- The output for a value. A real number is fixed at the decimal with the
fewest digits that reads back as it. -/
def ofValue (value : Value) : Output :=
  match value with
  | .integer n => ofExact value (.ofInt n)
  | .decimal a => ofExact value a
  | .real x =>
    if realInFixedRange x then fixed (Binary64.shortest x).trimmed
    else plain value
  | _ => plain value

/-- Whether the output is in fixed notation. -/
def isFixed : Output → Bool
  | fixed _ => true
  | plain _ => false

/-- The text of an output. -/
def text : Output → String
  | fixed a => a.plainText
  | plain value => value.shown

end Output

end Reckoner
