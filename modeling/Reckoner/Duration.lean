/-!
How long something took, in seconds with two places.

* `roundHalfEven`: the whole number nearest to a fraction, a tie going to the
  even one;
* `Duration.hundredths`: the hundredths of a second that stand for so many
  milliseconds, counted in single precision;
* `Duration.text`: the text shown.
-/

namespace Reckoner

/-- The whole number nearest to `num / den`; of two equally near ones the
even one. -/
def roundHalfEven (num den : Nat) : Nat :=
  let quotient := num / den
  let twice := 2 * (num % den)
  if twice < den then quotient
  else if den < twice then quotient + 1
  else quotient + quotient % 2

namespace Duration

/-- A single-precision number of seconds in whole hundredths, rounded from its
exact value. -/
def hundredthsOf (seconds : Float32) : Nat :=
  let bits := seconds.toBits.toNat
  let fraction : Nat := bits % Nat.pow 2 23
  let biased : Nat := bits / Nat.pow 2 23 % Nat.pow 2 8
  let mantissa := if biased = 0 then fraction else fraction + Nat.pow 2 23
  let exponent : Int := (max biased 1 : Nat) - 150
  roundHalfEven (mantissa * 100 * Nat.pow 2 exponent.toNat) (Nat.pow 2 (-exponent).toNat)

/-- Milliseconds in hundredths of a second. -/
def hundredths (milliseconds : Nat) : Nat :=
  hundredthsOf (Float32.ofNat milliseconds / 1000.0)

/-- The text of a duration. -/
def text (milliseconds : Nat) : String :=
  let n := hundredths milliseconds
  let places := toString (n % 100)
  toString (n / 100) ++ "." ++ (if n % 100 < 10 then "0" else "") ++ places ++
    "s"

end Duration

end Reckoner
