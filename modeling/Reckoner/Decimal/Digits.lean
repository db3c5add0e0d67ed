/-!
The decimal digits of whole numbers.

A number is cut in two halves of equally many digits until single digits are
left, so that long numbers are written with few long divisions.

* `digits`: the digits of a natural number, the leading one first;
* `digitCount`: how many there are;
* `integerText`: an integer as a sign and its digits.
-/

namespace Reckoner

/-! ### Digits -/

/-- The last `2 ^ k` digits of `n`, for `n` with no more than these, in front of
`tail`. -/
def prependDigits : Nat → Nat → List Char → List Char
  | 0, n, tail => n.digitChar :: tail
  | k + 1, n, tail =>
    let half := Nat.pow 10 (Nat.pow 2 k)
    prependDigits k (n / half) (prependDigits k (n % half) tail)

/-- How often `n` is cut in two halves: it has no more than `2 ^ halvings n`
digits. -/
def halvings (n : Nat) : Nat := (n.log2 / 3 + 1).log2 + 1

/-- The digits of `n`; zero has one. -/
def digits (n : Nat) : List Char :=
  match (prependDigits (halvings n) n []).dropWhile (· == '0') with
  | [] => ['0']
  | ds => ds

/-- The number of decimal digits of `n`; zero has one. -/
def digitCount (n : Nat) : Nat := (digits n).length

/-- The sign written before a number. -/
def signText (n : Int) : String := if n < 0 then "-" else ""

/-- The text of an integer. -/
def integerText (n : Int) : String :=
  signText n ++ String.ofList (digits n.natAbs)

end Reckoner
