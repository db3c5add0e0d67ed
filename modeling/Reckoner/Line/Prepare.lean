/-!
Preparing a line before it is read.

A number literal may carry its own minus sign, so in `5-3` the text `-3` would
be taken for one literal and nothing would stand between `5` and it. A `+` is
therefore put between a digit and a minus sign that has a digit on both sides,
and the power sign `^` is spelled `**`.

* `Line.separateMinus`: every digit-minus-digit, left to right and without
  overlap, becomes digit-plus-minus-digit;
* `Line.spellPower`: the spelling of the power sign;
* `Line.prepare`: both, in this order.
-/

namespace Reckoner.Line

/-- Puts a `+` into every digit-minus-digit. A match uses up both its digits, so
the second minus of `5-3-2` has no digit left on its left side. -/
def separateMinus : List Char → List Char
  | a :: '-' :: b :: rest =>
    if a.isDigit && b.isDigit then
      a :: '+' :: '-' :: b :: separateMinus rest
    else
      a :: separateMinus ('-' :: b :: rest)
  | a :: rest => a :: separateMinus rest
  | [] => []

/-- Spells the power sign `^` as `**`. -/
def spellPower (line : List Char) : List Char :=
  line.flatMap fun c => if c = '^' then ['*', '*'] else [c]

/-- The line as the lexer reads it. -/
def prepare (line : String) : String :=
  String.ofList (spellPower (separateMinus line.toList))

end Reckoner.Line
