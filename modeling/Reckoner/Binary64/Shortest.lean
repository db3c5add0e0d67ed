import Reckoner.Decimal.Rounding

/-!
The shortest decimal that reads back as a given double.

A finite double is `m * 2 ^ q`. The real numbers that round to it fill the
interval between the midpoints to its two neighbours, ends included exactly for
even `m`. All comparisons are made between natural numbers: a point `c * 10 ^ g`
of a decimal grid and a point `k * 2 ^ q` are multiplied by what clears both
denominators.

* `Binary64.Magnitude`: the `m` and `q` of a double, without its sign;
* `Binary64.Magnitude.readsBack`: whether a decimal lies in the interval;
* `Binary64.Magnitude.shortest`: the first grid, from the coarsest on, on which
  one of the two neighbours of the double lies in the interval; of two such
  neighbours the nearer, and the upper one in a tie;
* `Binary64.shortest`: the same for a double with its sign.
-/

namespace Reckoner.Binary64

/-- The magnitude `mantissa * 2 ^ exponent` of a finite double. -/
structure Magnitude where
  mantissa : Nat
  exponent : Int

/-- The exponent of the smallest doubles. -/
def minExponent : Int := -1074

/-- The magnitude of a finite double, read off its bits. -/
def magnitude (x : Float) : Magnitude :=
  let bits := x.toBits.toNat
  let fraction : Nat := bits % Nat.pow 2 52
  let biased : Nat := bits / Nat.pow 2 52 % Nat.pow 2 11
  if biased = 0 then ⟨fraction, minExponent⟩
  else ⟨fraction + Nat.pow 2 52, (biased : Int) - 1 + minExponent⟩

/-- Whether the sign bit of a double is set. -/
def isNegative (x : Float) : Bool := x.toBits.toNat / Nat.pow 2 63 == 1

namespace Magnitude

/-- The exponent of the unit in which the midpoints are whole: a quarter of the
last place. -/
def quarter (v : Magnitude) : Int := v.exponent - 2

/-- The factor that carries points of the grid `10 ^ g` to the common scale. -/
def gridFactor (v : Magnitude) (g : Int) : Nat :=
  Nat.pow 10 g.toNat * Nat.pow 2 (-v.quarter).toNat

/-- The factor that carries quarters of the last place to the common scale. -/
def quarterFactor (v : Magnitude) (g : Int) : Nat :=
  Nat.pow 2 v.quarter.toNat * Nat.pow 10 (-g).toNat

/-- The magnitude in quarters of its last place. -/
def centre (v : Magnitude) : Nat := 4 * v.mantissa

/-- The lower end of the interval, in quarters. The neighbour below a power of
two is half as far away. -/
def lower (v : Magnitude) : Nat :=
  v.centre - if v.mantissa = Nat.pow 2 52 ∧ minExponent < v.exponent then 1 else 2

/-- The upper end of the interval, in quarters. -/
def upper (v : Magnitude) : Nat := v.centre + 2

/-- Whether the decimal `c * 10 ^ g` rounds to the double. -/
def readsBack (v : Magnitude) (c : Nat) (g : Int) : Bool :=
  let point := c * v.gridFactor g
  let low := v.lower * v.quarterFactor g
  let high := v.upper * v.quarterFactor g
  if v.mantissa % 2 = 0 then low ≤ point && point ≤ high
  else low < point && point < high

/-- The point of the grid `10 ^ g` just below the double, or at it. -/
def below (v : Magnitude) (g : Int) : Nat :=
  v.centre * v.quarterFactor g / v.gridFactor g

/-- The neighbour of the double on the grid `10 ^ g` that reads back, the nearer
one if both do, and the upper one if they are equally near. -/
def onGrid (v : Magnitude) (g : Int) : Option Nat :=
  let c := v.below g
  let exact := v.centre * v.quarterFactor g
  match v.readsBack c g, v.readsBack (c + 1) g with
  | true, true =>
    if exact - c * v.gridFactor g < (c + 1) * v.gridFactor g - exact then some c
    else some (c + 1)
  | true, false => some c
  | false, true => some (c + 1)
  | false, false => none

/-- The exponent of the leading decimal digit. -/
def leadingExponent (v : Magnitude) : Int :=
  let whole := v.mantissa * Nat.pow 2 v.exponent.toNat / Nat.pow 2 (-v.exponent).toNat
  if whole = 0 then -digitCount (Nat.pow 2 (-v.exponent).toNat / v.mantissa)
  else digitCount whole - 1

/-- The most digits that are ever needed. -/
def maxDigits : Nat := 17

/-- Tries the grid `10 ^ g` and, as long as `n` lasts, the finer ones. -/
def search (v : Magnitude) : Nat → Int → Decimal
  | 0, g => ⟨v.below g, .ofInt (-g)⟩
  | n + 1, g =>
    match v.onGrid g with
    | some c => ⟨c, .ofInt (-g)⟩
    | none => search v n (g - 1)

/-- The shortest decimal that reads back, the nearest of those, without
trailing zeros. -/
def shortest (v : Magnitude) : Decimal :=
  if v.mantissa = 0 then ⟨0, 0⟩
  else (search v maxDigits v.leadingExponent).stripped

end Magnitude

/-- The shortest decimal that reads back as the finite double `x`. -/
def shortest (x : Float) : Decimal :=
  let d := (magnitude x).shortest
  if isNegative x then d.neg else d

end Reckoner.Binary64
