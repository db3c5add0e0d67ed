/-!
Sets of characters given by ranges of code points.

* `Ranges`: inclusive ranges in ascending order;
* `Ranges.holds`: whether a character lies in one of them.
-/

namespace Reckoner.Text

/-- Inclusive ranges of code points, in ascending order. -/
abbrev Ranges : Type := Array (Nat × Nat)

/-- Whether a character lies in one of the ranges. -/
def Ranges.holds (rs : Ranges) (c : Char) : Bool :=
  rs.any fun r => r.1 ≤ c.toNat && c.toNat ≤ r.2

end Reckoner.Text
