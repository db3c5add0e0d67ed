import Reckoner.Text.GraphemeExtend
import Reckoner.Text.Invisible
import Reckoner.Text.Wide

/-!
How many columns of a terminal a character takes.

* `Text.width`: none for controls and marks, two for wide characters, else one;
* `Text.tabWidth`, `Text.widthAt`: a tab reaches to the next tab stop.
-/

namespace Reckoner.Text

/-- The columns that a character other than a tab takes. -/
def width (c : Char) : Nat :=
  if c.toNat < 0x20 then 0
  else if c.toNat < 0x7f then 1
  else if c.toNat < 0xa0 then 0
  else if graphemeExtend.holds c || invisible.holds c then 0
  else if wide.holds c then 2
  else 1

/-- The distance of tab stops. -/
def tabWidth : Nat := 4

/-- The columns that a character takes when it starts at a column. -/
def widthAt (column : Nat) (c : Char) : Nat :=
  if c = '\t' then tabWidth - column % tabWidth else width c

end Reckoner.Text
