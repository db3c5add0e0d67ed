import Reckoner.Text.Ranges

/-!
Blank characters, and texts without the blanks around them.

* `Text.blank`: the property `White_Space`;
* `Text.trimmed`: a text without blanks at its ends.
-/

namespace Reckoner.Text

/-- The characters with the property `White_Space`. -/
def blank : Ranges :=
  #[(0x9, 0xD), (0x20, 0x20), (0x85, 0x85), (0xA0, 0xA0), (0x1680, 0x1680),
    (0x2000, 0x200A), (0x2028, 0x2029), (0x202F, 0x202F), (0x205F, 0x205F),
    (0x3000, 0x3000)]

/-- The text without the blanks it starts with. -/
def trimmedStart (cs : List Char) : List Char := cs.dropWhile blank.holds

/-- The text without the blanks it ends with. -/
def trimmedEnd (cs : List Char) : List Char :=
  (cs.reverse.dropWhile blank.holds).reverse

/-- The text without the blanks at its ends. -/
def trimmed (cs : List Char) : List Char := trimmedEnd (trimmedStart cs)

end Reckoner.Text
