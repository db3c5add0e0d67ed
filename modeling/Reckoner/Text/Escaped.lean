import Reckoner.Text.GraphemeExtend
import Reckoner.Text.Unprintable

/-!
How a character is quoted in a message.

* `Text.hex`: lower-case hexadecimal digits without leading zeros;
* `Text.escaped`: the character itself if it shows, a short escape for the usual
  controls, quotes and the backslash, and else its code point in braces.
-/

namespace Reckoner.Text

/-- The hexadecimal digits of `n`. -/
def hex (n : Nat) : String := String.ofList (Nat.toDigits 16 n)

/-- The escape that names a code point. -/
def codePointEscape (c : Char) : String :=
  "\\u\x7b" ++ hex c.toNat ++ "\x7d"

/-- The quoted form of a character. -/
def escaped (c : Char) : String :=
  match c with
  | '\x00' => "\\0"
  | '\t' => "\\t"
  | '\r' => "\\r"
  | '\n' => "\\n"
  | '\x27' => "\\\x27"
  | '\x22' => "\\\x22"
  | '\x5c' => "\\\\"
  | _ =>
    if graphemeExtend.holds c || unprintable.holds c then codePointEscape c
    else c.toString

end Reckoner.Text
