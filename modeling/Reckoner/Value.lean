import Reckoner.Binary64.Approximation
import Reckoner.Binary64.Text
import Reckoner.Formula.Basic

/-!
What lines evaluate to.

* `Value`: whole numbers, decimals, reals, truth values, texts, and nothing;
* `Kind`: the kinds of values, as messages name them;
* `Value.shown`: the text shown for a value;
* `Value.toDecimal?`, `Value.toFloat?`: the number that a value is, exactly or
  as a double.
-/

namespace Reckoner

/-- The value of a line. -/
inductive Value where
  | integer (value : Int)
  | decimal (value : Decimal)
  | real (value : Float)
  | boolean (value : Bool)
  | text (value : String)
  | nothing
deriving DecidableEq

/-- The kinds of values. -/
inductive Kind where
  | integer
  | decimal
  | real
  | boolean
  | text
  | nothing
deriving DecidableEq

/-- How a kind is named in a message. -/
def Kind.name : Kind → String
  | integer => "integer"
  | decimal => "decimal"
  | real => "real number"
  | boolean => "boolean"
  | text => "text"
  | nothing => "nothing"

namespace Value

/-- The kind of a value. -/
def kind : Value → Kind
  | integer _ => .integer
  | decimal _ => .decimal
  | real _ => .real
  | boolean _ => .boolean
  | text _ => .text
  | nothing => .nothing

/-- Whether a value is a number of any kind. -/
def isNumber : Value → Bool
  | integer _ | decimal _ | real _ => true
  | boolean _ | text _ | nothing => false

/-- The text shown for a value. -/
def shown : Value → String
  | integer value => integerText value
  | decimal value => value.text
  | real value => Binary64.text value
  | boolean value => if value then "true" else "false"
  | text value => value
  | nothing => ""

/-- The value of a literal. -/
def ofLiteral : Literal → Value
  | .int value => integer value
  | .decimal value => decimal value

/-- The exact number that a value is. -/
def toDecimal? : Value → Option Decimal
  | integer value => some (.ofInt value)
  | decimal value => some value
  | _ => none

/-- The double that a number is or is nearest to. -/
def toFloat? : Value → Option Float
  | integer value => some (Float.ofInt value)
  | decimal value => some value.toFloat
  | real value => some value
  | _ => none

end Value

end Reckoner
