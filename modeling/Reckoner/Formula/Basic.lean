import Reckoner.Token.Basic

/-!
What a line says, as a tree.

* `Literal`: a number as it was written;
* `Formula`: literals, variables, operators, function calls, assignments, and
  the empty line;
* `Formula.span`: the stretch of source a tree was read from;
* `Formula.combine`: two trees under an operator, at the stretch that covers
  both.
-/

namespace Reckoner

/-- A number as it was written. -/
inductive Literal where
  | int (value : Int)
  | decimal (value : Decimal)
deriving DecidableEq

namespace Literal

/-- The text of a literal. -/
def text : Literal → String
  | int value => integerText value
  | decimal value => value.text

/-- The literal that a token is, if it is one. -/
def ofToken? : Token → Option Literal
  | .int value => some (int value)
  | .decimal value => some (decimal value)
  | _ => none

end Literal

/-- The tree of a line. Parentheses leave no trace in it. -/
inductive Formula where
  | literal (value : Literal) (span : Span)
  | var (name : String) (span : Span)
  | binary (op : Operator) (left right : Formula) (span : Span)
  | call (f : RealFunction) (argument : Formula) (span : Span)
  | assign (name : String) (value : Formula) (span : Span)
  | empty
deriving DecidableEq

namespace Formula

/-- The stretch of source that a tree was read from. -/
def span : Formula → Span
  | literal _ span | var _ span | binary _ _ _ span | call _ _ span
  | assign _ _ span => span
  | empty => .origin

/-- Two trees under an operator. -/
def combine (op : Operator) (left right : Formula) : Formula :=
  binary op left right (left.span.join right.span)

end Formula

end Reckoner
