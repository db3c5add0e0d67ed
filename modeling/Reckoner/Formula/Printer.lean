import Reckoner.Formula.Basic

/-!
How trees are written.

* `Formula.infixText`: every operator in parentheses between its operands;
* `Formula.postfixText`: operands first, no parentheses.
-/

namespace Reckoner.Formula

/-- The tree with each operator between its operands and in parentheses. -/
def infixText : Formula → String
  | literal value _ => value.text
  | var name _ => name
  | binary op left right _ =>
    "(" ++ left.infixText ++ " " ++ op.symbol ++ " " ++ right.infixText ++ ")"
  | call f argument _ => f.name ++ "(" ++ argument.infixText ++ ")"
  | assign name value _ => name ++ " = " ++ value.infixText
  | empty => ""

/-- The tree with each operator after its operands. -/
def postfixText : Formula → String
  | literal value _ => value.text
  | var name _ => name
  | binary op left right _ =>
    left.postfixText ++ " " ++ right.postfixText ++ " " ++ op.symbol
  | call f argument _ => argument.postfixText ++ " " ++ f.name
  | assign name value _ => name ++ " " ++ value.postfixText ++ " ="
  | empty => ""

end Reckoner.Formula
