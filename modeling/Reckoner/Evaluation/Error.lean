import Reckoner.Token.Lexer
import Reckoner.Value

/-!
What can go wrong in an evaluation.

* `EvalCause`: the causes, the two misuses of an operator included;
* `EvalCause.details`, `EvalCause.hint`: their messages;
* `EvalError`: a cause and the place it is blamed on.
-/

namespace Reckoner

/-- The causes of an evaluation error. The last two arise only where arithmetic
is asked of a comparison sign, or the other way round. -/
inductive EvalCause where
  | undefinedVariable (name : String)
  | divisionByZero
  | sqrtOfNegative
  | logarithmDomain
  | powerDomain
  | overflow (operation : String)
  | notANumber (found : Kind)
  | notArithmetic (op : Operator)
  | notAComparison (op : Operator)
deriving DecidableEq

namespace EvalCause

/-- Whether the cause is a name that stands for nothing. -/
def isNameError : EvalCause → Bool
  | undefinedVariable _ => true
  | _ => false

/-- What is said of code that should not have been reached. -/
def unreachable (reason : String) : Details :=
  ⟨"internal error: entered unreachable code: " ++ reason, []⟩

/-- The message of an evaluation error. -/
def details : EvalCause → Details
  | undefinedVariable name =>
    ⟨"Undefined variable", ["`" ++ name ++ "` has no value set"]⟩
  | divisionByZero => ⟨"Division by zero", []⟩
  | sqrtOfNegative =>
    ⟨"Square root of a negative number", ["Results must be real numbers"]⟩
  | logarithmDomain =>
    ⟨"Logarithm of a non-positive number",
      ["`log` is only defined for numbers greater than zero"]⟩
  | powerDomain =>
    ⟨"Power has no real result", ["A negative base needs a whole exponent"]⟩
  | overflow operation =>
    ⟨"Result is too large",
      ["`" ++ operation ++ "` overflowed the range of real numbers"]⟩
  | notANumber found =>
    ⟨"Expected a number", ["Found a " ++ found.name]⟩
  | notArithmetic op => unreachable ("`" ++ op.symbol ++ "` is not arithmetic")
  | notAComparison op => unreachable ("`" ++ op.symbol ++ "` is not a comparison")

/-- What the user might do about an evaluation error. -/
def hint : EvalCause → Option String
  | undefinedVariable name =>
    some ("assign it first, e.g. `" ++ name ++ " = 1`")
  | _ => none

end EvalCause

/-- An evaluation error and the place it is blamed on. -/
abbrev EvalError : Type := Located EvalCause

end Reckoner
