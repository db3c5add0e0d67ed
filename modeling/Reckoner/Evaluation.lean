import Reckoner.Environment
import Reckoner.Evaluation.Arithmetic

/-!
The value of a tree.

An assignment changes the table, and a warning is given when it takes one of the
names that tables start out with. Both last even if a later part of the tree
fails.

* `Overwrite`: an assignment to such a name;
* `Evaluation`: the state of an evaluation;
* `Formula.eval`: the value of a tree.
-/

namespace Reckoner

/-- An assignment to a name that tables start out with. -/
structure Overwrite where
  name : String
  span : Span
deriving DecidableEq

/-- The state of an evaluation: the variables, and the warnings given so far. -/
structure Evaluation where
  table : Table
  overwrites : List Overwrite

/-- An evaluation step: it changes the state, also when it fails. -/
abbrev Evaluate (α : Type) : Type := ExceptT EvalError (StateM Evaluation) α

namespace Evaluation

/-- The state before anything is evaluated. -/
def start (table : Table) : Evaluation := ⟨table, []⟩

/-- Blames a failure on a place. -/
def blame {α : Type} (span : Span) (result : Except EvalCause α) : Evaluate α :=
  match result with
  | .ok a => return a
  | .error cause => throw ⟨cause, span⟩

/-- The value of a variable. -/
def lookUp (name : String) (span : Span) : Evaluate Value := do
  match (← get).table.get? name with
  | some value => return value
  | none => throw ⟨.undefinedVariable name, span⟩

/-- What an assignment says when it is done. -/
def confirmation (name : String) (value : Value) : String :=
  "Set variable '" ++ name ++ "' to '" ++ value.shown ++ "'"

/-- Gives a variable a value. -/
def assign (name : String) (value : Value) (span : Span) : Evaluate Value := do
  modify fun e =>
    { table := e.table.set name value
      overwrites :=
        if isSeeded name then e.overwrites ++ [⟨name, span⟩] else e.overwrites }
  return .text (confirmation name value)

end Evaluation

/-- The result of an operator. -/
def operate (op : Operator) (left right : Value) (precision : UInt64) :
    Except EvalCause Value :=
  if op.isComparison then compareValues op left right
  else arithmetic op left right precision

/-- The value of a tree: operands from left to right, quotients to `precision`
significant digits. -/
def Formula.eval (precision : UInt64) : Formula → Evaluate Value
  | literal value _ => return .ofLiteral value
  | var name span => Evaluation.lookUp name span
  | binary op left right span => do
    let a ← left.eval precision
    let b ← right.eval precision
    Evaluation.blame span (operate op a b precision)
  | call f argument span => do
    let a ← argument.eval precision
    Evaluation.blame span (applyFunction f a)
  | assign name value span => do
    let v ← value.eval precision
    Evaluation.assign name v span
  | empty => return .nothing

end Reckoner
