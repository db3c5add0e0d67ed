import Reckoner.Command.Arguments
import Reckoner.Command.Dialogue

/-!
Running a command.

* `Calculation`: what the expressions of one command have come to so far;
* `calculate`: the values of expressions, one after the other for one user;
* `Command.run`: what a command writes, and its exit code;
* `isColourForced`: whether the environment asks for colours.
-/

namespace Reckoner

/-- What expressions have come to so far. -/
structure Calculation where
  environment : Environment
  failed : Nat
  out : String
  err : Markup

namespace Calculation

/-- Before the first expression. -/
def start : Calculation := ⟨.empty, 0, "", []⟩

/-- Adds what becomes of an expression. A value takes a line, also if its text
is empty. -/
def add (user : UserId) (settings : Settings) (c : Calculation)
    (expression : String) : Calculation :=
  let result := Line.run settings expression user c.environment
  let (out, failed) := match result.outcome with
    | .ok output => (output.text ++ "\n", 0)
    | .error _ => ("", 1)
  ⟨result.environment, c.failed + failed, c.out ++ out, c.err ++ result.reports⟩

end Calculation

/-- The values of expressions. -/
def calculate (user : UserId) (settings : Settings) (expressions : List String) :
    Calculation :=
  expressions.foldl (.add user settings) .start

namespace Command

/-- What a calculation writes in the end. `duration` is the text of the time it
took. -/
def evalOutcome (expressions : List String) (c : Calculation)
    (duration : String) : Outcome :=
  ⟨if c.failed = 0 then 0 else 1, c.out,
    c.err ++ evaluatedNotice expressions.length c.failed duration⟩

/-- What a command writes for an input, and its exit code. -/
def run (input : List Reading) (duration : String) : Command → Outcome
  | repl user settings =>
    (⟨0, "", sessionNotice user⟩ : Outcome).andThen
      ((calculationDialogue user settings).run input)
  | eval user settings expressions =>
    evalOutcome expressions (calculate user settings expressions) duration
  | tokens => tokenDialogue.run input
  | trees postfixForm => (treeDialogue postfixForm).run input

end Command

/-- What the program writes for its arguments and its input. -/
def runArguments (arguments : List String) (input : List Reading)
    (duration : String) : Outcome :=
  match Command.ofArguments? arguments with
  | some command => command.run input duration
  | none => .usage

/-- Whether the value of the variable that forces colours does so. -/
def isColourForced (value : Option String) : Bool :=
  match value with
  | some s => !s.isEmpty
  | none => false

end Reckoner
