import Reckoner.Fault
import Reckoner.Formula.Parser
import Reckoner.Line.Prepare
import Reckoner.Output
import Reckoner.Warning

/-!
What becomes of a line.

* `Settings`: the precision of quotients and the nesting limit;
* `Line.tokens`, `Line.tree`: the tokens and the tree of a line;
* `Line.Result`: the output or failure of a line, the environment after it, and
  the warnings it gave;
* `Line.run`: runs a line for a user.
-/

namespace Reckoner

/-- The precision of quotients, in significant digits, and the nesting limit. -/
structure Settings where
  precision : UInt64
  maxDepth : Nat
deriving DecidableEq

namespace Settings

/-- The precision of quotients unless it is set otherwise. -/
def defaultPrecision : UInt64 := 28

/-- The settings unless they are set otherwise. -/
def standard : Settings := ⟨defaultPrecision, defaultMaxDepth⟩

end Settings

namespace Line

/-- The tokens of a line. -/
def tokens (line : String) : Except Fault (List Lexeme) :=
  let source := prepare line
  (tokenize source).mapError (.lexical source)

/-- The tree of a line. -/
def tree (settings : Settings) (line : String) : Except Fault Formula :=
  let source := prepare line
  (parse source settings.maxDepth).mapError (.ofParse source)

/-- What becomes of a line. -/
structure Result where
  outcome : Except Fault Output
  environment : Environment
  warnings : List Warning

/-- Runs a line for a user, who gets a table even if the line fails. -/
def run (settings : Settings) (line : String) (user : UserId)
    (env : Environment) : Result :=
  let source := prepare line
  match tree settings line with
  | .error fault => ⟨.error fault, env.ensure user, []⟩
  | .ok formula =>
    let (value, after) :=
      (formula.eval settings.precision).run (.start (env.tableOf user))
    ⟨(value.mapError (.eval source)).map .ofValue,
      env.put user after.table,
      after.overwrites.map (⟨source, ·⟩)⟩

end Line

end Reckoner
