import Reckoner.Evaluation

/-!
Warnings about lines that succeed.

* `Warning`: an assignment to a name that tables start out with, and the line;
* `WarningLog`: the warnings kept so far and the number of those given.
-/

namespace Reckoner

/-- A warning: a name that tables start out with was assigned in a line. -/
structure Warning where
  source : String
  overwrite : Overwrite
deriving DecidableEq

/-- The warnings of a run. Taking one out does not lower the count. -/
structure WarningLog where
  count : Nat
  kept : List Warning

namespace WarningLog

/-- The log before any warning. -/
def empty : WarningLog := ⟨0, []⟩

/-- Adds warnings, the newest last. -/
def add (log : WarningLog) (ws : List Warning) : WarningLog :=
  ⟨log.count + ws.length, log.kept ++ ws⟩

/-- Counts warnings without keeping them. -/
def addSilently (log : WarningLog) (ws : List Warning) : WarningLog :=
  ⟨log.count + ws.length, log.kept⟩

/-- Takes out the newest warning. -/
def pop (log : WarningLog) : Option Warning × WarningLog :=
  (log.kept.getLast?, { log with kept := log.kept.dropLast })

end WarningLog

end Reckoner
