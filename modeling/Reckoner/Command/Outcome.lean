import Reckoner.Duration
import Reckoner.Line.Run
import Reckoner.Report.Diagnostic

/-!
What a command writes, and how it ends.

* `Outcome`: the exit code and both outputs;
* `Outcome.notice`: a line of the program's own, under a coloured heading;
* `sessionNotice`, `evaluatedNotice`: the notices at the start of a dialogue and
  at the end of a calculation;
* `Line.Result.reports`: what a line writes to the error output.
-/

namespace Reckoner

/-- What a command wrote and how it ended. -/
structure Outcome where
  code : Nat
  out : String
  err : Markup

namespace Outcome

/-- A command that was asked for in a wrong way. -/
def usage : Outcome := ⟨2, "", []⟩

/-- What was written by one part of a command and then by another, which decides
the exit code. -/
def andThen (a b : Outcome) : Outcome := ⟨b.code, a.out ++ b.out, a.err ++ b.err⟩

/-- The width of the headings of notices. -/
def headingWidth : Nat := 11

/-- A line under a heading. -/
def notice (heading : String) (colour : Colour) (text : String) : Markup :=
  Markup.styled (.heading colour) (Canvas.alignedRight headingWidth heading) ++
    [.text (" " ++ text ++ "\n")]

end Outcome

/-- The line that ends a dialogue. -/
def exitCommand : String := ".exit"

/-- The notice at the start of a dialogue. -/
def sessionNotice (user : UserId) : Markup :=
  Outcome.notice "Session" .cyan
    ("user " ++ user.text ++ ", `" ++ exitCommand ++ "` to quit")

/-- The notice at the end of a calculation. -/
def evaluatedNotice (lines failed : Nat) (duration : String) : Markup :=
  Outcome.notice "Evaluated" (if failed = 0 then .green else .red)
    (toString lines ++ " line(s), " ++ toString failed ++ " failed, in " ++
      duration)

/-- The notice when the input cannot be read any further. -/
def unreadableNotice : Markup :=
  [.text "Unable to read input: stream did not contain valid UTF-8\n"]

/-- What a line writes to the error output: its warnings, and its failure. -/
def Line.Result.reports (r : Line.Result) : Markup :=
  r.warnings.flatMap Warning.report ++
    match r.outcome with
    | .ok _ => []
    | .error fault => fault.report

end Reckoner
