import Reckoner.Command.Run

/-!
The program: arguments, the terminal, and the clock.

* `converse`: holds a dialogue line by line;
* `program`: runs the command that the arguments ask for.
-/

namespace Reckoner

/-- What a user who asked in a wrong way is told. -/
def usageText : String :=
  "usage: repl [--user N] [--precision P] [--max-depth D]\n" ++
  "       eval [--user N] [--precision P] [--max-depth D] EXPRESSION...\n" ++
  "       rlpl\n" ++
  "       rppl [--postfix]\n"

/-- Writes to both outputs. -/
def emit (colour : Bool) (out : String) (err : Markup) : IO Unit := do
  let stdout ← IO.getStdout
  stdout.putStr out
  stdout.flush
  let stderr ← IO.getStderr
  stderr.putStr (err.render colour)
  stderr.flush

/-- Reads the bytes of a line. -/
partial def readLine (stdin : IO.FS.Stream) (read : ByteArray) :
    IO ByteArray := do
  let next ← stdin.read 1
  if next.isEmpty then return read
  else if next.toList = [newlineByte] then return read ++ next
  else readLine stdin (read ++ next)

/-- Holds a dialogue until the input or the user ends it. -/
partial def converse {σ : Type} (colour : Bool) (d : Dialogue σ) (state : σ) :
    IO UInt32 := do
  emit colour Dialogue.prompt []
  let bytes ← readLine (← IO.getStdin) .empty
  if bytes.isEmpty then return 0
  match Reading.ofBytes bytes with
  | .unreadable =>
    emit colour "" unreadableNotice
    return 1
  | .line text =>
    match d.reply state text with
    | .leave => return 0
    | .answer out err next =>
      emit colour out err
      converse colour d next

/-- Writes what a command has written, and answers its exit code. -/
def finish (colour : Bool) (o : Outcome) : IO UInt32 := do
  emit colour o.out o.err
  return o.code.toUInt32

/-- Runs the command that the arguments ask for. -/
def program (arguments : List String) : IO UInt32 := do
  let colour := isColourForced (← IO.getEnv "FORCE_COLOR")
  match Command.ofArguments? arguments with
  | none =>
    emit colour "" [.text usageText]
    return 2
  | some (.repl user settings) =>
    emit colour "" (sessionNotice user)
    let d := calculationDialogue user settings
    converse colour d d.start
  | some (.eval user settings expressions) =>
    let started ← IO.monoMsNow
    let c := calculate user settings expressions
    emit colour c.out c.err
    let stopped ← IO.monoMsNow
    let notice :=
      evaluatedNotice expressions.length c.failed (Duration.text (stopped - started))
    finish colour ⟨if c.failed = 0 then 0 else 1, "", notice⟩
  | some .tokens => converse colour tokenDialogue ()
  | some (.trees postfixForm) => converse colour (treeDialogue postfixForm) ()

end Reckoner

/-- The program. -/
def main (arguments : List String) : IO UInt32 := Reckoner.program arguments
