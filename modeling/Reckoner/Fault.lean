import Reckoner.Evaluation.Error
import Reckoner.Formula.ParseError

/-!
Why a line has no output, with the line as it was read.

* `Fault`: a lexical error, a parse error or an evaluation error of a source;
* `Fault.ofParse`: a lexical error that came through the parser is one;
* `Fault.kind`, `Fault.summary`, `Fault.details`, `Fault.hint`: what is said of
  it;
* `Fault.span`: the place it is blamed on.
-/

namespace Reckoner

/-- The failure of a line. -/
inductive Fault where
  | lexical (source : String) (error : LexicalError)
  | parse (source : String) (error : ParseError)
  | eval (source : String) (error : EvalError)
deriving DecidableEq

/-- The kinds of failures, as users see them. -/
inductive FaultKind where
  | lexical
  | grammar
  | name
  | domain
deriving DecidableEq

/-- The heading under which a kind of failure is reported. -/
def FaultKind.title : FaultKind → String
  | lexical => "Lexical error"
  | grammar => "Syntax error"
  | name => "Name error"
  | domain => "Math domain error"

namespace Fault

/-- The failure of a line that could not be parsed. -/
def ofParse (source : String) (error : ParseError) : Fault :=
  match error.cause with
  | .lexical e => lexical source e
  | _ => parse source error

/-- The line as it was read. -/
def source : Fault → String
  | lexical source _ | parse source _ | eval source _ => source

/-- The kind of a failure. -/
def kind : Fault → FaultKind
  | lexical _ _ => .lexical
  | parse _ _ => .grammar
  | eval _ error => if error.cause.isNameError then .name else .domain

/-- A failure in a few words. -/
def summary : Fault → String
  | lexical _ _ => "failed to lex input"
  | parse _ _ => "failed to parse input"
  | eval _ _ => "evaluation failed"

/-- The message of a failure. -/
def details : Fault → Details
  | lexical _ error => error.cause.details
  | parse _ error => error.cause.details
  | eval _ error => error.cause.details

/-- What the user might do about it. -/
def hint : Fault → Option String
  | eval _ error => error.cause.hint
  | _ => none

/-- The stretch of source that is blamed. -/
def span : Fault → Span
  | lexical _ error => error.span
  | parse _ error => error.span
  | eval _ error => error.span

/-- The stretch of source that a report points at. An end of input that comes
too soon is shown at the end of the source. -/
def shownSpan : Fault → Span
  | parse source error =>
    if error.cause = .unexpectedEof then .point (.ofNat source.utf8ByteSize)
    else error.span
  | fault => fault.span

end Fault

end Reckoner
