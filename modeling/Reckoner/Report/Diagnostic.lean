import Reckoner.Fault
import Reckoner.Report.Snippet
import Reckoner.Warning

/-!
Reports on failures and warnings.

* `Diagnostic`: a title, a text, a hint, and a labelled stretch of source;
* `Diagnostic.markup`: how it is written;
* `Fault.diagnostic`, `Warning.diagnostic`: the reports;
* `Fault.report`, `Warning.report`: the same as they are shown, with an empty
  line after each.
-/

namespace Reckoner

/-- A report. -/
structure Diagnostic where
  title : String
  text : String
  hint : Option String
  severity : Severity
  snippet : Option Snippet

namespace Diagnostic

/-- The heading of a report that points at no source. -/
def bareHeading (severity : Severity) (title : String) : Markup :=
  [.style (.strong severity.colour), .text severity.name, .style .emphasis,
    .text (": " ++ title ++ "\n\n"), .style .plain]

/-- The line that says what the user might do. -/
def hintLine (hint : String) : Markup :=
  Markup.styled (.strong .cyan) "hint" ++ [.text (": " ++ hint ++ "\n")]

/-- A report as it is written. An empty text takes no line. -/
def markup (d : Diagnostic) : Markup :=
  (match d.snippet with
    | some snippet => snippet.draw d.severity d.title
    | none => bareHeading d.severity d.title) ++
  (if d.text.isEmpty then [] else [.text (d.text ++ "\n")]) ++
  (match d.hint with
    | some hint => hintLine hint
    | none => [])

end Diagnostic

/-- The name that lines of input go by. -/
def inputName : String := "<input>"

/-- A line of input with one label. -/
def Snippet.ofInput (source : String) (text : String) (span : Span) : Snippet :=
  ⟨inputName, source, ⟨some text, span⟩, []⟩

namespace Fault

/-- The report on a failure. -/
def diagnostic (fault : Fault) : Diagnostic :=
  let details := fault.details
  { title := fault.kind.title
    text := "\n".intercalate details.lines
    hint := fault.hint
    severity := .error
    snippet :=
      some (.ofInput fault.source details.headline fault.shownSpan) }

/-- The report on a failure as it is shown. -/
def report (fault : Fault) : Markup := fault.diagnostic.markup ++ [.text "\n"]

end Fault

namespace Warning

/-- The report on a warning. -/
def diagnostic (w : Warning) : Diagnostic :=
  { title := "Constant overwritten"
    text := "`" ++ w.overwrite.name ++ "` is predefined for every user"
    hint := none
    severity := .warning
    snippet :=
      some (.ofInput w.source "The previous value is lost" w.overwrite.span) }

/-- The report on a warning as it is shown. -/
def report (w : Warning) : Markup := w.diagnostic.markup ++ [.text "\n"]

end Warning

end Reckoner
