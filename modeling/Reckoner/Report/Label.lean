import Reckoner.Report.Markup
import Reckoner.Report.SourceLine
import Reckoner.Span

/-!
Labels on a source text, sorted by the lines they touch.

A label within one line becomes a mark under it. A label over several lines
becomes a bar on their left, with an edge on each of them.

* `Severity`, `Rank`, `Label`: what is reported, which label is meant, and what
  it says;
* `Mark`, `Edge`, `Bar`: the parts of labels on a line;
* `Row`: a line with its marks and bars;
* `Sheet.ofLabels`: the rows that labels touch.
-/

namespace Reckoner

/-- How bad it is. -/
inductive Severity where
  | error
  | warning
deriving DecidableEq

/-- The name of a severity. -/
def Severity.name : Severity → String
  | error => "error"
  | warning => "warning"

/-- The colour of a severity. -/
def Severity.colour : Severity → Colour
  | error => .red
  | warning => .yellow

/-- Whether a label says what is reported or only adds to it. -/
inductive Rank where
  | primary
  | secondary
deriving DecidableEq

/-- A stretch of source with a text, or without one. -/
structure Label where
  text : Option String
  span : Span
deriving DecidableEq

/-! ### The parts of labels on a line -/

/-- A label within one line, in bytes from the start of the line. -/
structure Mark where
  rank : Rank
  start : Nat
  stop : Nat
  message : String
deriving DecidableEq

/-- Where a label over several lines starts, goes on, or stops. -/
inductive Edge where
  | top (start : Nat)
  | left
  | bottom (stop : Nat) (message : String)
deriving DecidableEq

/-- The part of such a label on one line, and the column it is drawn in. -/
structure Bar where
  column : Nat
  rank : Rank
  edge : Edge
deriving DecidableEq

/-- A line with its marks and bars. Inner lines of a long label may be left
out. -/
structure Row where
  index : Nat
  marks : List Mark
  bars : List Bar
  isShown : Bool

namespace Mark

/-- Whether two marks cover the same bytes. -/
def sameRange (a b : Mark) : Bool := a.start == b.start && a.stop == b.stop

/-- Whether `a` comes before `b`: by start, then by stop. -/
def before (a b : Mark) : Bool :=
  a.start < b.start || (a.start == b.start && a.stop < b.stop)

/-- Sorts a mark in. Among marks of the same range it goes before the last. -/
def insert (m : Mark) : List Mark → List Mark
  | [] => [m]
  | a :: more =>
    if a.before m then a :: insert m more
    else if a.sameRange m && (more.head?.any (sameRange m)) then
      a :: insert m more
    else m :: a :: more

/-- Whether two ranges of bytes overlap. -/
def overlaps (start₁ stop₁ start₂ stop₂ : Nat) : Bool :=
  max start₁ start₂ < min stop₁ stop₂

/-- Whether a mark covers some of a cell. -/
def covers (m : Mark) (cell : Cell) : Bool :=
  overlaps m.start m.stop cell.offset cell.stop

end Mark

namespace Row

/-- A line without marks and bars, to be left out. -/
def blank (index : Nat) : Row := ⟨index, [], [], false⟩

/-- Adds a mark; the line is shown. -/
def addMark (m : Mark) (row : Row) : Row :=
  { row with marks := m.insert row.marks, isShown := true }

/-- Adds a bar; the line is shown if `needed`. -/
def addBar (bar : Bar) (needed : Bool) (row : Row) : Row :=
  { row with bars := row.bars ++ [bar], isShown := row.isShown || needed }

end Row

/-! ### All rows -/

/-- The rows that labels touch, sorted by line, and the number of labels over
several lines. -/
structure Sheet where
  rows : List Row
  barCount : Nat

namespace Sheet

/-- Changes the row of a line, which is a blank one so far if there is none. -/
def change (index : Nat) (f : Row → Row) : List Row → List Row
  | [] => [f (.blank index)]
  | row :: rows =>
    if row.index < index then row :: change index f rows
    else if row.index = index then f row :: rows
    else f (.blank index) :: row :: rows

/-- Lines of a long label shown after its first one. -/
def linesAfterTop : Nat := 3

/-- Lines of a long label shown before its last one. -/
def linesBeforeBottom : Nat := 1

/-- The start of a line in bytes. -/
def lineStart (lines : List SourceLine) (index : Nat) : Nat :=
  (lines[index]?.map SourceLine.start).getD 0

/-- Adds a label. A mark covers at least one byte. -/
def add (lines : List SourceLine) (sheet : Sheet) (rank : Rank)
    (label : Label) : Sheet :=
  let message := label.text.getD ""
  let first := lineIndexAt lines label.span.start.toNat
  let last := lineIndexAt lines label.span.stop.toNat
  let start := label.span.start.toNat - lineStart lines first
  let stop := label.span.stop.toNat - lineStart lines last
  if first = last then
    { sheet with
      rows := change first
        (.addMark ⟨rank, start, max stop (start + 1), message⟩) sheet.rows }
  else
    let column := sheet.barCount
    let withTop :=
      change first (.addBar ⟨column, rank, .top start⟩ true) sheet.rows
    let inner := (List.range (last - first - 1)).map (first + 1 + ·)
    let withInner := inner.foldl
      (fun rows index =>
        let needed :=
          index - first ≤ linesAfterTop || last - index ≤ linesBeforeBottom
        change index (.addBar ⟨column, rank, .left⟩ needed) rows)
      withTop
    ⟨change last (.addBar ⟨column, rank, .bottom stop message⟩ true) withInner,
      column + 1⟩

/-- The rows of a primary label and the secondary ones after it. -/
def ofLabels (lines : List SourceLine) (primary : Label)
    (secondary : List Label) : Sheet :=
  secondary.foldl (fun sheet label => sheet.add lines .secondary label)
    (add lines ⟨[], 0⟩ .primary primary)

end Sheet

end Reckoner
