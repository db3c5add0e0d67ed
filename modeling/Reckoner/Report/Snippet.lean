import Reckoner.Report.Label

/-!
Labelled lines of source, drawn with a gutter on their left.

The gutter holds line numbers and a border, then one column for each label over
several lines, then the source. Carets stand under marks; the text of the last
mark follows its carets if no other mark overlaps it, and the other texts hang
below, joined to their marks by pointers.

* `Canvas`: what is the same for all lines of a drawing;
* `Canvas.sourceLine`, `Canvas.caretLine`, `Canvas.hangingLines`,
  `Canvas.barLines`: the lines drawn for a row;
* `Canvas.row`, `Canvas.rows`: all of a row, all rows;
* `Snippet.draw`: the heading, the place, and the rows.
-/

namespace Reckoner

/-- What is the same for all lines of a drawing: the severity, the width of line
numbers, and the number of columns for labels over several lines. -/
structure Canvas where
  severity : Severity
  numberWidth : Nat
  barCount : Nat

namespace Canvas

/-! ### Gutters -/

/-- So many blanks. -/
def blanks (n : Nat) : String := String.ofList (List.replicate n ' ')

/-- A text with blanks before it, up to a width. -/
def alignedRight (width : Nat) (s : String) : String :=
  blanks (width - s.length) ++ s

/-- The end of a drawn line. -/
def newline : Markup := [.text "\n"]

/-- The gutter of a line without a number. -/
def emptyGutter (v : Canvas) : Markup := [.text (blanks v.numberWidth ++ " ")]

/-- The gutter of a numbered line. -/
def numberGutter (v : Canvas) (number : Nat) : Markup :=
  Markup.styled (.coloured .blue) (alignedRight v.numberWidth (toString number))
    ++ [.text " "]

/-- The border between gutter and source. -/
def border : Markup := Markup.styled (.coloured .blue) "│"

/-- The border where lines are left out. -/
def brokenBorder : Markup := Markup.styled (.coloured .blue) "·"

/-- The style of labels. -/
def labelStyle (v : Canvas) : Rank → Style
  | .primary => .coloured v.severity.colour
  | .secondary => .coloured .blue

/-- A drawing of a label, in its style. -/
def drawn (v : Canvas) (rank : Rank) (s : String) : Markup :=
  Markup.styled (v.labelStyle rank) s

/-- The bar drawn in a column of a row. -/
def barAt (bars : List Bar) (column : Nat) : Option Bar :=
  bars.find? fun bar => bar.column == column

/-- The columns of bars beside lines drawn under a source line: a label that
starts on it has none yet. -/
def barGutter (v : Canvas) (bars : List Bar) : Markup :=
  (List.range v.barCount).flatMap fun column =>
    match barAt bars column with
    | some ⟨_, _, .top _⟩ | none => [.text "  "]
    | some ⟨_, rank, _⟩ => .text " " :: v.drawn rank "│"

/-- A line that shows nothing but its gutters. -/
def emptyLine (v : Canvas) (bars : List Bar) : Markup :=
  v.emptyGutter ++ border ++ v.barGutter bars ++ newline

/-- The line that stands for lines left out. -/
def breakLine (v : Canvas) (bars : List Bar) : Markup :=
  v.emptyGutter ++ brokenBorder ++ v.barGutter bars ++ newline

/-! ### The source line -/

/-- Whether a label that starts at byte `start` can be drawn beside its line,
nothing but blanks standing before it. -/
def startsInFront (source : List Char) (start : Nat) : Bool :=
  start ≤ indentation source

/-- The columns of bars beside a source line. -/
def sourceBarGutter (v : Canvas) (source : List Char) (bars : List Bar) :
    Markup :=
  (List.range v.barCount).flatMap fun column =>
    match barAt bars column with
    | none => [.text "  "]
    | some ⟨_, rank, .top start⟩ =>
      if startsInFront source start then .text " " :: v.drawn rank "╭"
      else [.text "  "]
    | some ⟨_, rank, _⟩ => .text " " :: v.drawn rank "│"

/-- Whether a bar takes in a cell of its line. -/
def barCovers (cell : Cell) (bar : Bar) : Bool :=
  match bar.edge with
  | .top start => start ≤ cell.offset
  | .left => true
  | .bottom stop _ => cell.stop ≤ stop

/-- Whether a primary label takes in a cell. -/
def inPrimary (row : Row) (cell : Cell) : Bool :=
  (row.marks.any fun m => m.rank == .primary && m.covers cell) ||
    (row.bars.any fun bar => bar.rank == .primary && barCovers cell bar)

/-- The cells of a line, those in primary labels in the colour of the severity.
`lit` tells whether that colour is on. -/
def sourceCells (v : Canvas) (row : Row) (lit : Bool) : List Cell → Markup
  | [] => if lit then [.style .plain] else []
  | cell :: more =>
    let inside := inPrimary row cell
    let change : Markup :=
      if inside && !lit then [.style (v.labelStyle .primary)]
      else if lit && !inside then [.style .plain]
      else []
    change ++ .text cell.text :: sourceCells v row inside more

/-- A source line with its number. -/
def sourceLine (v : Canvas) (row : Row) (source : List Char) : Markup :=
  v.numberGutter (row.index + 1) ++ border ++
    v.sourceBarGutter source row.bars ++ [.text " "] ++
    v.sourceCells row false (cells source) ++ newline

/-! ### Carets -/

/-- The rightmost byte at which a mark stops. -/
def lastStop (marks : List Mark) : Nat :=
  marks.foldl (fun n m => max n m.stop) 0

/-- The rightmost byte at which a mark starts. -/
def lastStart (marks : List Mark) : Nat :=
  marks.foldl (fun n m => max n m.start) 0

/-- The index of the last mark that reaches as far right as any before it, if it
has a text. -/
def rightmost (marks : List Mark) : Option Nat :=
  let step := fun (found : Nat × Nat × Option Nat) (m : Mark) =>
    let (i, far, best) := found
    let far := max far m.stop
    (i + 1, far,
      if m.stop = far then (if m.message.isEmpty then none else some i)
      else best)
  (marks.foldl step (0, 0, none)).2.2

/-- The index of the mark whose text follows its carets. -/
def trailing (marks : List Mark) : Option Nat := do
  let i ← rightmost marks
  let m ← marks[i]?
  let others := marks.eraseIdx i
  if others.any fun a => Mark.overlaps m.start m.stop a.start a.stop then none
  else some i

/-- The marks whose texts hang below. -/
def hanging (marks : List Mark) : List Mark :=
  let rest := match trailing marks with
    | some i => marks.eraseIdx i
    | none => marks
  rest.filter fun m => !m.message.isEmpty

/-- The rank drawn in a cell: the highest of the marks chosen by `p`. -/
def rankOf (marks : List Mark) (p : Mark → Bool) : Option Rank :=
  let chosen := marks.filter p
  if chosen.any fun m => m.rank == .primary then some .primary
  else if chosen.isEmpty then none
  else some .secondary

/-- The caret of a mark. -/
def caret : Rank → Char
  | .primary => '^'
  | .secondary => '-'

/-- The carets under the cells. `shown` is the rank whose style is on. -/
def carets (v : Canvas) (marks : List Mark) (shown : Option Rank) :
    List Cell → Markup
  | [] => if shown.isSome then [.style .plain] else []
  | cell :: more =>
    let rank := rankOf marks fun m => m.covers cell
    let change : Markup :=
      if shown = rank then []
      else match rank with
        | none => [.style .plain]
        | some r => [.style (v.labelStyle r)]
    let drawn : Markup := match rank with
      | some r => [.text (String.ofList (List.replicate cell.width (caret r)))]
      | none =>
        if cell.offset < lastStop marks then [.text (blanks cell.width)] else []
    change ++ drawn ++ carets v marks rank more

/-- The place after a line, where a caret can stand. -/
def afterLine (source : List Char) : Cell := ⟨byteLength source, 1, '\x00'⟩

/-- The line of carets, and the text of the last mark. -/
def caretLine (v : Canvas) (row : Row) (source : List Char) : Markup :=
  let message : Markup := match (trailing row.marks).bind (row.marks[·]?) with
    | some m => .text " " :: v.drawn m.rank m.message
    | none => []
  v.emptyGutter ++ border ++ v.barGutter row.bars ++ [.text " "] ++
    v.carets row.marks none (cells source ++ [afterLine source]) ++
    message ++ newline

/-! ### Hanging texts -/

/-- Pointers to the marks whose texts hang below. -/
def pointers (v : Canvas) (marks : List Mark) (line : List Cell) : Markup :=
  line.flatMap fun cell =>
    let rank := rankOf (hanging marks) fun m =>
      cell.offset ≤ m.start && m.start < cell.stop
    let pointer : Markup := match rank with
      | some r => v.drawn r "│"
      | none => []
    let room := if rank.isSome then cell.width - 1 else cell.width
    pointer ++
      if cell.offset ≤ lastStart marks then [.text (blanks room)] else []

/-- A line that starts with pointers. -/
def pointerLine (v : Canvas) (row : Row) (line : List Cell) (rest : Markup) :
    Markup :=
  v.emptyGutter ++ border ++ v.barGutter row.bars ++ [.text " "] ++
    v.pointers row.marks line ++ rest ++ newline

/-- The texts that hang below, the rightmost first, under a line of pointers. -/
def hangingLines (v : Canvas) (row : Row) (source : List Char) : Markup :=
  let texts := hanging row.marks
  if texts.isEmpty then []
  else
    let line := cells source
    v.pointerLine row line [] ++
      texts.reverse.flatMap fun m =>
        v.pointerLine row (line.takeWhile fun cell => cell.offset < m.start)
          (v.drawn m.rank m.message)

/-! ### Labels over several lines -/

/-- The caret at the end of a bar. -/
def barCaret : Rank → String
  | .primary => "^"
  | .secondary => "'"

/-- A column under a line that is being drawn from `under` on. -/
def plainColumn (v : Canvas) (under : Option Rank) : Markup :=
  match under with
  | none => [.text "  "]
  | some rank => v.drawn rank "──"

/-- A bar that goes on through a column. -/
def crossing (v : Canvas) (rank : Rank) (under : Option Rank) : Markup :=
  (match under with
    | none => [.text " "]
    | some r => v.drawn r "─") ++ v.drawn rank "│"

/-- The columns beside the line that opens or closes the label of column
`chosen`. `under` is the rank of the line being drawn to the right. -/
def edgeGutter (v : Canvas) (bars : List Bar) (chosen : Nat)
    (under : Option Rank) : List Nat → Markup
  | [] => []
  | column :: more =>
    match barAt bars column with
    | none => v.plainColumn under ++ edgeGutter v bars chosen under more
    | some ⟨_, rank, edge⟩ =>
      if column = chosen then
        let corner := match edge with
          | .top _ => "╭"
          | _ => "╰"
        .text " " :: v.drawn rank corner ++
          edgeGutter v bars chosen (some rank) more
      else
        let isOpen := match edge with
          | .left => true
          | .top _ => decide (column < chosen)
          | .bottom _ _ => decide (chosen < column)
        (if isOpen then v.crossing rank under else v.plainColumn under) ++
          edgeGutter v bars chosen under more

/-- A horizontal line under the cells, a caret, and a text. -/
def underline (v : Canvas) (rank : Rank) (line : List Cell) (message : String) :
    Markup :=
  let length := line.foldl (fun length cell => length + cell.width) 0
  v.drawn rank (String.ofList (List.replicate length '─') ++ barCaret rank ++
    if message.isEmpty then "" else " " ++ message)

/-- The line that opens or closes a label, if it needs one of its own. -/
def barLine (v : Canvas) (row : Row) (source : List Char) (bar : Bar) :
    Markup :=
  let start := v.emptyGutter ++ border ++
    v.edgeGutter row.bars bar.column none (List.range v.barCount)
  let upTo (n : Nat) := (cells source).takeWhile fun cell => cell.offset < n
  match bar.edge with
  | .left => []
  | .top n =>
    if startsInFront source n then []
    else start ++ v.underline bar.rank (upTo (n + 1)) "" ++ newline
  | .bottom n message =>
    start ++ v.underline bar.rank (upTo n) message ++ newline

/-- The lines that open and close labels under a source line. -/
def barLines (v : Canvas) (row : Row) (source : List Char) : Markup :=
  row.bars.flatMap (v.barLine row source)

/-! ### Rows -/

/-- A source line and all that is drawn under it. -/
def row (v : Canvas) (lines : List SourceLine) (r : Row) : Markup :=
  let source := (lines[r.index]?.map SourceLine.shown).getD []
  v.sourceLine r source ++
    (if r.marks.isEmpty then []
      else v.caretLine r source ++ v.hangingLines r source) ++
    v.barLines r source

/-- What stands between two rows: nothing if they follow each other, the line in
between if there is one only, and a break otherwise. -/
def gap (v : Canvas) (lines : List SourceLine) (all : List Row) (r next : Row) :
    Markup :=
  if next.index = r.index + 1 then []
  else if next.index = r.index + 2 then
    let between := r.index + 1
    let bars := ((all.find? fun a => a.index == between).map Row.bars).getD []
    v.row lines ⟨between, [], bars, true⟩
  else v.breakLine r.bars

/-- The rows that are shown, with what stands between them. -/
def rows (v : Canvas) (lines : List SourceLine) (all : List Row) :
    List Row → Markup
  | [] => []
  | [r] => v.row lines r
  | r :: next :: more =>
    v.row lines r ++ v.gap lines all r next ++ rows v lines all (next :: more)

end Canvas

/-! ### The whole -/

/-- A source text under a name, with labels. -/
structure Snippet where
  name : String
  source : String
  label : Label
  extraLabels : List Label

namespace Snippet

/-- The width of the largest line number that a label lies on. -/
def numberWidth (lines : List SourceLine) (labels : List Label) : Nat :=
  labels.foldl
    (fun n label =>
      let last := max (lineIndexAt lines label.span.start.toNat)
        (lineIndexAt lines label.span.stop.toNat)
      max n (toString (last + 1)).length)
    0

/-- The place of the primary label: name, line and column. -/
def place (s : Snippet) (lines : List SourceLine) : String :=
  let index := lineIndexAt lines s.label.span.start.toNat
  let column :=
    (lines[index]?.map (SourceLine.columnAt · s.label.span.start.toNat)).getD 1
  s.name ++ ":" ++ toString (index + 1) ++ ":" ++ toString column

/-- The heading: what it is and what is reported. -/
def heading (severity : Severity) (title : String) : Markup :=
  [.style (.heading severity.colour), .text severity.name, .style .emphasis,
    .text (": " ++ title), .style .plain] ++ Canvas.newline

/-- The heading, the place, the labelled lines, and an empty line. -/
def draw (severity : Severity) (title : String) (s : Snippet) : Markup :=
  let lines := SourceLine.ofSource s.source
  let sheet := Sheet.ofLabels lines s.label s.extraLabels
  let canvas : Canvas :=
    ⟨severity, numberWidth lines (s.label :: s.extraLabels), sheet.barCount⟩
  heading severity title ++
    canvas.emptyGutter ++ Markup.styled (.coloured .blue) "┌─" ++
    [.text (" " ++ s.place lines)] ++ Canvas.newline ++
    canvas.emptyLine [] ++
    canvas.rows lines sheet.rows (sheet.rows.filter Row.isShown) ++
    Canvas.newline

end Snippet

end Reckoner
