import Reckoner.Text.Blank
import Reckoner.Text.Width

/-!
The lines of a source text, and the columns of a line.

* `SourceLine`: a line with its newline, and the byte it starts at;
* `SourceLine.ofSource`: the lines of a source; there is always one;
* `lineIndexAt`: the line that a byte lies in;
* `SourceLine.columnAt`: the column of a byte, in characters;
* `Cell`, `cells`: the characters of a line as they are laid out.
-/

namespace Reckoner

/-- A line of a source, up to and with its newline. -/
structure SourceLine where
  start : Nat
  chars : List Char

/-- The number of bytes that characters take. -/
def byteLength : List Char → Nat
  | [] => 0
  | c :: cs => c.utf8Size + byteLength cs

namespace SourceLine

/-- The lines of the characters that follow those read so far. -/
def split (start : Nat) (read : List Char) : List Char → List SourceLine
  | [] => [⟨start, read.reverse⟩]
  | c :: cs =>
    if c = '\n' then
      let line := (c :: read).reverse
      ⟨start, line⟩ :: split (start + byteLength line) [] cs
    else split start (c :: read) cs

/-- The lines of a source. After a final newline stands an empty one. -/
def ofSource (src : String) : List SourceLine := split 0 [] src.toList

/-- Whether a character that ends a line is left out when the line is shown. -/
def isLineEnd (c : Char) : Bool := c == '\n' || c == '\r' || c == '\x00'

/-- The characters of a line that are shown. -/
def shown (line : SourceLine) : List Char :=
  (line.chars.reverse.dropWhile isLineEnd).reverse

/-- How many characters stand whole before a byte, counted from `start`. -/
def charsBefore (start byte : Nat) : List Char → Nat
  | [] => 0
  | c :: cs =>
    if start + c.utf8Size ≤ byte then
      charsBefore (start + c.utf8Size) byte cs + 1
    else 0

/-- The column of a byte, in characters and counted from one. -/
def columnAt (line : SourceLine) (byte : Nat) : Nat :=
  charsBefore line.start byte line.chars + 1

end SourceLine

/-- The index of the line that a byte lies in; the last line reaches on beyond
the source. -/
def lineIndexAt (lines : List SourceLine) (byte : Nat) : Nat :=
  (lines.filter fun line => line.start ≤ byte).length - 1

/-! ### Layout -/

/-- A character of a line, the byte it starts at, and the columns it takes. -/
structure Cell where
  offset : Nat
  width : Nat
  char : Char

namespace Cell

/-- The byte after a cell. -/
def stop (cell : Cell) : Nat := cell.offset + cell.char.utf8Size

/-- The cells of the characters from a byte and a column on. -/
def layOut (offset column : Nat) : List Char → List Cell
  | [] => []
  | c :: cs =>
    let width := Text.widthAt column c
    ⟨offset, width, c⟩ :: layOut (offset + c.utf8Size) (column + width) cs

/-- What a cell shows: a tab shows blanks. -/
def text (cell : Cell) : String :=
  if cell.char = '\t' then String.ofList (List.replicate cell.width ' ')
  else cell.char.toString

end Cell

/-- The cells of a line. -/
def cells (cs : List Char) : List Cell := Cell.layOut 0 0 cs

/-- The bytes of the blanks that a line starts with. -/
def indentation (cs : List Char) : Nat :=
  byteLength (cs.takeWhile Text.blank.holds)

end Reckoner
