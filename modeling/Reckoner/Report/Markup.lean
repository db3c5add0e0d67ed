/-!
Text with colours, for a terminal or for a plain file.

* `Colour`, `Style`: how text looks;
* `Style.escape`: the terminal sequence that switches to a style;
* `Piece`: text, or a change of style;
* `render`: a text with or without its styles.
-/

namespace Reckoner

/-- The colours in use. -/
inductive Colour where
  | red
  | green
  | yellow
  | blue
  | cyan
deriving DecidableEq

/-- The number of a colour in the terminal's palette. -/
def Colour.code : Colour → Nat
  | red => 1
  | green => 2
  | yellow => 3
  | blue => 4
  | cyan => 6

/-- How text looks; without any of these it is plain. -/
structure Style where
  bold : Bool
  bright : Bool
  colour : Option Colour
deriving DecidableEq

namespace Style

/-- Plain text. -/
def plain : Style := ⟨false, false, none⟩

/-- Text in a colour. -/
def coloured (c : Colour) : Style := ⟨false, false, some c⟩

/-- Bold text. -/
def emphasis : Style := ⟨true, false, none⟩

/-- Bold text in a colour. -/
def strong (c : Colour) : Style := ⟨true, false, some c⟩

/-- Bold text in a bright colour. -/
def heading (c : Colour) : Style := ⟨true, true, some c⟩

/-- The terminal sequence that ends all styles. -/
def resetEscape : String := "\x1b[0m"

/-- The sequence for a colour. Bright colours are the upper half of the
palette. -/
def colourEscape (bright : Bool) (c : Colour) : String :=
  if bright then "\x1b[38;5;" ++ toString (c.code + 8) ++ "m"
  else "\x1b[3" ++ toString c.code ++ "m"

/-- The sequence that switches to a style, whatever went before. -/
def escape (s : Style) : String :=
  resetEscape ++ (if s.bold then "\x1b[1m" else "") ++
    ((s.colour.map (colourEscape s.bright)).getD "")

end Style

/-- A piece of styled text. -/
inductive Piece where
  | text (s : String)
  | style (s : Style)
deriving DecidableEq

/-- Styled text. -/
abbrev Markup : Type := List Piece

namespace Piece

/-- What a piece sends to a terminal, or to a plain file. -/
def render (colour : Bool) : Piece → String
  | text s => s
  | style s => if colour then s.escape else ""

end Piece

namespace Markup

/-- The text with its styles as terminal sequences, or without them. -/
def render (colour : Bool) (m : Markup) : String :=
  String.join (m.map (Piece.render colour))

/-- Text in a style, and plain text after it. -/
def styled (s : Style) (t : String) : Markup :=
  [.style s, .text t, .style .plain]

end Markup

end Reckoner
