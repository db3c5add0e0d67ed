import Reckoner.Command.Outcome
import Reckoner.Formula.Printer
import Reckoner.Text.Blank

/-!
Dialogues: a prompt, a line, an answer, and so on.

* `Reading`: a line of input, or bytes that are no text;
* `readings`, `readingsOfBytes`: the lines of an input;
* `Reply`, `Dialogue`: what a dialogue does with a line;
* `Dialogue.run`: what it writes for a whole input;
* `calculationDialogue`, `tokenDialogue`, `treeDialogue`: the three dialogues.
-/

namespace Reckoner

/-! ### Reading lines -/

/-- What is read at a prompt. -/
inductive Reading where
  | line (text : String)
  | unreadable
deriving DecidableEq

/-- A line without its newline and without one carriage return before it. -/
def chopped (line : List Char) : List Char :=
  let cut (c : Char) (cs : List Char) :=
    match cs.reverse with
    | d :: more => if d = c then more.reverse else cs
    | [] => cs
  cut '\r' (cut '\n' line)

/-- The lines that follow the characters read so far. -/
def linesAfter (read : List Char) : List Char → List (List Char)
  | [] => if read.isEmpty then [] else [read.reverse]
  | c :: cs =>
    if c = '\n' then (c :: read).reverse :: linesAfter [] cs
    else linesAfter (c :: read) cs

/-- The lines of an input that is text. -/
def readings (input : String) : List Reading :=
  (linesAfter [] input.toList).map fun l => .line (String.ofList (chopped l))

/-- The byte that ends a line. -/
def newlineByte : UInt8 := 10

/-- What is read from the bytes of one line. -/
def Reading.ofBytes (bytes : ByteArray) : Reading :=
  match String.fromUTF8? bytes with
  | some text => .line (String.ofList (chopped text.toList))
  | none => .unreadable

/-- The lines that follow the bytes read so far. -/
def byteLinesAfter (read : List UInt8) : List UInt8 → List (List UInt8)
  | [] => if read.isEmpty then [] else [read.reverse]
  | b :: bs =>
    if b = newlineByte then (b :: read).reverse :: byteLinesAfter [] bs
    else byteLinesAfter (b :: read) bs

/-- The lines of an input of bytes. -/
def readingsOfBytes (input : List UInt8) : List Reading :=
  (byteLinesAfter [] input).map fun l => .ofBytes ⟨l.toArray⟩

/-! ### Dialogues -/

/-- What a dialogue does with a line: it ends, or it writes something and goes
on. -/
inductive Reply (σ : Type) where
  | leave
  | answer (out : String) (err : Markup) (next : σ)

/-- A dialogue: what it starts with, and its reply to a line. -/
structure Dialogue (σ : Type) where
  start : σ
  reply : σ → String → Reply σ

namespace Dialogue

variable {σ : Type}

/-- The text written before a line is read. -/
def prompt : String := ">> "

/-- What a dialogue writes for the lines that are left. A prompt comes before
every line, and one more before the end of the input is found. -/
def continueFrom (d : Dialogue σ) (state : σ) : List Reading → Outcome
  | [] => ⟨0, prompt, []⟩
  | .unreadable :: _ => ⟨1, prompt, unreadableNotice⟩
  | .line text :: more =>
    match d.reply state text with
    | .leave => ⟨0, prompt, []⟩
    | .answer out err next =>
      (⟨0, prompt ++ out, err⟩ : Outcome).andThen (continueFrom d next more)

/-- What a dialogue writes for an input. -/
def run (d : Dialogue σ) (input : List Reading) : Outcome :=
  continueFrom d d.start input

end Dialogue

/-! ### Calculations -/

/-- A text on a line of its own, or nothing if it is empty. -/
def lineUnlessEmpty (s : String) : String := if s.isEmpty then "" else s ++ "\n"

/-- The dialogue that runs each line for a user. Blanks around the line that
ends it do not count. -/
def calculationDialogue (user : UserId) (settings : Settings) :
    Dialogue Environment where
  start := .empty
  reply env line :=
    if String.ofList (Text.trimmed line.toList) = exitCommand then .leave
    else
      let result := Line.run settings line user env
      let out := match result.outcome with
        | .ok output => lineUnlessEmpty output.text
        | .error _ => ""
      .answer out result.reports result.environment

/-! ### Tokens and trees -/

/-- The reply that shows something made from a line. An empty line shows
nothing. -/
def showReply {α : Type} (make : String → Except Fault α) (display : α → String)
    (line : String) : Reply Unit :=
  if line.isEmpty then .answer "" [] ()
  else if line = exitCommand then .leave
  else
    match make line with
    | .ok a => .answer (display a) [] ()
    | .error fault => .answer "" fault.report ()

/-- The sign of a number as it is shown with a token. -/
def signName (n : Int) : String :=
  if n < 0 then "Minus" else if n = 0 then "NoSign" else "Plus"

/-- The name of a function token. -/
def RealFunction.tokenName : RealFunction → String
  | sqrt => "Sqrt"
  | exp => "Exp"
  | log => "Log"

/-- The name of an operator token. -/
def Operator.tokenName : Operator → String
  | add => "Plus"
  | sub => "Minus"
  | mul => "Star"
  | div => "Slash"
  | pow => "Power"
  | equal => "Equal"
  | notEqual => "NotEqual"
  | greater => "GreaterThan"
  | less => "LessThan"
  | greaterOrEqual => "GreaterThanOrEqual"
  | lessOrEqual => "LessThanOrEqual"

/-- A decimal taken apart: sign, scale, and the words of its digits. -/
def Decimal.parts (a : Decimal) : String :=
  "BigDecimal(sign=" ++ signName a.unscaled ++ ", scale=" ++
    toString a.scale.toInt ++ ", digits=[" ++
    ", ".intercalate ((limbs a.unscaled.natAbs).map toString) ++ "])"

/-- A token taken apart. -/
def Token.parts : Token → String
  | int value => "Int(" ++ integerText value ++ ")"
  | decimal value => "Decimal(" ++ value.parts ++ ")"
  | ident name => "Ident(\"" ++ name ++ "\")"
  | function f => f.tokenName
  | operator op => op.tokenName
  | assign => "Assign"
  | lparen => "LParen"
  | rparen => "RParen"
  | eof => "Eof"

/-- The width of byte offsets in a list of tokens. -/
def offsetWidth : Nat := 3

/-- A token and its place on a line of their own. -/
def Lexeme.listed (l : Lexeme) : String :=
  let stop := toString l.span.stop
  Canvas.alignedRight offsetWidth (toString l.span.start) ++ ".." ++ stop ++
    Canvas.blanks (offsetWidth - stop.length) ++ " " ++ l.token.parts ++ "\n"

/-- The dialogue that shows the tokens of each line. -/
def tokenDialogue : Dialogue Unit where
  start := ()
  reply _ := showReply Line.tokens fun lexemes =>
    String.join (lexemes.map Lexeme.listed)

/-- The dialogue that shows the tree of each line. -/
def treeDialogue (postfixForm : Bool) : Dialogue Unit where
  start := ()
  reply _ := showReply (Line.tree .standard) fun tree =>
    (if postfixForm then tree.postfixText else tree.infixText) ++ "\n"

end Reckoner
