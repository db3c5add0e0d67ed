import Reckoner.Formula.Basic
import Reckoner.Formula.ParseError

/-!
From tokens to the tree of a line.

    line       → nothing | name `=` comparison | comparison
    comparison → expression [comparison sign expression]
    expression → operand {operator operand}
    operand    → number [`e` integer | name] | name
               | function `(` expression `)` | `(` expression `)`

Operators of one precedence group to the left, and a more tightly binding
operator takes its operands first. Two tokens of the stream are in view at a
time.

Nesting is limited. Each expression opens one level, and so does every operator
that is folded into the operand on its left; an expression that is complete
closes all its levels. The levels that are still free bound the recursion: both
`Parser.operand` and `Parser.chain` recurse on their number.

* `Parser`: the state, with `Parser.ofItems`, `Parser.advance`;
* `Parser.expect`, `Parser.expectIdent`, `Parser.expectEnd`: single tokens;
* `Parser.operand`, `Parser.chain`, `Parser.expression`: expressions;
* `Parser.comparison`, `Parser.assignment`, `Parser.line`: lines;
* `Parser.run`, `parse`: the whole, a lexical error going before any other.
-/

namespace Reckoner

/-- The state of a parser: the two tokens in view, what the lexer will deliver
after them, the lexical errors met so far, and the nesting. -/
structure Parser where
  current : Option Lexeme
  ahead : Option Lexeme
  rest : List Lexer.Item
  lexicalErrors : List LexicalError
  maxDepth : Nat
  depth : Nat

/-- The nesting limit of a line unless it is set otherwise. -/
def defaultMaxDepth : Nat := 256

/-- A parsing step: it changes the state, also when it fails. -/
abbrev Parse (α : Type) : Type := ExceptT ParseError (StateM Parser) α

namespace Parser

/-! ### The stream -/

/-- Moves both views one token on. An error of the lexer leaves a gap in the
stream and is kept. -/
def shifted (p : Parser) : Parser :=
  match p.rest with
  | [] => { p with current := p.ahead, ahead := none }
  | .ok lexeme :: rest =>
    { p with current := p.ahead, ahead := some lexeme, rest := rest }
  | .error e :: rest =>
    { p with
      current := p.ahead
      ahead := none
      rest := rest
      lexicalErrors := p.lexicalErrors ++ [e] }

/-- A parser at the start of a stream. -/
def ofItems (items : List Lexer.Item) (maxDepth : Nat) : Parser :=
  let start : Parser := ⟨none, none, items, [], maxDepth, 0⟩
  start.shifted.shifted

/-- The precedence of the token in view, the lowest at a gap. -/
def currentPrecedence (p : Parser) : Precedence :=
  match p.current with
  | some lexeme => lexeme.token.precedence
  | none => .lowest

/-- The place that is blamed at the token in view. -/
def here (p : Parser) : Span :=
  match p.current with
  | some lexeme => lexeme.span
  | none => .origin

/-- The levels of nesting that are still free. -/
def freeLevels (p : Parser) : Nat := p.maxDepth - p.depth

/-- Takes the token in view and moves on. -/
def advance : Parse (Option Lexeme) :=
  modifyGet fun p => (p.current, p.shifted)

/-- Moves on. -/
def skip : Parse Unit := modify shifted

/-- Fails at a place. -/
def fail {α : Type} (cause : ParseCause) (span : Span) : Parse α :=
  throw ⟨cause, span⟩

/-- Fails where a token other than the wanted ones stands, or none does. -/
def failWanting {α : Type} (wanted : List Wanted) : Parse α := do
  match (← get).current with
  | some ⟨.eof, span⟩ => fail .unexpectedEof span
  | some ⟨token, span⟩ => fail (.unexpectedToken token wanted) span
  | none => fail .unexpectedEof .origin

/-! ### Single tokens -/

/-- Takes the token `t` and answers where it stands. -/
def expect (t : Token) : Parse Span := do
  match (← get).current with
  | some lexeme =>
    if lexeme.token.same t then
      skip
      return lexeme.span
    else failWanting [.token t]
  | none => failWanting [.token t]

/-- Takes a name. -/
def expectIdent : Parse (String × Span) := do
  match (← get).current with
  | some ⟨.ident name, span⟩ =>
    skip
    return (name, span)
  | some lexeme => fail .expectedIdent lexeme.span
  | none => fail .unexpectedEof .origin

/-- Makes sure that the line ends here. -/
def expectEnd : Parse Unit := do
  match (← get).current with
  | some ⟨.eof, _⟩ => return ()
  | _ => failWanting [.anOperator, .theEnd]

/-! ### Nesting -/

/-- Opens a level without looking at the limit. -/
def openLevel : Parse Unit := modify fun p => { p with depth := p.depth + 1 }

/-- Opens a level that the limit does not allow. -/
def tooDeep {α : Type} : Parse α := do
  openLevel
  let p ← get
  fail (.nestingTooDeep p.maxDepth) p.here

/-- Closes levels. -/
def closeLevels (levels : Nat) : Parse Unit :=
  modify fun p => { p with depth := p.depth - levels }

/-- Opens a level, and reads a first operand and the operators after it. These
are told how many levels are open by then, and close them in the end. -/
def nested (first : Parse Formula) (more : Nat → Formula → Parse Formula) :
    Parse Formula := do
  openLevel
  more 1 (← first)

/-! ### Expressions -/

/-- What a number is followed by: `e` and an integer, a name, or neither. -/
def number (value : Literal) (span : Span) : Parse Formula := do
  let literal := Formula.literal value span
  let p ← get
  match p.current, p.ahead with
  | some ⟨.ident "e", eSpan⟩, some ⟨.int exponent, exponentSpan⟩ =>
    skip
    skip
    return .combine .mul literal
      (.combine .pow (.literal (.int 10) eSpan)
        (.literal (.int exponent) exponentSpan))
  | some ⟨.ident name, nameSpan⟩, _ =>
    skip
    return .combine .mul literal (.var name nameSpan)
  | _, _ => return literal

mutual

/-- An operand, `free` levels being free for the expressions in it. -/
def operand (free : Nat) : Parse Formula := do
  match (← get).current with
  | some ⟨.int value, span⟩ =>
    skip
    number (.int value) span
  | some ⟨.decimal value, span⟩ =>
    skip
    number (.decimal value) span
  | some ⟨.ident name, span⟩ =>
    skip
    return .var name span
  | some ⟨.function f, span⟩ =>
    skip
    discard <| expect .lparen
    let argument ← match free with
      | 0 => tooDeep
      | free + 1 => nested (operand free) (chain free .lowest)
    let close ← expect .rparen
    return .call f argument ⟨span.start, close.stop⟩
  | some ⟨.lparen, _⟩ =>
    skip
    let inner ← match free with
      | 0 => tooDeep
      | free + 1 => nested (operand free) (chain free .lowest)
    discard <| expect .rparen
    return inner
  | _ =>
    failWanting [.aNumber, .aVariable, .aFunctionCall, .anOpeningParenthesis]
termination_by structural free

/-- The operators after `left` that bind more tightly than `bound`, folded to
the left, `free` levels being free. In the end the levels are closed that the
expression has opened: `levels` so far, and one with each fold. -/
def chain (free : Nat) (bound : Precedence) (levels : Nat) (left : Formula) :
    Parse Formula := do
  match (← get).current with
  | some ⟨.operator op, _⟩ =>
    if bound.below op.precedence then
      skip
      match free with
      | 0 => tooDeep
      | free + 1 =>
        let right ← nested (operand free) (chain free op.precedence)
        openLevel
        chain free bound (levels + 1) (.combine op left right)
    else
      closeLevels levels
      return left
  | _ =>
    closeLevels levels
    return left
termination_by structural free

end

/-- An expression of operators that bind more tightly than `bound`. -/
def expression (bound : Precedence) : Parse Formula := do
  match (← get).freeLevels with
  | 0 => tooDeep
  | free + 1 => nested (operand free) (chain free bound)

/-! ### Lines -/

/-- The comparison sign in view, if one is. -/
def comparisonSign? (p : Parser) : Option (Operator × Span) :=
  match p.current with
  | some ⟨.operator op, span⟩ => if op.isComparison then some (op, span) else none
  | _ => none

/-- An expression, or two of them compared. -/
def comparison : Parse Formula := do
  let left ← expression .lowest
  match (← get).comparisonSign? with
  | none => return left
  | some (op, _) =>
    skip
    let right ← expression .lowest
    match (← get).comparisonSign? with
    | some (_, span) => fail .chainedComparison span
    | none => return .combine op left right

/-- A name, the assignment sign, and what is assigned. -/
def assignment : Parse Formula := do
  let (name, nameSpan) ← expectIdent
  discard <| expect .assign
  let value ← comparison
  expectEnd
  return .assign name value ⟨nameSpan.start, value.span.stop⟩

/-- A whole line. -/
def line : Parse Formula := do
  let p ← get
  match p.current, p.ahead with
  | some ⟨.eof, _⟩, _ => return .empty
  | some ⟨.ident _, _⟩, some ⟨.assign, _⟩ => assignment
  | _, _ =>
    let tree ← comparison
    expectEnd
    return tree

/-- A whole line. A lexical error that has come into view by the end goes before
whatever else was found, since it cut the stream short. -/
def run (p : Parser) : Except ParseError Formula × Parser :=
  let (result, after) := (line.run).run p
  match after.lexicalErrors with
  | e :: _ => (.error ⟨.lexical e, e.span⟩, after)
  | [] => (result, after)

end Parser

/-- The tree of a stream of items. -/
def parseItems (items : List Lexer.Item) (maxDepth : Nat) :
    Except ParseError Formula :=
  (Parser.ofItems items maxDepth).run.1

/-- The tree of a source text. -/
def parse (src : String) (maxDepth : Nat) : Except ParseError Formula :=
  parseItems (Lexer.items src) maxDepth

end Reckoner
