import Reckoner.Token.Lexer

/-!
What can be wrong with the tokens of a line.

* `Wanted`: what could have stood where something else did;
* `ParseCause`: the causes of a parse error;
* `ParseCause.details`: their messages.
-/

namespace Reckoner

/-- What could have stood at a place. -/
inductive Wanted where
  | aNumber
  | aVariable
  | aFunctionCall
  | anOpeningParenthesis
  | token (t : Token)
  | anOperator
  | theEnd
deriving DecidableEq

/-- How a possibility is named in a message. -/
def Wanted.text : Wanted → String
  | aNumber => "a number"
  | aVariable => "a variable"
  | aFunctionCall => "a function call"
  | anOpeningParenthesis => "`(`"
  | token t => "`" ++ t.literal ++ "`"
  | anOperator => "an operator"
  | theEnd => "end of input"

/-- The causes of a parse error. -/
inductive ParseCause where
  | expectedIdent
  | unexpectedEof
  | unexpectedToken (found : Token) (wanted : List Wanted)
  | chainedComparison
  | nestingTooDeep (limit : Nat)
  | lexical (error : LexicalError)
deriving DecidableEq

/-- A parse error and the place it was found at. -/
abbrev ParseError : Type := Located ParseCause

/-- How a token that should not be there is named in a message. -/
def Token.description : Token → String
  | int _ => "an integer"
  | decimal _ => "a decimal"
  | ident name => "the variable `" ++ name ++ "`"
  | function f => "the function `" ++ f.name ++ "`"
  | t => "`" ++ t.literal ++ "`"

/-- The message of a parse error. -/
def ParseCause.details : ParseCause → Details
  | expectedIdent => ⟨"Expected a variable name", []⟩
  | unexpectedEof => ⟨"Unexpected end of input", []⟩
  | unexpectedToken found wanted =>
    ⟨"Not expected this",
      ("Found " ++ found.description ++ ", expected one of: ") ::
        wanted.map fun w => "- " ++ w.text⟩
  | chainedComparison =>
    ⟨"Comparisons cannot be chained",
      ["Compare two expressions at a time, e.g. `a < b`"]⟩
  | nestingTooDeep limit =>
    ⟨"Expression is nested too deeply",
      ["At most " ++ toString limit ++ " levels of nesting are allowed"]⟩
  | lexical error => error.cause.details

end Reckoner
