import Reckoner.Decimal.Text
import Reckoner.Span

/-!
The tokens of the calculator language.

* `RealFunction`: `sqrt`, `exp` and `log`;
* `Operator`: the binary operators, with their symbols and precedence;
* `Token`: literals, names, functions, operators and punctuation;
* `Token.literal`: a token as users write it;
* `Token.same`: equality, decimal literals compared as numbers;
* `Lexeme`: a token and where it stands.
-/

namespace Reckoner

/-! ### Functions and operators -/

/-- The functions of one real argument. -/
inductive RealFunction where
  | sqrt
  | exp
  | log
deriving DecidableEq

/-- The name of a function. -/
def RealFunction.name : RealFunction → String
  | sqrt => "sqrt"
  | exp => "exp"
  | log => "log"

/-- The binary operators: five of arithmetic and six comparisons. -/
inductive Operator where
  | add
  | sub
  | mul
  | div
  | pow
  | equal
  | notEqual
  | greater
  | less
  | greaterOrEqual
  | lessOrEqual
deriving DecidableEq

/-- How tightly an operator binds; operators of one precedence group to the
left. -/
inductive Precedence where
  | lowest
  | sum
  | product
  | power
deriving DecidableEq

namespace Precedence

/-- The place of a precedence in their order. -/
def rank : Precedence → Nat
  | lowest => 0
  | sum => 1
  | product => 2
  | power => 3

/-- Whether `q` binds more tightly than `p`. -/
def below (p q : Precedence) : Bool := p.rank < q.rank

end Precedence

namespace Operator

/-- The symbol of an operator. -/
def symbol : Operator → String
  | add => "+"
  | sub => "-"
  | mul => "*"
  | div => "/"
  | pow => "**"
  | equal => "=="
  | notEqual => "!="
  | greater => ">"
  | less => "<"
  | greaterOrEqual => ">="
  | lessOrEqual => "<="

/-- Whether an operator compares its operands. -/
def isComparison : Operator → Bool
  | equal | notEqual | greater | less | greaterOrEqual | lessOrEqual => true
  | add | sub | mul | div | pow => false

/-- How tightly an operator binds. Comparisons are no part of expressions and
have the lowest precedence. -/
def precedence : Operator → Precedence
  | add | sub => .sum
  | mul | div => .product
  | pow => .power
  | _ => .lowest

end Operator

/-! ### Tokens -/

/-- A token. `eof` is the end of the input. -/
inductive Token where
  | int (value : Int)
  | decimal (value : Decimal)
  | ident (name : String)
  | function (f : RealFunction)
  | operator (op : Operator)
  | assign
  | lparen
  | rparen
  | eof
deriving DecidableEq

namespace Token

/-- A token as users write it. -/
def literal : Token → String
  | int value => integerText value
  | decimal value => value.text
  | ident name => name
  | function f => f.name
  | operator op => op.symbol
  | assign => "="
  | lparen => "("
  | rparen => ")"
  | eof => "end of input"

/-- Whether the token names a function. -/
def isFunction : Token → Bool
  | function _ => true
  | _ => false

/-- Whether the token is a comparison sign. -/
def isComparison : Token → Bool
  | operator op => op.isComparison
  | _ => false

/-- Whether the token is a number literal. -/
def isNumber : Token → Bool
  | int _ | decimal _ => true
  | _ => false

/-- How tightly the token binds as an operator; anything else binds loosest. -/
def precedence : Token → Precedence
  | operator op => op.precedence
  | _ => .lowest

/-- Whether two tokens are the same. Decimal literals of the same value are, at
whatever scale they are written. -/
def same : Token → Token → Bool
  | decimal a, decimal b => a.same b
  | s, t => s == t

end Token

/-- A token and the stretch of source it was read from. -/
structure Lexeme where
  token : Token
  span : Span
deriving DecidableEq

end Reckoner
