import Reckoner.Line.Run

/-!
What the command line asks for.

Options come before the first expression. An argument that starts with a dash
and is no option is an expression where expressions are allowed, and from the
first expression on every argument is one. A lone `--` ends the options.

* `Command`: the four things that can be asked for;
* `Options`: the options of a calculation, each given at most once;
* `Options.read`: reads options up to the first argument that is none;
* `Command.ofArguments?`: the command, or nothing if the usage is wrong.
-/

namespace Reckoner

/-- What the command line asks for: a dialogue of calculations, the values of
given expressions, a dialogue that shows tokens, or one that shows trees. -/
inductive Command where
  | repl (user : UserId) (settings : Settings)
  | eval (user : UserId) (settings : Settings) (expressions : List String)
  | tokens
  | trees (postfixForm : Bool)
deriving DecidableEq

/-- The options of a calculation. -/
structure Options where
  user : Option Nat
  precision : Option UInt64
  maxDepth : Option Nat

namespace Options

/-- No option given. -/
def unset : Options := ⟨none, none, none⟩

/-- The number of values of a 64-bit word. -/
def wordBound : Nat := UInt64.size

/-- Reads a 64-bit word: digits, possibly after a plus sign. -/
def word? (s : String) : Option Nat :=
  let ds := match s.toList with
    | '+' :: cs => cs
    | cs => cs
  (Binary64.ofDigits? ds).filter fun n => n < wordBound

/-- The names of the options. -/
inductive Name where
  | user
  | precision
  | maxDepth

/-- The option of a long name. -/
def Name.ofLong? : List Char → Option Name
  | ['u', 's', 'e', 'r'] => some user
  | ['p', 'r', 'e', 'c', 'i', 's', 'i', 'o', 'n'] => some precision
  | ['m', 'a', 'x', '-', 'd', 'e', 'p', 't', 'h'] => some maxDepth
  | _ => none

/-- Sets an option that has not been set yet. The precision is at least one. -/
def set (o : Options) (name : Name) (value : String) : Option Options := do
  let n ← word? value
  match name with
  | .user => if o.user.isSome then failure else return { o with user := n }
  | .precision =>
    if o.precision.isSome || n = 0 then failure
    else return { o with precision := some n.toUInt64 }
  | .maxDepth =>
    if o.maxDepth.isSome then failure else return { o with maxDepth := n }

/-- Whether a character is the short name of an option. -/
def isShortName (c : Char) : Bool := c == 'u' || c == 'h'

/-- How an argument is read. -/
inductive Shape where
  | separate (name : Name)
  | joined (name : Name) (value : String)
  | other

/-- The shape of an argument. Unless `short` allows a value to be joined to a
short option, an argument with one dash is an option only if all its characters
are names of options. -/
def shape (short : Bool) (argument : String) : Shape :=
  match argument.toList with
  | '-' :: '-' :: cs =>
    match Name.ofLong? (cs.takeWhile (· != '=')), cs.dropWhile (· != '=') with
    | some name, [] => .separate name
    | some name, _ :: value => .joined name (String.ofList value)
    | none, _ => .other
  | ['-', 'u'] => .separate .user
  | '-' :: 'u' :: '=' :: value =>
    if short then .joined .user (String.ofList value) else .other
  | '-' :: 'u' :: value =>
    if short || value.all isShortName then
      .joined .user (String.ofList value)
    else .other
  | _ => .other

/-- Reads options up to the first argument that is none. -/
def read (short : Bool) (o : Options) :
    List String → Option (Options × List String)
  | [] => some (o, [])
  | argument :: more =>
    match shape short argument with
    | .other => some (o, argument :: more)
    | .joined name value => do read short (← o.set name value) more
    | .separate name =>
      match more with
      | [] => none
      | value :: more => do read short (← o.set name value) more

/-- The user that the options name. -/
def userId (o : Options) : UserId :=
  match o.user with
  | some n => .id n
  | none => .anonymous

/-- The settings that the options name. -/
def settings (o : Options) : Settings :=
  ⟨o.precision.getD Settings.defaultPrecision,
    o.maxDepth.getD defaultMaxDepth⟩

end Options

namespace Command

/-- Whether nothing but the end of options is left. -/
def isEnd (arguments : List String) : Bool :=
  arguments == [] || arguments == ["--"]

/-- The command that the arguments of the program ask for. -/
def ofArguments? : List String → Option Command
  | "repl" :: arguments => do
    let (options, rest) ← Options.unset.read true arguments
    guard (isEnd rest)
    return repl options.userId options.settings
  | "eval" :: arguments => do
    let (options, rest) ← Options.unset.read false arguments
    let expressions := match rest with
      | "--" :: more => more
      | more => more
    guard !expressions.isEmpty
    return eval options.userId options.settings expressions
  | "rlpl" :: arguments => do
    guard (isEnd arguments)
    return tokens
  | "rppl" :: arguments => do
    let rest := if arguments.head? = some "--postfix" then arguments.tail
      else arguments
    guard (isEnd rest)
    return trees (arguments.head? = some "--postfix")
  | _ => none

end Command

end Reckoner
