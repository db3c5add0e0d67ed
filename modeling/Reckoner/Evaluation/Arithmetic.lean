import Reckoner.Decimal.Division
import Reckoner.Evaluation.Error

/-!
Operators and functions on values.

Two numbers are brought to one kind first: two whole numbers stay whole, a real
number makes the other one real, and otherwise both become decimals. A real
number that is not finite counts as an overflow.

* `Operands`, `promote`: two operands of one kind;
* `arithmetic`: sums, differences, products, quotients and powers;
* `compareValues`: the six comparisons;
* `applyFunction`: `sqrt`, `exp` and `log`.
-/

namespace Reckoner

/-- Two operands of one kind. -/
inductive Operands where
  | integers (left right : Int)
  | decimals (left right : Decimal)
  | reals (left right : Float)

/-! ### Bringing operands to one kind -/

/-- The real number that a value is, for an operation that messages call
`operation`. -/
def real (v : Value) (operation : String) : Except EvalCause Float :=
  match v.toFloat? with
  | none => .error (.notANumber v.kind)
  | some x => if x.isFinite then .ok x else .error (.overflow operation)

/-- A result, which has to be finite. -/
def finite (x : Float) (operation : String) : Except EvalCause Float :=
  if x.isFinite then .ok x else .error (.overflow operation)

/-- Brings two operands to one kind. The left one is blamed first. -/
def promote (left right : Value) (operation : String) :
    Except EvalCause Operands := do
  if !left.isNumber then throw (.notANumber left.kind)
  if !right.isNumber then throw (.notANumber right.kind)
  match left, right with
  | .integer a, .integer b => return .integers a b
  | .integer a, .decimal b => return .decimals (.ofInt a) b
  | .decimal a, .integer b => return .decimals a (.ofInt b)
  | .decimal a, .decimal b => return .decimals a b
  | _, _ => return .reals (← real left operation) (← real right operation)

/-- Whether the right operand is zero. -/
def Operands.rightIsZero : Operands → Bool
  | integers _ b => b == 0
  | decimals _ b => b.unscaled == 0
  | reals _ b => b == 0.0

/-! ### Arithmetic -/

/-- The power of two real numbers. -/
def power (base exponent : Value) : Except EvalCause Value := do
  let x ← real base Operator.pow.symbol
  let y ← real exponent Operator.pow.symbol
  if x == 0.0 && y < 0.0 then throw .divisionByZero
  let z := Float.pow x y
  if z.isNaN then throw .powerDomain
  return .real (← finite z Operator.pow.symbol)

/-- Arithmetic on whole numbers. A quotient is a decimal. -/
def integerArithmetic (op : Operator) (a b : Int) (precision : UInt64) :
    Except EvalCause Value :=
  match op with
  | .add => .ok (.integer (a + b))
  | .sub => .ok (.integer (a - b))
  | .mul => .ok (.integer (a * b))
  | .div => .ok (.decimal (.div (.ofInt a) (.ofInt b) precision))
  | _ => .error (.notArithmetic op)

/-- Arithmetic on decimals. -/
def decimalArithmetic (op : Operator) (a b : Decimal) (precision : UInt64) :
    Except EvalCause Value :=
  match op with
  | .add => .ok (.decimal (a.add b))
  | .sub => .ok (.decimal (a.sub b))
  | .mul => .ok (.decimal (a.mul b))
  | .div => .ok (.decimal (a.div b precision))
  | _ => .error (.notArithmetic op)

/-- Arithmetic on real numbers. -/
def realArithmetic (op : Operator) (a b : Float) : Except EvalCause Value :=
  match op with
  | .add => (finite (a + b) op.symbol).map .real
  | .sub => (finite (a - b) op.symbol).map .real
  | .mul => (finite (a * b) op.symbol).map .real
  | .div => (finite (a / b) op.symbol).map .real
  | _ => .error (.notArithmetic op)

/-- Sums, differences, products, quotients and powers. Exact operands have exact
results, but for quotients, which have `precision` significant digits. -/
def arithmetic (op : Operator) (left right : Value) (precision : UInt64) :
    Except EvalCause Value := do
  if op = .pow then return ← power left right
  let operands ← promote left right op.symbol
  if op = .div && operands.rightIsZero then throw .divisionByZero
  match operands with
  | .integers a b => integerArithmetic op a b precision
  | .decimals a b => decimalArithmetic op a b precision
  | .reals a b => realArithmetic op a b

/-! ### Comparison -/

/-- The order of two real numbers; numbers that have none count as equal. -/
def compareReals (a b : Float) : Ordering :=
  if a < b then .lt else if b < a then .gt else .eq

/-- The order of two operands. -/
def Operands.order : Operands → Ordering
  | integers a b => compare a b
  | decimals a b => a.cmp b
  | reals a b => compareReals a b

/-- Whether an order is one that a comparison sign stands for. -/
def Operator.holds (op : Operator) (order : Ordering) :
    Except EvalCause Bool :=
  match op with
  | equal => .ok (order == .eq)
  | notEqual => .ok (order != .eq)
  | greater => .ok (order == .gt)
  | less => .ok (order == .lt)
  | greaterOrEqual => .ok (order != .lt)
  | lessOrEqual => .ok (order != .gt)
  | _ => .error (.notAComparison op)

/-- Compares two values. Truth values are equal or not, and have no order. -/
def compareValues (op : Operator) (left right : Value) :
    Except EvalCause Value :=
  match left, right with
  | .boolean a, .boolean b =>
    match op with
    | .equal => .ok (.boolean (a == b))
    | .notEqual => .ok (.boolean (a != b))
    | _ => .error (.notANumber .boolean)
  | _, _ => do
    let operands ← promote left right op.symbol
    return .boolean (← op.holds operands.order)

/-! ### Functions -/

/-- A function of one real number. -/
def applyFunction (f : RealFunction) (argument : Value) :
    Except EvalCause Value := do
  let x ← real argument f.name
  match f with
  | .sqrt =>
    if x < 0.0 then throw .sqrtOfNegative
    return .real x.sqrt
  | .exp => return .real (← finite x.exp f.name)
  | .log =>
    if x <= 0.0 then throw .logarithmDomain
    return .real x.log

end Reckoner
