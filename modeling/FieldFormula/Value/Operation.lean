import FieldFormula.EvaluationError
import FieldFormula.Number.Arithmetic
import FieldFormula.Operator

/-!
# Operators on values

What the operators yield once their operands have values. Arithmetic reads its operands as
numbers, the left one first, and its result has to be finite. A division by zero is an error of
its own.
-/

namespace FieldFormula

namespace Value

def asNumber (value : Value) : Except EvaluationError Binary64 :=
  match value.toNumber? with
  | some reading => .ok reading
  | none => .error (.notNumeric value)

/-- Equality without conversion: the same type and the same value. -/
def strictEquals : Value → Value → Bool
  | .null, .null => true
  | .boolean a, .boolean b => a == b
  | .number a, .number b => a.equals b
  | .text a, .text b => a == b
  | _, _ => false

/-- Equality that reads both sides as numbers if exactly one of them is a boolean. Other values of
different types are not equal. -/
def looseEquals (left right : Value) : Except EvaluationError Bool :=
  match left, right with
  | .boolean a, .boolean b => .ok (a == b)
  | .boolean _, _ | _, .boolean _ => do
    let a ← left.asNumber
    let b ← right.asNumber
    return a.equals b
  | _, _ => .ok (left.strictEquals right)

/-- The order of texts by their characters' code points. -/
def compareTexts : List Char → List Char → Ordering
  | [], [] => .eq
  | [], _ :: _ => .lt
  | _ :: _, [] => .gt
  | a :: left, b :: right => (compare a.toNat b.toNat).then (compareTexts left right)

/-- The order of values: two texts by their characters, all else as numbers. -/
def order (left right : Value) : Except EvaluationError Ordering :=
  match left, right with
  | .text a, .text b => .ok (compareTexts a.toList b.toList)
  | _, _ => do
    let a ← left.asNumber
    let b ← right.asNumber
    return (a.compare? b).getD .eq

end Value

def PrefixOp.apply (op : PrefixOp) (operand : Value) : Except EvaluationError Value :=
  match op with
  | .negate => return .number (← operand.asNumber).negate
  | .plus => return .number (← operand.asNumber)
  | .not => .ok (.boolean !operand.isTruthy)

/-- The value of an arithmetic operator; it has to be finite. -/
def BinaryOp.arithmetic (op : BinaryOp) (compute : Binary64 → Binary64 → Binary64)
    (left right : Value) : Except EvaluationError Value := do
  let a ← left.asNumber
  let b ← right.asNumber
  let result := compute a b
  if result.isFinite then
    return .number result
  else
    throw (.nonFiniteResult op)

/-- The value of a division; the divisor may not be zero. -/
def BinaryOp.division (op : BinaryOp) (compute : Binary64 → Binary64 → Binary64)
    (left right : Value) : Except EvaluationError Value := do
  let a ← left.asNumber
  let b ← right.asNumber
  if b.isZero then
    throw (.divisionByZero op)
  let result := compute a b
  if result.isFinite then
    return .number result
  else
    throw (.nonFiniteResult op)

def BinaryOp.apply (op : BinaryOp) (left right : Value) : Except EvaluationError Value :=
  match op with
  | .strictEquals => .ok (.boolean (left.strictEquals right))
  | .strictNotEquals => .ok (.boolean !left.strictEquals right)
  | .equals => return .boolean (← left.looseEquals right)
  | .notEquals => return .boolean !(← left.looseEquals right)
  | .greater => return .boolean ((← left.order right) == .gt)
  | .less => return .boolean ((← left.order right) == .lt)
  | .greaterEquals => return .boolean ((← left.order right) != .lt)
  | .lessEquals => return .boolean ((← left.order right) != .gt)
  | .add => op.arithmetic Binary64.add left right
  | .subtract => op.arithmetic Binary64.subtract left right
  | .multiply => op.arithmetic Binary64.multiply left right
  | .divide => op.division Binary64.divide left right
  | .remainder => op.division Binary64.remainder left right

/-- The left operand decides a logical operator by itself. -/
def LogicalOp.isDecidedBy (op : LogicalOp) (left : Value) : Bool :=
  match op with
  | .and => !left.isTruthy
  | .or => left.isTruthy

end FieldFormula
