import FieldFormula.Evaluation.Basic
import FieldFormula.Formula.ParseLogged
import FieldFormula.Scope
import FieldFormula.Value.Operation

/-!
# Evaluation

The value of a formula in a scope. Operands are evaluated from left to right, and the first error
ends the evaluation. `&&`, `||` and `? :` evaluate only the operands that they need; the logical
operators yield the value of the operand that decided.

The nesting of an evaluation is limited, so that formulas put together by hand cannot exhaust it,
and every node is looked at only after it is found admissible.
-/

namespace FieldFormula

def Literal.toValue : Literal → Value
  | .number value => .number value
  | .text value => .text value
  | .boolean value => .boolean value

namespace Formula

variable {σ : Type} [Scope σ]

/-- The value of a field, or the error that there is no such field. -/
def valueOfField (scope : σ) (name : String) : Except EvaluationError Value :=
  match Scope.lookup scope name with
  | some value => .ok value
  | none => .error (.unknownIdentifier name)

/-- Evaluates a formula in a scope, at the level of nesting that has been reached. -/
def eval (maxDepth : Nat) (scope : σ) : Formula → Evaluation Value
  | .literal value =>
    Evaluation.ofNode maxDepth (.literal value) (return value.toValue)
  | .identifier name =>
    Evaluation.ofNode maxDepth (.identifier name) (.ofExcept (valueOfField scope name))
  | .unary op operand =>
    Evaluation.ofNode maxDepth (.unary op operand) do
      let value ← operand.eval maxDepth scope
      .ofExcept (op.apply value)
  | .binary op left right =>
    Evaluation.ofNode maxDepth (.binary op left right) do
      let leftValue ← left.eval maxDepth scope
      let rightValue ← right.eval maxDepth scope
      .ofExcept (op.apply leftValue rightValue)
  | .logical op left right =>
    Evaluation.ofNode maxDepth (.logical op left right) do
      let leftValue ← left.eval maxDepth scope
      if op.isDecidedBy leftValue then
        return leftValue
      else
        right.eval maxDepth scope
  | .conditional test consequent alternate =>
    Evaluation.ofNode maxDepth (.conditional test consequent alternate) do
      let testValue ← test.eval maxDepth scope
      if testValue.isTruthy then
        consequent.eval maxDepth scope
      else
        alternate.eval maxDepth scope

/-- Evaluates formulas one after another with one count of nesting, which is `nesting` before. -/
def evalAll (maxDepth : Nat) (scope : σ) (nesting : Nat) :
    List Formula → Logged (List (Except EvaluationError Value) × Nat)
  | [] => return ([], nesting)
  | formula :: rest => do
    let (outcome, reached) ← (formula.eval maxDepth scope).startingAt nesting
    let (outcomes, reached) ← evalAll maxDepth scope reached rest
    return (outcome :: outcomes, reached)

/-- The log entry of an outcome, if it makes one. -/
def entryOf? : Except EvaluationError Value → Option LogEntry
  | .ok _ => none
  | .error error => some (.failed error)

def evaluate (limits : Limits) (formula : Formula) (scope : σ) :
    Logged (Except EvaluationError Value) := do
  Logged.log (.evaluating formula.kind)
  let (outcome, _) ← (formula.eval limits.maxDepth scope).startingAt 0
  Logged.logAll (entryOf? outcome).toList
  return outcome

end Formula

/-- The value that a source text has in a scope. -/
def evaluate {σ : Type} [Scope σ] (limits : Limits) (source : String) (scope : σ) :
    Logged (Except EvaluationError Value) := do
  match ← Formula.parseLogged limits source with
  | .error error => return .error (.syntaxError error)
  | .ok formula => formula.evaluate limits scope

end FieldFormula
