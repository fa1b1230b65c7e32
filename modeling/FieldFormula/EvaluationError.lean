import FieldFormula.Formula.Admissible
import FieldFormula.SyntaxError
import FieldFormula.Value

/-!
# Evaluation errors

Why a formula has no value in a scope. The first failure ends an evaluation; there are no partial
results.
-/

namespace FieldFormula

/-- Why an evaluation failed. -/
inductive EvaluationError where
  -- The text is no formula.
  | syntaxError (error : SyntaxError)
  | unknownIdentifier (name : String)
  -- The value has no reading as a number.
  | notNumeric (value : Value)
  | divisionByZero (op : BinaryOp)
  | nonFiniteResult (op : BinaryOp)
  -- A node of the formula is not admitted.
  | disallowed (refusal : Refusal)
  | depthExceeded (limit : Nat)
  deriving DecidableEq

namespace EvaluationError

def kindName : EvaluationError → String
  | .syntaxError _ => "Syntax"
  | .unknownIdentifier _ => "UnknownIdentifier"
  | .notNumeric _ => "NotNumeric"
  | .divisionByZero _ => "DivisionByZero"
  | .nonFiniteResult _ => "NonFiniteResult"
  | .disallowed _ => "Disallowed"
  | .depthExceeded _ => "DepthExceeded"

def message : EvaluationError → String
  | .syntaxError error => "syntax error: " ++ error.toText
  | .unknownIdentifier name => "unknown identifier: " ++ name
  | .notNumeric value =>
    "cannot convert " ++ value.typeName ++ " " ++ value.cite ++ " to a number"
  | .divisionByZero op => "division by zero in '" ++ op.symbol ++ "'"
  | .nonFiniteResult op => "result of '" ++ op.symbol ++ "' is not a finite number"
  | .disallowed refusal => "disallowed operation: " ++ refusal.message
  | .depthExceeded limit =>
    "expression nesting exceeds the " ++ toString limit ++ "-level limit"

end EvaluationError

end FieldFormula
