import FieldFormula.Evaluation

/-!
# Prepared formulas

A formula field is evaluated for many records. Its text is read once, and the formula is kept
together with the limits under which it was read.
-/

namespace FieldFormula

/-- A formula that was read from a source text under limits. -/
structure PreparedFormula where
  source : String
  formula : Formula
  limits : Limits

/-- Reads a source text for repeated evaluation. -/
def prepare (limits : Limits) (source : String) :
    Logged (Except SyntaxError PreparedFormula) := do
  let reading ← Formula.parseLogged limits source
  return reading.map fun formula => { source, formula, limits }

namespace PreparedFormula

/-- The names of the fields that the formula reads, in the order in which they first appear. -/
def identifiers (prepared : PreparedFormula) : List String :=
  prepared.formula.identifiers

def evaluate {σ : Type} [Scope σ] (prepared : PreparedFormula) (scope : σ) :
    Logged (Except EvaluationError Value) :=
  prepared.formula.evaluate prepared.limits scope

end PreparedFormula

end FieldFormula
