import FieldFormula.Formula.Parse
import FieldFormula.Log

/-!
# Reading with a log

The reading of a formula is reported in the log, unless the text is too long or blank: those are
refused before anything is read.
-/

namespace FieldFormula.Formula

/-- Reads a formula from its source text and reports that it does. -/
def parseLogged (limits : Limits) (source : String) : Logged (Except SyntaxError Formula) :=
  match checkSource limits source.toList with
  | .ok _ => do
    Logged.log (.parsing source)
    return parse limits source
  | .error error => return .error error

theorem value_parseLogged (limits : Limits) (source : String) :
    (parseLogged limits source).value = parse limits source := by
  unfold parseLogged parse ofChars
  cases checkSource limits source.toList <;> rfl

end FieldFormula.Formula
