import FieldFormula.Formula.ParseLogged

/-!
# Validation

Before a formula is saved, all that speaks against it is collected, so that its author can mend it
at once: characters that no formula may contain, the syntax error if there is one, names that are
no fields, and nodes that are not admitted. Nothing is evaluated.
-/

namespace FieldFormula

/-- Something that speaks against a formula. -/
inductive Finding where
  -- Characters outside the alphabet, each once.
  | foreignCharacters (characters : List Char)
  | syntaxError (error : SyntaxError)
  | unknownIdentifier (name : String)
  | disallowed (refusal : Refusal)
  deriving DecidableEq

def Finding.message : Finding → String
  | .foreignCharacters characters =>
    "Expression contains disallowed characters: "
      ++ ", ".intercalate (characters.map Text.quoteChar)
  | .syntaxError error => "Syntax error: " ++ error.toText
  | .unknownIdentifier name => "Unknown identifier '" ++ name ++ "'"
  | .disallowed refusal => "Disallowed operation: " ++ refusal.message

structure Verdict where
  isValid : Bool
  errors : List String
  deriving DecidableEq, Repr

/-- A formula without findings is valid. -/
def Verdict.ofFindings (findings : List Finding) : Verdict :=
  { isValid := findings.isEmpty
    errors := findings.map Finding.message }

/-- The characters outside the alphabet, each once, in the order in which they first appear. -/
def foreignCharacters (text : List Char) : List Char :=
  (text.filter fun c => !Text.isAllowed c).eraseDups

/-- The finding of these foreign characters, if there are any. -/
def alphabetFindings : (foreign : List Char) → List Finding
  | [] => []
  | foreign => [.foreignCharacters foreign]

/-- The findings in a formula whose names should be among the available ones. -/
def Formula.findings (formula : Formula) (available : List String) : List Finding :=
  (formula.identifiers.filter fun name => !available.contains name).map
      Finding.unknownIdentifier
    ++ formula.refusals.map Finding.disallowed

/-- The findings of the attempt to read a formula from a text with these foreign characters. That
there is one is reported with all of them and not a second time. -/
def readingFindings (available : List String) (foreign : List Char) :
    Except SyntaxError Formula → List Finding
  | .ok formula => formula.findings available
  | .error error =>
    if error.kind = .disallowedCharacter ∧ foreign ≠ [] then [] else [.syntaxError error]

/-- Checks a source text against the grammar, the limits and the names of the available fields. -/
def validate (limits : Limits) (source : String) (available : List String) : Logged Verdict := do
  let reading ← Formula.parseLogged limits source
  let foreign := foreignCharacters source.toList
  let verdict := Verdict.ofFindings
    (alphabetFindings foreign ++ readingFindings available foreign reading)
  Logged.logAll (if verdict.isValid then [] else [.rejected source verdict.errors])
  return verdict

end FieldFormula
