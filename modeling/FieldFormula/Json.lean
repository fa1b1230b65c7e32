import FieldFormula.Number.Binary64

/-!
# JSON values

Records, settings and answers travel as JSON. A number is either a whole number, written without
point and exponent, or a binary64 number; only the first kind can be a count.
-/

namespace FieldFormula

/-- A JSON value. The fields of an object keep their order. -/
inductive Json where
  | null
  | boolean (value : Bool)
  | integer (value : Int)
  | number (value : Binary64)
  | string (text : String)
  | array (items : List Json)
  | object (fields : List (String × Json))

namespace Json

def field? (name : String) : Json → Option Json
  | .object fields => (fields.find? fun field => field.1 == name).map Prod.snd
  | _ => none

def items? : Json → Option (List Json)
  | .array items => some items
  | _ => none

def text? : Json → Option String
  | .string text => some text
  | _ => none

def boolean? : Json → Option Bool
  | .boolean value => some value
  | _ => none

/-- The first number that is too large for a count. -/
def countLimit : Nat := 2 ^ 64

/-- A whole number from zero to `2 ^ 64 - 1`. -/
def count? : Json → Option Nat
  | .integer value => if 0 ≤ value ∧ value < countLimit then some value.toNat else none
  | _ => none

end Json

end FieldFormula
