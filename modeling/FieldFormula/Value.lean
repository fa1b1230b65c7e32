import FieldFormula.Json
import FieldFormula.Number.Shortest
import FieldFormula.Text.Quoted

/-!
# Values

A value is what a field of a record holds and what a formula yields: nothing, a truth value, a
number or a text. `Value.toNumber?` is the one reading of values as numbers; it yields finite
numbers only.
-/

namespace FieldFormula

/-- What a field holds and what a formula yields. -/
inductive Value where
  | null
  | boolean (value : Bool)
  | number (value : Binary64)
  | text (value : String)
  deriving DecidableEq

namespace Value

instance : Inhabited Value := ⟨.null⟩

def typeName : Value → String
  | .null => "null"
  | .boolean _ => "boolean"
  | .number _ => "number"
  | .text _ => "string"

def isNull : Value → Bool
  | .null => true
  | _ => false

/-- The number that a text spells: blanks around it do not count, nothing but blanks is zero, and
a numeral past the largest finite number has no reading. -/
def numberOfText? (text : String) : Option Binary64 :=
  let numeral := Text.trim text.toList
  if numeral = [] then
    some (.zero false)
  else
    ((Decimal.parse? numeral).map Decimal.toBinary64).filter Binary64.isFinite

/-- The value read as a number: truth values are one and zero, null is zero. Numbers that are not
finite and texts that spell no number have no reading. -/
def toNumber? : Value → Option Binary64
  | .null => some (.zero false)
  | .boolean value => some (.ofInt (if value then 1 else 0))
  | .number value => if value.isFinite then some value else none
  | .text value => numberOfText? value

/-- The value read as a condition: null, zero, NaN and the empty text do not hold. -/
def isTruthy : Value → Bool
  | .null => false
  | .boolean value => value
  | .number value => !value.isZero && !value.isNaN
  | .text value => value != ""

/-- The value in text, without quote marks. -/
def toText : Value → String
  | .null => "null"
  | .boolean value => if value then "true" else "false"
  | .number value => value.toText
  | .text value => value

/-- The value as a message cites it: a text stands between quote marks. -/
def cite : Value → String
  | .text value => Text.quoteText value
  | value => value.toText

/-! ### Conversions -/

def ofInt (n : Int) : Value :=
  .number (.ofInt n)

def ofOption : Option Value → Value
  | none => .null
  | some value => value

/-- The value that JSON stands for; arrays and objects stand for none. -/
def ofJson? : Json → Option Value
  | .null => some .null
  | .boolean value => some (.boolean value)
  | .integer value => some (.ofInt value)
  | .number value => some (.number value)
  | .string value => some (.text value)
  | .array _ => none
  | .object _ => none

def toJson : Value → Json
  | .null => .null
  | .boolean value => .boolean value
  | .number value => if value.isFinite then .number value else .null
  | .text value => .string value

/-- A value whose number, if it is one, is finite survives the way through JSON. -/
theorem ofJson?_toJson {value : Value} (finite : ∀ n, value = .number n → n.isFinite = true) :
    ofJson? value.toJson = some value := by
  cases value with
  | number n => simp [toJson, ofJson?, finite n rfl]
  | _ => rfl

end Value

end FieldFormula
