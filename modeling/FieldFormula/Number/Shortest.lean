import FieldFormula.Number.Decimal

/-!
# The shortest decimal of a number

A finite number is written with the fewest significant digits that read back as the same number;
of two such decimals the one nearer to the number is taken, and the larger one if they are equally
near. It is written out in full: no exponent, no point after a whole number, and a minus sign also
before the negative zero.
-/

namespace FieldFormula.Binary64

/-- The number of places after the point that write every finite number exactly. -/
def exactPlaces : Nat := 1074

/-- One unit as a whole number of `10 ^ -1074`. -/
def exactUnit : Nat := 5 ^ exactPlaces

/-- A decimal that counts `10 ^ (dropped - 1074)`. -/
def countingDecimal (coefficient dropped : Nat) : Decimal :=
  { negative := false, coefficient, exponent := dropped - exactPlaces }

def readsBack (units : Nat) (decimal : Decimal) : Bool :=
  match decimal.toBinary64 with
  | .finite _ read _ => read == units
  | _ => false

/-- The number of decimal digits of a positive number of up to 7000 binary digits: 1233 / 4096 is
so little below the decimal logarithm of two that the first estimate is at most one too small. -/
def decimalLength (n : Nat) : Nat :=
  let estimate := n.log2 * 1233 / 4096 + 1
  if 10 ^ estimate ≤ n then estimate + 1 else estimate

/-- The decimal nearest to `exact * 10 ^ -1074`, the value of `units`, among those that leave out
the last `dropped` digits of `exact` and read back; of two equally near ones the larger. -/
def nearestReadingBack? (units exact dropped : Nat) : Option Decimal :=
  let step := 10 ^ dropped
  let below := exact / step
  let candidates :=
    if 2 * (exact % step) < step then [below, below + 1] else [below + 1, below]
  (candidates.map fun coefficient => countingDecimal coefficient dropped).find? (readsBack units)

/-- The decimal for the first count of dropped digits that leaves one which reads back, or else
the exact one. -/
def shortestAmong (units exact : Nat) (drops : List Nat) : Decimal :=
  (drops.findSome? (nearestReadingBack? units exact)).getD (countingDecimal exact 0)

/-- The decimal of a positive count of units with the fewest digits that read back. Seventeen
digits always suffice. -/
def shortestDecimal (units : Nat) : Decimal :=
  let exact := units * exactUnit
  let digits := decimalLength exact
  shortestAmong units exact ((List.range 17).map fun kept => digits - (kept + 1))

def spelling : Binary64 → List Char
  | .nan => ['N', 'a', 'N']
  | .infinite negative => if negative then ['-', 'i', 'n', 'f'] else ['i', 'n', 'f']
  | .finite negative units _ =>
    let decimal : Decimal := if units = 0 then ⟨false, 0, 0⟩ else shortestDecimal units
    { decimal with negative }.positional

def toText (x : Binary64) : String :=
  String.ofList x.spelling

end FieldFormula.Binary64
