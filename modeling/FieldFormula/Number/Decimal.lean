import FieldFormula.Number.Binary64
import FieldFormula.Text.Alphabet

/-!
# Decimal numerals

A decimal is a sign, a whole coefficient and a power of ten. `Decimal.parse?` reads the numerals

    [+-] digits [. digits] [(e|E) [+-] digits]        at least one digit around the point

and `Decimal.toBinary64` takes the nearest binary64 number. `Decimal.positional` writes a decimal
out in full, with neither an exponent nor zeros at the end of the fraction.
-/

namespace FieldFormula

/-- The number `± coefficient * 10 ^ exponent`. -/
structure Decimal where
  negative : Bool
  coefficient : Nat
  exponent : Int
  deriving DecidableEq, Repr

namespace Decimal

/-! ### Reading -/

/-- Splits off a leading sign; without one the number is not negative. -/
def splitSign : List Char → Bool × List Char
  | '-' :: rest => (true, rest)
  | '+' :: rest => (false, rest)
  | text => (false, text)

def splitDigits (text : List Char) : List Char × List Char :=
  (text.takeWhile Text.isDigit, text.dropWhile Text.isDigit)

/-- Splits off a point and the digits after it; without a point there are none. -/
def splitFraction : List Char → List Char × List Char
  | '.' :: rest => splitDigits rest
  | text => ([], text)

def ofDigits (digits : List Char) : Nat :=
  Nat.ofDigitChars 10 digits 0

/-- Reads the exponent that ends a numeral; an absent one is zero. -/
def exponent? : List Char → Option Int
  | [] => some 0
  | mark :: rest =>
    if mark = 'e' || mark = 'E' then
      let (negative, digits) := splitSign rest
      if digits ≠ [] && digits.all Text.isDigit then
        some (if negative then -(ofDigits digits : Int) else ofDigits digits)
      else
        none
    else
      none

/-- Reads a numeral that takes up the whole text. -/
def parse? (text : List Char) : Option Decimal :=
  let (negative, unsigned) := splitSign text
  let (whole, afterWhole) := splitDigits unsigned
  let (fraction, afterFraction) := splitFraction afterWhole
  if whole = [] && fraction = [] then
    none
  else
    (exponent? afterFraction).map fun exponent =>
      { negative
        coefficient := ofDigits (whole ++ fraction)
        exponent := exponent - fraction.length }

/-- The nearest binary64 number. Exponents far outside the range of the format decide the answer
by themselves, so that no large power is computed for them. -/
def toBinary64 (d : Decimal) : Binary64 :=
  if d.coefficient = 0 then
    .zero d.negative
  else if 400 < d.exponent then
    .infinite d.negative
  else if d.exponent + d.coefficient.log2 + 400 < 0 then
    .zero d.negative
  else
    .round d.negative (d.coefficient * 10 ^ d.exponent.toNat * Binary64.unitsInOne)
      (10 ^ (-d.exponent).toNat)

/-! ### Writing -/

def dropTrailingZeros (digits : List Char) : List Char :=
  (digits.reverse.dropWhile (· == '0')).reverse

/-- A fraction with its point; nothing for an empty fraction. -/
def pointed : List Char → List Char
  | [] => []
  | digits => '.' :: digits

def positional (d : Decimal) : List Char :=
  let digits := Nat.toDigits 10 d.coefficient
  let places := (-d.exponent).toNat
  let shown := List.replicate (places + 1 - digits.length) '0' ++ digits
  let whole := shown.take (shown.length - places)
  let fraction := shown.drop (shown.length - places)
  let magnitude :=
    whole ++ List.replicate d.exponent.toNat '0' ++ pointed (dropTrailingZeros fraction)
  if d.negative then '-' :: magnitude else magnitude

end Decimal

/-- Reads a number from text: a decimal numeral, or `inf`, `infinity` or `nan` in letters of
either case, all with an optional sign. -/
def Binary64.parse? (text : List Char) : Option Binary64 :=
  match Decimal.parse? text with
  | some decimal => some decimal.toBinary64
  | none =>
    let (negative, word) := Decimal.splitSign text
    let word := String.ofList (word.map Char.toLower)
    if word = "inf" || word = "infinity" then some (.infinite negative)
    else if word = "nan" then some .nan
    else none

end FieldFormula
