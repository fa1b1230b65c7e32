import FieldFormula.Number.Binary64

/-!
# Arithmetic and order of binary64 numbers

The IEEE 754 operations: the exact result rounded once, NaN where there is no result, infinities
and signed zeros by the rules of the standard. The remainder is that of the division that rounds
toward zero, so it has the sign of the dividend.
-/

namespace FieldFormula.Binary64

/-- A count of units with its sign. -/
def signed (negative : Bool) (units : Nat) : Int :=
  if negative then -units else units

/-- The same number with the other sign; NaN stays NaN. -/
def negate : Binary64 → Binary64
  | .nan => .nan
  | .infinite negative => .infinite !negative
  | .finite negative units representable => .finite (!negative) units representable

@[simp] theorem negate_negate (x : Binary64) : x.negate.negate = x := by
  cases x <;> simp [negate]

@[simp] theorem isFinite_negate (x : Binary64) : x.negate.isFinite = x.isFinite := by
  cases x <;> rfl

/-- The sum. Opposite numbers add up to the positive zero. -/
def add : Binary64 → Binary64 → Binary64
  | .nan, _ => .nan
  | _, .nan => .nan
  | .infinite a, .infinite b => if a = b then .infinite a else .nan
  | .infinite a, .finite .. => .infinite a
  | .finite .., .infinite b => .infinite b
  | .finite a m _, .finite b n _ =>
    let sum := signed a m + signed b n
    if sum = 0 then zero (a && b) else round (sum < 0) sum.natAbs 1

def subtract (x y : Binary64) : Binary64 :=
  x.add y.negate

def multiply : Binary64 → Binary64 → Binary64
  | .nan, _ => .nan
  | _, .nan => .nan
  | .infinite a, .infinite b => .infinite (a ^^ b)
  | .infinite a, .finite b n _ => if n = 0 then .nan else .infinite (a ^^ b)
  | .finite a m _, .infinite b => if m = 0 then .nan else .infinite (a ^^ b)
  | .finite a m _, .finite b n _ => round (a ^^ b) (m * n) unitsInOne

def divide : Binary64 → Binary64 → Binary64
  | .nan, _ => .nan
  | _, .nan => .nan
  | .infinite _, .infinite _ => .nan
  | .infinite a, .finite b _ _ => .infinite (a ^^ b)
  | .finite a _ _, .infinite b => zero (a ^^ b)
  | .finite a m _, .finite b n _ =>
    if n = 0 then
      if m = 0 then .nan else .infinite (a ^^ b)
    else
      round (a ^^ b) (m * unitsInOne) n

/-- The remainder, with the sign of the dividend. -/
def remainder : Binary64 → Binary64 → Binary64
  | .nan, _ => .nan
  | _, .nan => .nan
  | .infinite _, _ => .nan
  | .finite a m representable, .infinite _ => .finite a m representable
  | .finite a m _, .finite _ n _ => if n = 0 then .nan else round a (m % n) 1

/-- How two numbers compare; NaN compares with nothing, and the two zeros are equal. -/
def compare? : Binary64 → Binary64 → Option Ordering
  | .nan, _ => none
  | _, .nan => none
  | .infinite a, .infinite b => some (if a = b then .eq else if a then .lt else .gt)
  | .infinite a, .finite .. => some (if a then .lt else .gt)
  | .finite .., .infinite b => some (if b then .gt else .lt)
  | .finite a m _, .finite b n _ => some (compare (signed a m) (signed b n))

/-- Numeric equality: NaN differs from itself, and the two zeros are equal. -/
def equals (x y : Binary64) : Bool :=
  x.compare? y == some .eq

end FieldFormula.Binary64
