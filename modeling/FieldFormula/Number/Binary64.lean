/-!
# Binary64 numbers

The numbers of formulas are the IEEE 754 binary64 numbers, kept exactly: a finite number is a
sign and a whole count of units, where one unit is `2 ^ -1074`, the least positive number. Every
finite number is such a count, so all arithmetic is exact arithmetic on natural numbers followed
by one rounding.

`Binary64.round` is that rounding: to the nearest representable count, of two equally near ones
to the one with the even last place, and past the largest finite number to infinity.
-/

namespace FieldFormula

-- Powers of natural numbers are those of the core library, whatever algebra is imported beside it.
@[default_instance 20000]
instance (priority := 20000) naturalPower : Pow Nat Nat := instPowNat

namespace Binary64

def unitsInOne : Nat := 2 ^ 1074

/-- The first count of units that is too large for a finite number. -/
def unitsLimit : Nat := 2 ^ 2098

/-- A count of units is a binary64 number if it has at most 53 binary places and is not too
large. -/
def Representable (units : Nat) : Prop :=
  2 ^ (units.log2 - 52) ∣ units ∧ units < unitsLimit

instance (units : Nat) : Decidable (Representable units) :=
  inferInstanceAs (Decidable (_ ∧ _))

theorem unitsLimit_pos : 0 < unitsLimit := by
  unfold unitsLimit
  apply Nat.pow_pos
  decide

theorem representable_zero : Representable 0 :=
  ⟨Nat.dvd_zero _, unitsLimit_pos⟩

end Binary64

/-- An IEEE 754 binary64 number; zero has a sign, and all kinds of NaN are one. -/
inductive Binary64 where
  | nan
  | infinite (negative : Bool)
  | finite (negative : Bool) (units : Nat) (representable : Binary64.Representable units)
  deriving DecidableEq

namespace Binary64

def zero (negative : Bool) : Binary64 :=
  .finite negative 0 representable_zero

instance : Inhabited Binary64 := ⟨zero false⟩

/-- The number is neither NaN nor infinite. -/
def isFinite : Binary64 → Bool
  | .finite .. => true
  | _ => false

def isZero : Binary64 → Bool
  | .finite _ units _ => units == 0
  | _ => false

def isNaN : Binary64 → Bool
  | .nan => true
  | _ => false

/-- The number carries a minus sign; NaN carries none. -/
def isNegative : Binary64 → Bool
  | .nan => false
  | .infinite negative => negative
  | .finite negative _ _ => negative

/-! ### Rounding -/

/-- The quotient rounded to the nearest whole number, a half to the even one. -/
def divNearest (numerator denominator : Nat) : Nat :=
  let quotient := numerator / denominator
  let remainder := numerator % denominator
  if 2 * remainder < denominator then quotient
  else if denominator < 2 * remainder then quotient + 1
  else if quotient % 2 = 0 then quotient
  else quotient + 1

/-- The quotient rounded to 53 binary places, or to a whole count if it is smaller than that. -/
def roundUnits (numerator denominator : Nat) : Nat :=
  let places := (numerator / denominator).log2 - 52
  divNearest numerator (denominator * 2 ^ places) * 2 ^ places

theorem divNearest_le (numerator denominator : Nat) :
    divNearest numerator denominator ≤ numerator / denominator + 1 := by
  simp only [divNearest]
  split
  · omega
  · split
    · omega
    · split <;> omega

/-- A significand of 53 binary places brings no further places. -/
theorem places_mul_two_pow_le {significand places : Nat} (below : significand < 2 ^ 53) :
    (significand * 2 ^ places).log2 - 52 ≤ places := by
  by_cases none : significand * 2 ^ places = 0
  · simp [none]
  · have product_lt : significand * 2 ^ places < 2 ^ (53 + places) := by
      rw [Nat.pow_add]
      exact Nat.mul_lt_mul_of_pos_right below (Nat.two_pow_pos _)
    have log_lt := (Nat.log2_lt none).2 product_lt
    omega

theorem dvd_mul_two_pow {significand places : Nat} (significand_le : significand ≤ 2 ^ 53) :
    2 ^ ((significand * 2 ^ places).log2 - 52) ∣ significand * 2 ^ places := by
  by_cases full : significand = 2 ^ 53
  · -- Rounding up to the next power of two adds a binary place that is zero.
    subst full
    rw [← Nat.pow_add, Nat.log2_two_pow]
    exact Nat.pow_dvd_pow 2 (by omega)
  · have places_le := @places_mul_two_pow_le significand places (by omega)
    exact Nat.dvd_trans (Nat.pow_dvd_pow 2 places_le) (Nat.dvd_mul_left _ _)

/-- The quotient in steps of its last place has at most 53 binary places. -/
theorem divNearest_places_le (numerator denominator : Nat) :
    divNearest numerator (denominator * 2 ^ ((numerator / denominator).log2 - 52)) ≤ 2 ^ 53 := by
  refine Nat.le_trans (divNearest_le _ _) ?_
  rw [← Nat.div_div_eq_div_mul]
  have below : numerator / denominator < 2 ^ ((numerator / denominator).log2 + 1) :=
    Nat.lt_log2_self
  have quotient_lt : numerator / denominator / 2 ^ ((numerator / denominator).log2 - 52)
      < 2 ^ 53 := by
    refine Nat.div_lt_of_lt_mul (Nat.lt_of_lt_of_le below ?_)
    rw [← Nat.pow_add]
    exact Nat.pow_le_pow_right (by omega) (by omega)
  omega

/-- Rounding leaves at most 53 binary places. -/
theorem dvd_roundUnits (numerator denominator : Nat) :
    2 ^ ((roundUnits numerator denominator).log2 - 52) ∣ roundUnits numerator denominator :=
  dvd_mul_two_pow (divNearest_places_le numerator denominator)

/-- The binary64 number nearest to `numerator / denominator` units, of two equally near ones the
one whose last place is even; infinite if that is past the largest finite number. -/
def round (negative : Bool) (numerator denominator : Nat) : Binary64 :=
  if inside : roundUnits numerator denominator < unitsLimit then
    .finite negative (roundUnits numerator denominator)
      ⟨dvd_roundUnits numerator denominator, inside⟩
  else
    .infinite negative

def ofInt (n : Int) : Binary64 :=
  round (n < 0) (n.natAbs * unitsInOne) 1

end Binary64

end FieldFormula
