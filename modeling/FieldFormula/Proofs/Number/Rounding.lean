import FieldFormula.Number.Decimal

/-!
# What rounding depends on

`Binary64.round` takes a numerator and a denominator, but depends on their ratio alone, and leaves a
representable count as it is. So `Decimal.toBinary64`, with its shortcuts for extreme exponents, is
the rounding of the number that the decimal stands for, whatever its coefficient and exponent.
-/

namespace FieldFormula

namespace Binary64

/-! ### Ratios -/

theorem divNearest_mul_right {scale : Nat} (positive : 0 < scale) (numerator denominator : Nat) :
    divNearest (numerator * scale) (denominator * scale) = divNearest numerator denominator := by
  have below : 2 * (numerator % denominator * scale) < denominator * scale ↔
      2 * (numerator % denominator) < denominator := by
    rw [← Nat.mul_assoc, Nat.mul_lt_mul_right positive]
  have above : denominator * scale < 2 * (numerator % denominator * scale) ↔
      denominator < 2 * (numerator % denominator) := by
    rw [← Nat.mul_assoc, Nat.mul_lt_mul_right positive]
  simp only [divNearest, Nat.mul_div_mul_right _ _ positive, Nat.mul_mod_mul_right, below, above]

theorem roundUnits_mul_right {scale : Nat} (positive : 0 < scale) (numerator denominator : Nat) :
    roundUnits (numerator * scale) (denominator * scale) = roundUnits numerator denominator := by
  simp only [roundUnits, Nat.mul_div_mul_right _ _ positive]
  rw [Nat.mul_right_comm, divNearest_mul_right positive]

theorem round_eq_of_ratio_eq {negative : Bool} {n₁ d₁ n₂ d₂ : Nat} (positive₁ : 0 < d₁)
    (positive₂ : 0 < d₂) (same : n₁ * d₂ = n₂ * d₁) : round negative n₁ d₁ = round negative n₂ d₂ := by
  have units : roundUnits n₁ d₁ = roundUnits n₂ d₂ := by
    calc roundUnits n₁ d₁ = roundUnits (n₁ * d₂) (d₁ * d₂) := (roundUnits_mul_right positive₂ _ _).symm
      _ = roundUnits (n₂ * d₁) (d₂ * d₁) := by rw [same, Nat.mul_comm d₁ d₂]
      _ = roundUnits n₂ d₂ := roundUnits_mul_right positive₁ _ _
  simp only [round, units]

/-! ### Exact counts -/

theorem divNearest_mul_self {denominator : Nat} (positive : 0 < denominator) (quotient : Nat) :
    divNearest (quotient * denominator) denominator = quotient := by
  simp [divNearest, Nat.mul_div_cancel _ positive, positive]

theorem roundUnits_of_representable {units denominator : Nat} (representable : Representable units)
    (positive : 0 < denominator) : roundUnits (units * denominator) denominator = units := by
  obtain ⟨significand, same⟩ := representable.1
  -- The step to which the quotient is rounded divides it, so nothing is lost.
  have scaled : units * denominator =
      significand * (denominator * 2 ^ (units.log2 - 52)) := by
    calc units * denominator
        = 2 ^ (units.log2 - 52) * significand * denominator := by rw [← same]
      _ = significand * (denominator * 2 ^ (units.log2 - 52)) := by
        rw [Nat.mul_assoc, Nat.mul_comm, Nat.mul_assoc]
  have steps : 0 < denominator * 2 ^ (units.log2 - 52) :=
    Nat.mul_pos positive (Nat.two_pow_pos _)
  rw [roundUnits, Nat.mul_div_cancel _ positive, scaled, divNearest_mul_self steps, Nat.mul_comm,
    ← same]

theorem round_of_representable {negative : Bool} {units denominator : Nat}
    (representable : Representable units) (positive : 0 < denominator) :
    round negative (units * denominator) denominator = .finite negative units representable := by
  have inside : roundUnits (units * denominator) denominator < unitsLimit := by
    rw [roundUnits_of_representable representable positive]
    exact representable.2
  rw [round, dif_pos inside]
  simp only [roundUnits_of_representable representable positive]

theorem round_of_lt_half {negative : Bool} {numerator denominator : Nat}
    (small : 2 * numerator < denominator) : round negative numerator denominator = zero negative := by
  have less : numerator < denominator := by omega
  have units : roundUnits numerator denominator = 0 := by
    simp [roundUnits, divNearest, Nat.div_eq_of_lt less, Nat.mod_eq_of_lt less, small]
  simp only [round, units, dif_pos unitsLimit_pos, zero]

/-! ### Sizes -/

/-- Rounding no more than doubles a count, but for the unit that a count below one may become. -/
theorem roundUnits_le (numerator denominator : Nat) :
    roundUnits numerator denominator ≤ 2 * (numerator / denominator) + 1 := by
  -- The step of the rounding is one unit, or a power of two that is no larger than the count itself.
  have step_le : 2 ^ ((numerator / denominator).log2 - 52) ≤ numerator / denominator + 1 := by
    by_cases none : numerator / denominator = 0
    · simp [none]
    · calc 2 ^ ((numerator / denominator).log2 - 52)
          ≤ 2 ^ (numerator / denominator).log2 := Nat.pow_le_pow_right (by decide) (Nat.sub_le _ _)
        _ ≤ numerator / denominator := Nat.log2_self_le none
        _ ≤ numerator / denominator + 1 := Nat.le_succ _
  calc roundUnits numerator denominator
      ≤ (numerator / (denominator * 2 ^ ((numerator / denominator).log2 - 52)) + 1) *
          2 ^ ((numerator / denominator).log2 - 52) := Nat.mul_le_mul_right _ (divNearest_le _ _)
    _ = numerator / denominator / 2 ^ ((numerator / denominator).log2 - 52) *
          2 ^ ((numerator / denominator).log2 - 52) +
          2 ^ ((numerator / denominator).log2 - 52) := by
        rw [← Nat.div_div_eq_div_mul, Nat.succ_mul]
    _ ≤ numerator / denominator + (numerator / denominator + 1) :=
        Nat.add_le_add (Nat.div_mul_le_self _ _) step_le
    _ = 2 * (numerator / denominator) + 1 := by omega

theorem le_divNearest (numerator denominator : Nat) :
    numerator / denominator ≤ divNearest numerator denominator := by
  simp only [divNearest]
  split
  · exact Nat.le_refl _
  · split
    · exact Nat.le_succ _
    · split
      · exact Nat.le_refl _
      · exact Nat.le_succ _

/-- Rounding does not fall below a power of two. -/
theorem two_pow_le_roundUnits {numerator denominator size : Nat}
    (large : 2 ^ size ≤ numerator / denominator) : 2 ^ size ≤ roundUnits numerator denominator := by
  have some_unit : numerator / denominator ≠ 0 := by
    have positive := Nat.two_pow_pos size
    omega
  have log_le := (Nat.le_log2 some_unit).2 large
  have step_dvd : 2 ^ ((numerator / denominator).log2 - 52) ∣ 2 ^ (numerator / denominator).log2 :=
    Nat.pow_dvd_pow 2 (Nat.sub_le _ _)
  calc 2 ^ size
      ≤ 2 ^ (numerator / denominator).log2 := Nat.pow_le_pow_right (by decide) log_le
    _ = 2 ^ (numerator / denominator).log2 / 2 ^ ((numerator / denominator).log2 - 52) *
          2 ^ ((numerator / denominator).log2 - 52) := (Nat.div_mul_cancel step_dvd).symm
    _ ≤ numerator / denominator / 2 ^ ((numerator / denominator).log2 - 52) *
          2 ^ ((numerator / denominator).log2 - 52) :=
        Nat.mul_le_mul_right _ (Nat.div_le_div_right (Nat.log2_self_le some_unit))
    _ = numerator / (denominator * 2 ^ ((numerator / denominator).log2 - 52)) *
          2 ^ ((numerator / denominator).log2 - 52) := by rw [Nat.div_div_eq_div_mul]
    _ ≤ roundUnits numerator denominator := Nat.mul_le_mul_right _ (le_divNearest _ _)

theorem isFinite_round {negative : Bool} {numerator denominator : Nat}
    (small : 2 * (numerator / denominator) + 1 < unitsLimit) :
    (round negative numerator denominator).isFinite = true := by
  have inside := Nat.lt_of_le_of_lt (roundUnits_le numerator denominator) small
  rw [round, dif_pos inside]
  rfl

theorem round_of_unitsLimit_le {negative : Bool} {numerator denominator : Nat}
    (large : unitsLimit ≤ numerator / denominator) :
    round negative numerator denominator = .infinite negative := by
  rw [unitsLimit] at large
  have beyond := two_pow_le_roundUnits large
  rw [round, dif_neg (by rw [unitsLimit]; omega)]

-- The sizes of the format are parameters here, as powers of that size are better not computed.
private theorem double_mul_lt {count unit limit shift top : Nat} (small : count < 2 ^ 64)
    (unit_eq : unit = 2 ^ shift) (limit_eq : limit = 2 ^ top) (room : 65 + shift ≤ top) :
    2 * (count * unit) + 1 < limit := by
  have positive : 0 < unit := unit_eq ▸ Nat.two_pow_pos shift
  have counted := Nat.mul_le_mul_right unit small
  rw [Nat.succ_mul] at counted
  calc 2 * (count * unit) + 1
      < 2 * (2 ^ 64 * unit) := by omega
    _ = 2 ^ 65 * unit := by omega
    _ = 2 ^ (65 + shift) := by rw [unit_eq, Nat.pow_add]
    _ ≤ 2 ^ top := Nat.pow_le_pow_right (by decide) room
    _ = limit := limit_eq.symm

/-- The whole numbers of up to 64 binary digits are far inside the range of the format. -/
theorem isFinite_ofInt {n : Int} (small : n.natAbs < 2 ^ 64) : (ofInt n).isFinite = true := by
  apply isFinite_round
  rw [Nat.div_one]
  exact double_mul_lt small unitsInOne.eq_1 unitsLimit.eq_1 (by decide)

/-! ### Signs -/

theorem isNegative_round (negative : Bool) (numerator denominator : Nat) :
    (round negative numerator denominator).isNegative = negative := by
  unfold round
  split <;> rfl

end Binary64

namespace Decimal

theorem isNegative_toBinary64 (d : Decimal) : d.toBinary64.isNegative = d.negative := by
  unfold toBinary64
  split
  · rfl
  · split
    · rfl
    · split
      · rfl
      · exact Binary64.isNegative_round _ _ _

/-! ### Decimals -/

/-- Three binary places are less than a decimal one. -/
theorem mul_unit_lt {unit coefficient shift places : Nat} (size : unit = 2 ^ shift)
    (many : coefficient.log2 + shift + 2 ≤ 3 * places) : 2 * (coefficient * unit) < 10 ^ places := by
  have coefficient_lt : coefficient < 2 ^ (coefficient.log2 + 1) := Nat.lt_log2_self
  calc 2 * (coefficient * unit)
      = coefficient * 2 ^ (shift + 1) := by rw [size, Nat.mul_left_comm, Nat.pow_succ']
    _ < 2 ^ (coefficient.log2 + 1) * 2 ^ (shift + 1) :=
        Nat.mul_lt_mul_of_pos_right coefficient_lt (Nat.two_pow_pos _)
    _ = 2 ^ (coefficient.log2 + 1 + (shift + 1)) := (Nat.pow_add ..).symm
    _ ≤ 2 ^ (3 * places) := Nat.pow_le_pow_right (by decide) (by omega)
    _ = 8 ^ places := Nat.pow_mul ..
    _ ≤ 10 ^ places := Nat.pow_le_pow_left (by decide) places

/-- A decimal place is more than three binary ones. -/
theorem le_mul_unit {coefficient unit limit shift top places : Nat} (some_digit : coefficient ≠ 0)
    (unit_eq : unit = 2 ^ shift) (limit_eq : limit = 2 ^ top) (room : top ≤ 3 * places + shift) :
    limit ≤ coefficient * 10 ^ places * unit :=
  calc limit = 2 ^ top := limit_eq
    _ ≤ 2 ^ (3 * places + shift) := Nat.pow_le_pow_right (by decide) room
    _ = 1 * 8 ^ places * unit := by rw [Nat.pow_add, Nat.pow_mul, unit_eq, Nat.one_mul]
    _ ≤ coefficient * 10 ^ places * unit :=
        Nat.mul_le_mul_right _ (Nat.mul_le_mul (Nat.pos_of_ne_zero some_digit)
          (Nat.pow_le_pow_left (by decide) places))

/-- **A decimal is rounded by its value**, also where its exponent alone decides the answer. -/
theorem toBinary64_eq_round (d : Decimal) :
    d.toBinary64 = .round d.negative (d.coefficient * 10 ^ d.exponent.toNat * Binary64.unitsInOne)
      (10 ^ (-d.exponent).toNat) := by
  have positive : 0 < 10 ^ (-d.exponent).toNat := Nat.pow_pos (by decide)
  unfold toBinary64
  split
  next none =>
    rw [none, Nat.zero_mul, Nat.zero_mul, Binary64.round_of_lt_half positive]
  next some_digit =>
    split
    next huge =>
      have whole : (-d.exponent).toNat = 0 := by omega
      rw [whole, Nat.pow_zero, Binary64.round_of_unitsLimit_le]
      rw [Nat.div_one]
      exact le_mul_unit some_digit Binary64.unitsInOne.eq_1 Binary64.unitsLimit.eq_1
        (by omega)
    · split
      next tiny =>
        -- The exponent is so low that the number is less than half a unit anyway.
        have whole : d.exponent.toNat = 0 := by omega
        rw [whole, Nat.pow_zero, Nat.mul_one, Binary64.round_of_lt_half]
        exact mul_unit_lt Binary64.unitsInOne.eq_1 (by omega)
      · rfl

/-- Decimals of the same value are rounded alike. -/
theorem toBinary64_eq_of_value_eq {c d : Decimal} (sign : c.negative = d.negative)
    (same : c.coefficient * 10 ^ c.exponent.toNat * 10 ^ (-d.exponent).toNat =
      d.coefficient * 10 ^ d.exponent.toNat * 10 ^ (-c.exponent).toNat) :
    c.toBinary64 = d.toBinary64 := by
  rw [toBinary64_eq_round, toBinary64_eq_round, sign]
  apply Binary64.round_eq_of_ratio_eq (Nat.pow_pos (by decide)) (Nat.pow_pos (by decide))
  rw [Nat.mul_right_comm, same, Nat.mul_right_comm]

end Decimal

end FieldFormula
