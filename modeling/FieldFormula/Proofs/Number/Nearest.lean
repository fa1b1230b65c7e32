import FieldFormula.Proofs.Number.Rounding
import Mathlib.Algebra.Order.Field.Basic
import Mathlib.Tactic.FieldSimp
import Mathlib.Tactic.Linarith
import Mathlib.Tactic.Ring

/-!
# Rounding is to the nearest

`Binary64.round` computes its result by a division whose quotient is rounded. `IsNearest` says what
rounding is meant to do and knows of no computation: of all counts of units with 53 binary places the
result is the nearest to the exact amount, and of two that are equally near it is the one whose last
place is even. There is only one such count.

## Main results

`isNearest_roundUnits`: the rounded quotient is the nearest count.

`toBinary64_eq_iff`: the number that a decimal is read as, if it is finite, is the nearest one.
-/

namespace FieldFormula

namespace Binary64

/-! ### The nearest count -/

/-- The count of units has at most 53 binary places. -/
def HasPlaces (units : Nat) : Prop :=
  2 ^ (units.log2 - 52) ∣ units

/-- The last of the 53 binary places is even. -/
def EvenLastPlace (units : Nat) : Prop :=
  2 ^ (units.log2 - 52 + 1) ∣ units

/-- How far a count of units is from an exact amount. -/
def offBy (amount : ℚ) (units : Nat) : ℚ :=
  |(units : ℚ) - amount|

/-- Of all counts with 53 binary places this is the one that the amount is rounded to. -/
structure IsNearest (amount : ℚ) (units : Nat) : Prop where
  places : HasPlaces units
  nearest : ∀ other, HasPlaces other → other ≠ units →
    offBy amount units < offBy amount other ∨
      offBy amount units = offBy amount other ∧ EvenLastPlace units ∧ ¬ EvenLastPlace other

theorem IsNearest.unique {amount : ℚ} {units units' : Nat} (first : IsNearest amount units)
    (second : IsNearest amount units') : units = units' := by
  by_contra differ
  -- Neither of the two can be nearer, and of two equally near ones only one has the even last place.
  rcases first.nearest units' second.places (Ne.symm differ) with nearer | ⟨same, even, _⟩
  · rcases second.nearest units first.places differ with nearer' | ⟨same, _, _⟩
    · exact lt_asymm nearer nearer'
    · exact nearer.ne same.symm
  · rcases second.nearest units first.places differ with nearer' | ⟨_, _, odd⟩
    · exact nearer'.ne same.symm
    · exact odd even

/-! ### Whole quotients -/

/-- How far a quotient is from the exact one, in parts of the size of the denominator. -/
def remote (numerator denominator quotient : Nat) : Nat :=
  (quotient * denominator - numerator) + (numerator - quotient * denominator)

theorem offBy_ratio {denominator : Nat} (positive : 0 < denominator) (numerator quotient : Nat) :
    offBy (numerator / denominator) quotient =
      remote numerator denominator quotient / denominator := by
  have size : (0 : ℚ) < denominator := by exact_mod_cast positive
  have difference : (quotient : ℚ) - numerator / denominator =
      ((quotient * denominator : Nat) - (numerator : ℚ)) / denominator := by
    push_cast
    field_simp
  rw [offBy, difference, abs_div, abs_of_pos size]
  congr 1
  rcases Nat.le_total numerator (quotient * denominator) with below | above
  · have less : (numerator : ℚ) ≤ (quotient * denominator : Nat) := by exact_mod_cast below
    rw [abs_of_nonneg (by linarith), remote, Nat.sub_eq_zero_of_le below, Nat.add_zero,
      Nat.cast_sub below]
  · have more : ((quotient * denominator : Nat) : ℚ) ≤ numerator := by exact_mod_cast above
    rw [abs_of_nonpos (by linarith), remote, Nat.sub_eq_zero_of_le above, Nat.zero_add,
      Nat.cast_sub above]
    ring

/-- **The rounded quotient is the nearest whole number,** and of two equally near ones the even
one. -/
theorem remote_divNearest {numerator denominator other : Nat} (positive : 0 < denominator)
    (differs : other ≠ divNearest numerator denominator) :
    remote numerator denominator (divNearest numerator denominator) <
        remote numerator denominator other ∨
      remote numerator denominator (divNearest numerator denominator) =
          remote numerator denominator other ∧
        divNearest numerator denominator % 2 = 0 ∧ other % 2 = 1 := by
  have whole := Nat.div_add_mod' numerator denominator
  have part := Nat.mod_lt numerator positive
  -- The quotients that are not next to the exact one are further off than the denominator.
  have next : (numerator / denominator + 1) * denominator =
      numerator / denominator * denominator + denominator := Nat.succ_mul _ _
  have lower : other < numerator / denominator →
      other * denominator + denominator ≤ numerator / denominator * denominator := by
    intro less
    rw [← Nat.succ_mul]
    exact Nat.mul_le_mul_right _ less
  have upper : numerator / denominator + 1 < other →
      numerator / denominator * denominator + 2 * denominator ≤ other * denominator := by
    intro more
    rw [← Nat.add_mul]
    exact Nat.mul_le_mul_right _ more
  have sides : other < numerator / denominator ∨ other = numerator / denominator ∨
      other = numerator / denominator + 1 ∨ numerator / denominator + 1 < other := by
    omega
  simp only [divNearest, remote] at *
  rcases sides with less | rfl | rfl | more
  · have far := lower less
    split_ifs <;> omega
  · split_ifs at * <;> omega
  · split_ifs at * <;> omega
  · have far := upper more
    split_ifs <;> omega

theorem remote_divNearest_le {numerator denominator : Nat} (positive : 0 < denominator)
    (other : Nat) : remote numerator denominator (divNearest numerator denominator) ≤
      remote numerator denominator other := by
  by_cases same : other = divNearest numerator denominator
  · rw [same]
  · rcases remote_divNearest positive same with nearer | ⟨equal, _⟩
    · exact Nat.le_of_lt nearer
    · exact Nat.le_of_eq equal

/-- Counting in steps is dividing by steps. -/
theorem remote_mul (numerator denominator quotient step : Nat) :
    remote numerator denominator (quotient * step) =
      remote numerator (denominator * step) quotient := by
  rw [remote, remote, Nat.mul_assoc, Nat.mul_comm step]

/-! ### Last places -/

theorem evenLastPlace_mul {significand places : Nat} (significand_le : significand ≤ 2 ^ 53)
    (even : significand % 2 = 0) : EvenLastPlace (significand * 2 ^ places) := by
  by_cases full : significand = 2 ^ 53
  · rw [EvenLastPlace, full, ← Nat.pow_add, Nat.log2_two_pow]
    exact Nat.pow_dvd_pow 2 (by omega)
  · have places_le := @places_mul_two_pow_le significand places (by omega)
    calc 2 ^ ((significand * 2 ^ places).log2 - 52 + 1)
        ∣ 2 ^ (places + 1) := Nat.pow_dvd_pow 2 (by omega)
      _ = 2 * 2 ^ places := Nat.pow_succ'
      _ ∣ significand * 2 ^ places := Nat.mul_dvd_mul_right (Nat.dvd_of_mod_eq_zero even) _

/-- A count with so many binary places in front has its last place no further to the right. -/
theorem places_le_of_long {units places : Nat} (some_unit : units ≠ 0)
    (long : places = 0 ∨ 2 ^ 52 * 2 ^ places ≤ units) : places ≤ units.log2 - 52 := by
  rcases long with zero | long
  · omega
  · rw [← Nat.pow_add] at long
    have log_le := (Nat.le_log2 some_unit).2 long
    omega

theorem not_evenLastPlace_mul {significand places : Nat} (odd : significand % 2 = 1)
    (long : places = 0 ∨ 2 ^ 52 * 2 ^ places ≤ significand * 2 ^ places) :
    ¬ EvenLastPlace (significand * 2 ^ places) := by
  intro even
  have some_unit : significand * 2 ^ places ≠ 0 :=
    Nat.mul_ne_zero (by omega) (Nat.two_pow_pos _).ne'
  have places_le := places_le_of_long some_unit long
  have twice : 2 * 2 ^ places ∣ significand * 2 ^ places := by
    rw [← Nat.pow_succ']
    exact Nat.dvd_trans (Nat.pow_dvd_pow 2 (by omega)) even
  have two := Nat.dvd_of_mul_dvd_mul_right (Nat.two_pow_pos places) twice
  omega

theorem dvd_of_hasPlaces {units places : Nat} (hasPlaces : HasPlaces units)
    (long : places = 0 ∨ 2 ^ 52 * 2 ^ places ≤ units) : 2 ^ places ∣ units := by
  by_cases none : units = 0
  · simp [none]
  · exact Nat.dvd_trans (Nat.pow_dvd_pow 2 (places_le_of_long none long)) hasPlaces

/-! ### Rounded quotients -/

/-- A count that has too few places to be near the amount is further off than the rounded one. -/
theorem remote_roundUnits_lt {numerator denominator other : Nat} (positive : 0 < denominator)
    (wide : (numerator / denominator).log2 - 52 ≠ 0)
    (below : other < 2 ^ 52 * 2 ^ ((numerator / denominator).log2 - 52)) :
    remote numerator denominator (roundUnits numerator denominator) <
      remote numerator denominator other := by
  have some_unit : numerator / denominator ≠ 0 := by
    intro none
    rw [none] at wide
    exact wide rfl
  -- The least count with all places is not above the amount, and it is above the other count.
  have least_le : 2 ^ 52 * 2 ^ ((numerator / denominator).log2 - 52) * denominator ≤ numerator := by
    refine Nat.le_trans (Nat.mul_le_mul_right _ ?_) (Nat.div_mul_le_self numerator denominator)
    rw [← Nat.pow_add]
    exact (Nat.le_log2 some_unit).1 (by omega)
  have other_lt := Nat.mul_lt_mul_of_pos_right below positive
  calc remote numerator denominator (roundUnits numerator denominator)
      ≤ remote numerator denominator (2 ^ 52 * 2 ^ ((numerator / denominator).log2 - 52)) := by
        rw [roundUnits, remote_mul, remote_mul]
        exact remote_divNearest_le (Nat.mul_pos positive (Nat.two_pow_pos _)) _
    _ < remote numerator denominator other := by
        rw [remote, remote]
        omega

/-- No other count with 53 binary places is as near as the rounded one, unless its last place is
odd. -/
theorem remote_roundUnits {numerator denominator other : Nat} (positive : 0 < denominator)
    (otherPlaces : HasPlaces other) (differs : other ≠ roundUnits numerator denominator) :
    remote numerator denominator (roundUnits numerator denominator) <
        remote numerator denominator other ∨
      remote numerator denominator (roundUnits numerator denominator) =
          remote numerator denominator other ∧
        EvenLastPlace (roundUnits numerator denominator) ∧ ¬ EvenLastPlace other := by
  by_cases short : (numerator / denominator).log2 - 52 ≠ 0 ∧
      other < 2 ^ 52 * 2 ^ ((numerator / denominator).log2 - 52)
  · exact .inl (remote_roundUnits_lt positive short.1 short.2)
  · have long : (numerator / denominator).log2 - 52 = 0 ∨
        2 ^ 52 * 2 ^ ((numerator / denominator).log2 - 52) ≤ other := by
      omega
    -- The other count is one in steps of the rounding too, so the quotients in steps compare.
    obtain ⟨significand, counted⟩ := dvd_of_hasPlaces otherPlaces long
    rw [Nat.mul_comm] at counted
    subst counted
    have steps : 0 < denominator * 2 ^ ((numerator / denominator).log2 - 52) :=
      Nat.mul_pos positive (Nat.two_pow_pos _)
    have differ : significand ≠
        divNearest numerator (denominator * 2 ^ ((numerator / denominator).log2 - 52)) := by
      rintro rfl
      exact differs rfl
    rw [roundUnits, remote_mul, remote_mul]
    rcases remote_divNearest steps differ with nearer | ⟨same, even, odd⟩
    · exact .inl nearer
    · exact .inr ⟨same, evenLastPlace_mul (divNearest_places_le _ _) even,
        not_evenLastPlace_mul odd long⟩

/-- **The rounded quotient is the nearest count.** -/
theorem isNearest_roundUnits {numerator denominator : Nat} (positive : 0 < denominator) :
    IsNearest (numerator / denominator) (roundUnits numerator denominator) := by
  refine ⟨dvd_roundUnits numerator denominator, fun other otherPlaces differs => ?_⟩
  have size : (0 : ℚ) < denominator := by exact_mod_cast positive
  rw [offBy_ratio positive, offBy_ratio positive]
  rcases remote_roundUnits positive otherPlaces differs with nearer | ⟨same, parity⟩
  · exact .inl (div_lt_div_of_pos_right (by exact_mod_cast nearer) size)
  · exact .inr ⟨by rw [same], parity⟩

end Binary64

/-! ### Decimals -/

namespace Decimal

/-- The number without its sign. -/
def magnitude (d : Decimal) : ℚ :=
  d.coefficient * 10 ^ d.exponent

/-- The finite number that is nearest to the decimal; there is none if the nearest count of units
is past the largest finite number. -/
inductive RoundsTo (d : Decimal) : Binary64 → Prop
  | finite {units} {representable : Binary64.Representable units}
    (nearest : Binary64.IsNearest (d.magnitude * Binary64.unitsInOne) units) :
    RoundsTo d (.finite d.negative units representable)

theorem magnitude_eq_div (d : Decimal) :
    d.magnitude = (d.coefficient * 10 ^ d.exponent.toNat : Nat) / (10 ^ (-d.exponent).toNat : Nat) := by
  have power : (10 : ℚ) ^ d.exponent = 10 ^ d.exponent.toNat / 10 ^ (-d.exponent).toNat := by
    rw [← zpow_natCast, ← zpow_natCast, ← zpow_sub₀ (by norm_num), Int.toNat_sub_toNat_neg]
  rw [magnitude, power]
  push_cast
  ring

theorem isNearest_units (d : Decimal) :
    Binary64.IsNearest (d.magnitude * Binary64.unitsInOne)
      (Binary64.roundUnits (d.coefficient * 10 ^ d.exponent.toNat * Binary64.unitsInOne)
        (10 ^ (-d.exponent).toNat)) := by
  have positive : 0 < 10 ^ (-d.exponent).toNat := Nat.pow_pos (by decide)
  have nearest := @Binary64.isNearest_roundUnits
    (d.coefficient * 10 ^ d.exponent.toNat * Binary64.unitsInOne) _ positive
  rw [Nat.cast_mul, mul_div_right_comm, ← magnitude_eq_div] at nearest
  exact nearest

/-- **A decimal is read as the finite number nearest to it,** and as no finite number if there is
none. -/
theorem toBinary64_eq_iff {d : Decimal} {x : Binary64} :
    d.toBinary64 = x ∧ x.isFinite = true ↔ d.RoundsTo x := by
  rw [toBinary64_eq_round]
  constructor
  · rintro ⟨rounded, finite⟩
    unfold Binary64.round at rounded
    split at rounded
    · subst rounded
      exact .finite d.isNearest_units
    · subst rounded
      cases finite
  · rintro ⟨nearest⟩
    next units representable =>
      -- Only one count is nearest, so it is the computed one.
      obtain rfl := nearest.unique d.isNearest_units
      exact ⟨by rw [Binary64.round, dif_pos representable.2], rfl⟩

end Decimal

end FieldFormula
