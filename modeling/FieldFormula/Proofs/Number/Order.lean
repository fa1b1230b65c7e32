import FieldFormula.Number.Arithmetic

/-!
# The order of numbers

Finite numbers are in the order of their signed counts of units, so any two of them compare. The
other numbers need not: NaN compares with nothing.
-/

namespace FieldFormula.Binary64

/-- The units of a finite number with its sign; other numbers have none. -/
def signedUnits : Binary64 → Int
  | .finite negative units _ => signed negative units
  | _ => 0

theorem compare?_of_isFinite {x y : Binary64} (finite : x.isFinite = true)
    (finite' : y.isFinite = true) :
    x.compare? y = some (compare x.signedUnits y.signedUnits) := by
  cases x with
  | finite a m _ =>
    cases y with
    | finite b n _ => rfl
    | _ => cases finite'
  | _ => cases finite

theorem compare?_swap (x y : Binary64) : y.compare? x = (x.compare? y).map Ordering.swap := by
  cases x with
  | nan => cases y <;> rfl
  | infinite a =>
    cases y with
    | nan => rfl
    | infinite b => cases a <;> cases b <;> rfl
    | finite b n _ => cases a <;> rfl
  | finite a m _ =>
    cases y with
    | nan => rfl
    | infinite b => cases b <;> rfl
    | finite b n _ => exact congrArg some Std.OrientedOrd.eq_swap

theorem equals_comm (x y : Binary64) : x.equals y = y.equals x := by
  rw [equals, equals, compare?_swap x y]
  cases x.compare? y with
  | none => rfl
  | some order => cases order <;> rfl

theorem equals_iff_of_isFinite {x y : Binary64} (finite : x.isFinite = true)
    (finite' : y.isFinite = true) : x.equals y = true ↔ x.signedUnits = y.signedUnits := by
  rw [equals, compare?_of_isFinite finite finite', beq_iff_eq, Option.some.injEq,
    Std.LawfulEqOrd.compare_eq_iff_eq]

end FieldFormula.Binary64
