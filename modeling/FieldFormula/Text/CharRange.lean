/-!
# Ranges of characters

A character class given by a standard is a list of ranges of code points, first and last included.
-/

namespace FieldFormula

/-- The code points from `first` to `last`, both included. -/
structure CharRange where
  first : Nat
  last : Nat
  deriving DecidableEq, Repr

namespace CharRange

def holds (range : CharRange) (c : Char) : Bool :=
  range.first ≤ c.toNat && c.toNat ≤ range.last

/-- Some range of the class holds the character. -/
def anyHolds (ranges : List CharRange) (c : Char) : Bool :=
  ranges.any fun range => range.holds c

theorem holds_iff {range : CharRange} {c : Char} :
    range.holds c = true ↔ range.first ≤ c.toNat ∧ c.toNat ≤ range.last := by
  simp [holds]

theorem anyHolds_iff {ranges : List CharRange} {c : Char} :
    anyHolds ranges c = true ↔
      ∃ range ∈ ranges, range.first ≤ c.toNat ∧ c.toNat ≤ range.last := by
  simp [anyHolds, holds_iff]

end CharRange

end FieldFormula
