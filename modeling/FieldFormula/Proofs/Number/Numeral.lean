import FieldFormula.Number.Shortest
import FieldFormula.Proofs.Number.Rounding
import FieldFormula.Proofs.Number.Spelling

/-!
# Numbers as they are written

A number without a sign is written with digits, and a point with digits where it is not whole.
`Decimal.parse?` reads such a numeral digit by digit, and `Decimal.positional` writes one of the same
value. So the shortest decimal of a number, which was searched for by rounding it, reads back as the
number also after it has been written out: `Binary64.exists_numeral`.
-/

namespace FieldFormula

namespace Decimal

/-- Digits before the point, of which there is at least one, and digits after it. -/
structure IsNumeral (whole fraction : List Char) : Prop where
  whole_digits : AllDigits whole
  fraction_digits : AllDigits fraction
  whole_ne_nil : whole ≠ []

/-! ### Reading a numeral -/

/-- The decimal that a numeral spells. -/
def ofNumeral (whole fraction : List Char) : Decimal :=
  { negative := false, coefficient := ofDigits (whole ++ fraction), exponent := -fraction.length }

/-- **A numeral is read as its decimal.** -/
theorem IsNumeral.parse?_eq {whole fraction : List Char} (numeral : IsNumeral whole fraction) :
    parse? (whole ++ pointed fraction) = some (ofNumeral whole fraction) := by
  have some_digits : SomeDigits whole := ⟨numeral.whole_digits, numeral.whole_ne_nil⟩
  have around : Around (whole ++ pointed fraction) whole fraction := by
    cases fraction with
    | nil => simpa [pointed] using Around.whole some_digits
    | cons c others => exact .pointed some_digits numeral.fraction_digits
  have spelled := Spelled.numeral .unsigned around .none
  rw [List.nil_append, List.append_nil, Int.zero_sub] at spelled
  exact parse?_eq_some_iff.2 spelled

/-! ### Writing a decimal -/

/-- The digits of the coefficient, with zeros in front so that one stands before the point. -/
def paddedDigits (d : Decimal) : List Char :=
  List.replicate ((-d.exponent).toNat + 1 - (Nat.toDigits 10 d.coefficient).length) '0' ++
    Nat.toDigits 10 d.coefficient

theorem allDigits_paddedDigits (d : Decimal) : AllDigits d.paddedDigits := by
  intro c member
  rcases List.mem_append.1 member with zero | digit
  · rw [(List.mem_replicate.1 zero).2]
    rfl
  · exact Nat.isDigit_of_mem_toDigits (by decide) (by decide) digit

theorem ofDigits_paddedDigits (d : Decimal) : ofDigits d.paddedDigits = d.coefficient := by
  rw [ofDigits, paddedDigits, Nat.ofDigitChars_append, Nat.ofDigitChars_replicate_zero,
    Nat.mul_zero, Nat.ofDigitChars_ten_toDigits]

theorem lt_length_paddedDigits (d : Decimal) :
    (-d.exponent).toNat < d.paddedDigits.length := by
  simp only [paddedDigits, List.length_append, List.length_replicate]
  omega

theorem ofDigits_append_zeros (digits : List Char) (zeros : Nat) :
    ofDigits (digits ++ List.replicate zeros '0') = ofDigits digits * 10 ^ zeros := by
  rw [ofDigits, Nat.ofDigitChars_append, Nat.ofDigitChars_replicate_zero, Nat.mul_comm, ofDigits]

theorem exists_dropTrailingZeros (digits : List Char) :
    ∃ zeros, digits = dropTrailingZeros digits ++ List.replicate zeros '0' := by
  refine ⟨(digits.reverse.takeWhile (· == '0')).length, ?_⟩
  have zeros : digits.reverse.takeWhile (· == '0') =
      List.replicate (digits.reverse.takeWhile (· == '0')).length '0' := by
    rw [List.eq_replicate_iff]
    exact ⟨rfl, fun c member => by simpa using List.mem_takeWhile_imp member⟩
  have split := congrArg List.reverse (List.takeWhile_append_dropWhile (p := (· == '0'))
    (l := digits.reverse))
  rw [List.reverse_append, List.reverse_reverse, zeros, List.reverse_replicate] at split
  exact split.symm

/-- **A decimal is written as a numeral of its value.** -/
theorem exists_numeral_positional {d : Decimal} (unsigned : d.negative = false) :
    ∃ whole fraction, IsNumeral whole fraction ∧ d.positional = whole ++ pointed fraction ∧
      ofDigits (whole ++ fraction) * 10 ^ (-d.exponent).toNat =
        d.coefficient * 10 ^ d.exponent.toNat * 10 ^ fraction.length := by
  -- The point stands before the last digits, as many as the exponent is below zero.
  let cut := d.paddedDigits.length - (-d.exponent).toNat
  obtain ⟨zeros, dropped⟩ := exists_dropTrailingZeros (d.paddedDigits.drop cut)
  have long := d.lt_length_paddedDigits
  have lengths := congrArg List.length dropped
  simp only [List.length_drop, List.length_append, List.length_replicate] at lengths
  have written : d.positional = d.paddedDigits.take cut ++ List.replicate d.exponent.toNat '0' ++
      pointed (dropTrailingZeros (d.paddedDigits.drop cut)) := by
    simp only [positional, unsigned, Bool.false_eq_true, if_false]
    rfl
  have digits := d.allDigits_paddedDigits
  have kept : AllDigits (dropTrailingZeros (d.paddedDigits.drop cut)) := by
    intro c member
    have inside : c ∈ d.paddedDigits.drop cut := by
      rw [dropped]
      exact List.mem_append_left _ member
    exact digits c (List.mem_of_mem_drop inside)
  refine ⟨_, _, ⟨fun c member => ?_, kept, ?_⟩, written, ?_⟩
  · rcases List.mem_append.1 member with taken | zero
    · exact digits c (List.mem_of_mem_take taken)
    · rw [(List.mem_replicate.1 zero).2]
      rfl
  · have some_digit : 0 < (d.paddedDigits.take cut).length := by
      rw [List.length_take]
      omega
    exact List.append_ne_nil_of_left_ne_nil (List.length_pos_iff.1 some_digit) _
  · rcases Int.le_total d.exponent 0 with fractional | whole
    · -- Nothing is added before the point, and after it zeros are left out.
      have noZeros : d.exponent.toNat = 0 := by omega
      have places : (-d.exponent).toNat =
          zeros + (dropTrailingZeros (d.paddedDigits.drop cut)).length := by
        omega
      have value : ofDigits (d.paddedDigits.take cut ++
          dropTrailingZeros (d.paddedDigits.drop cut)) * 10 ^ zeros = d.coefficient := by
        rw [← ofDigits_append_zeros, List.append_assoc, ← dropped, List.take_append_drop,
          ofDigits_paddedDigits]
      rw [noZeros, List.replicate_zero, List.append_nil, Nat.pow_zero, Nat.mul_one, places,
        Nat.pow_add, ← Nat.mul_assoc, value]
    · -- There are no digits after the point.
      have noPlaces : (-d.exponent).toNat = 0 := by omega
      have nothing : dropTrailingZeros (d.paddedDigits.drop cut) = [] :=
        List.length_eq_zero_iff.1 (by omega)
      have all : d.paddedDigits.take cut = d.paddedDigits := List.take_of_length_le (by omega)
      rw [nothing, all, noPlaces, List.append_nil, ofDigits_append_zeros, ofDigits_paddedDigits,
        List.length_nil]

theorem exists_numeral_toBinary64 {d : Decimal} (unsigned : d.negative = false) :
    ∃ whole fraction, IsNumeral whole fraction ∧ d.positional = whole ++ pointed fraction ∧
      (ofNumeral whole fraction).toBinary64 = d.toBinary64 := by
  obtain ⟨whole, fraction, numeral, written, value⟩ := exists_numeral_positional unsigned
  refine ⟨whole, fraction, numeral, written, ?_⟩
  have noExponent : (-(fraction.length : Int)).toNat = 0 := by omega
  have places : (- -(fraction.length : Int)).toNat = fraction.length := by omega
  apply toBinary64_eq_of_value_eq
  · exact unsigned.symm
  · simp only [ofNumeral, noExponent, places, Nat.pow_zero, Nat.mul_one]
    exact value

end Decimal

namespace Binary64

/-! ### The shortest decimal -/

theorem exactUnit_mul_unitsInOne : exactUnit * unitsInOne = 10 ^ exactPlaces := by
  have binary : unitsInOne = 2 ^ exactPlaces := by rw [unitsInOne.eq_1, exactPlaces]
  rw [exactUnit, binary, ← Nat.mul_pow]

theorem toBinary64_countingDecimal {units : Nat} (representable : Representable units) :
    (countingDecimal (units * exactUnit) 0).toBinary64 = .finite false units representable := by
  have noExponent : ((0 : Nat) - exactPlaces : Int).toNat = 0 := by omega
  have allPlaces : (-((0 : Nat) - exactPlaces : Int)).toNat = exactPlaces := by omega
  rw [Decimal.toBinary64_eq_round]
  simp only [countingDecimal, noExponent, allPlaces, Nat.pow_zero, Nat.mul_one]
  rw [Nat.mul_assoc, exactUnit_mul_unitsInOne]
  exact round_of_representable representable (Nat.pow_pos (by decide))

theorem eq_of_readsBack {units : Nat} {d : Decimal} (unsigned : d.negative = false)
    (representable : Representable units) (reads : readsBack units d = true) :
    d.toBinary64 = .finite false units representable := by
  have sign := d.isNegative_toBinary64
  unfold readsBack at reads
  split at reads
  next read _ same =>
    rw [same] at sign ⊢
    have count : read = units := by simpa using reads
    have positive : _ = false := sign.trans unsigned
    subst count positive
    rfl
  · cases reads

/-- The chosen decimal leaves out some digits and reads back, or is the one with all places. -/
theorem shortestAmong_reads {units exact : Nat} {representable : Representable units}
    (whole : (countingDecimal exact 0).toBinary64 = .finite false units representable)
    (drops : List Nat) :
    (shortestAmong units exact drops).negative = false ∧
      (shortestAmong units exact drops).toBinary64 = .finite false units representable := by
  rw [shortestAmong]
  cases found : drops.findSome? (nearestReadingBack? units exact) with
  | none => exact ⟨rfl, whole⟩
  | some d =>
    obtain ⟨dropped, _, nearest⟩ := List.exists_of_findSome?_eq_some found
    have reads := List.find?_some nearest
    obtain ⟨coefficient, _, rfl⟩ := List.mem_map.1 (List.mem_of_find?_eq_some nearest)
    exact ⟨rfl, eq_of_readsBack rfl representable reads⟩

theorem shortestDecimal_reads {units : Nat} (representable : Representable units) :
    (shortestDecimal units).negative = false ∧
      (shortestDecimal units).toBinary64 = .finite false units representable :=
  shortestAmong_reads (toBinary64_countingDecimal representable) _

/-- **A number without a sign is written as a numeral that reads back as the number.** -/
theorem exists_numeral {x : Binary64} (finite : x.isFinite = true) (unsigned : x.isNegative = false) :
    ∃ whole fraction, Decimal.IsNumeral whole fraction ∧
      x.spelling = whole ++ Decimal.pointed fraction ∧
      (Decimal.ofNumeral whole fraction).toBinary64 = x := by
  cases x with
  | nan => cases finite
  | infinite negative => cases finite
  | finite negative units representable =>
    have positive : negative = false := unsigned
    subst positive
    by_cases nothing : units = 0
    · subst nothing
      exact @Decimal.exists_numeral_toBinary64 ⟨false, 0, 0⟩ rfl
    · obtain ⟨noSign, reads⟩ := shortestDecimal_reads representable
      have written := Decimal.exists_numeral_toBinary64 noSign
      rw [reads] at written
      have same (d : Decimal) (noSign : d.negative = false) : { d with negative := false } = d := by
        cases d
        cases noSign
        rfl
      simp only [spelling, if_neg nothing, same _ noSign]
      exact written

end Binary64

end FieldFormula
