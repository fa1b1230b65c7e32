import FieldFormula.Number.Decimal
import Mathlib.Data.List.TakeWhile

/-!
# The spelling of decimals

`Decimal.parse?` cuts a text into pieces from the front, as long as each can be. `Decimal.Spelled` is
the grammar of what it reads, with one rule for each alternative:

    [+-]? (D+ [. D*] | . D+) ([eE] [+-]? D+)?        with decimal digits D

## Main result

`parse?_eq_some_iff`: a text is read as a decimal exactly if it spells the decimal.
-/

namespace FieldFormula

namespace Decimal

/-! ### Digits -/

/-- The text is made of decimal digits. -/
def AllDigits (text : List Char) : Prop :=
  ∀ c ∈ text, Text.isDigit c = true

theorem allDigits_takeWhile (text : List Char) : AllDigits (text.takeWhile Text.isDigit) :=
  fun _ member => List.mem_takeWhile_imp member

theorem splitDigits_append_eq (text : List Char) :
    (splitDigits text).1 ++ (splitDigits text).2 = text :=
  List.takeWhile_append_dropWhile

theorem splitDigits_append {digits rest : List Char} (all : AllDigits digits)
    (ended : ∀ c ∈ rest.head?, Text.isDigit c = false) :
    splitDigits (digits ++ rest) = (digits, rest) := by
  have stops : rest.takeWhile Text.isDigit = [] ∧ rest.dropWhile Text.isDigit = rest := by
    cases rest with
    | nil => exact ⟨rfl, rfl⟩
    | cons c others =>
      have noDigit : Text.isDigit c = false := ended c (by simp)
      simp [noDigit]
  rw [splitDigits, List.takeWhile_append_of_pos all, List.dropWhile_append_of_pos all, stops.1,
    stops.2, List.append_nil]

theorem isDigit_point : Text.isDigit '.' = false := rfl

/-! ### The grammar -/

/-- The text is a sign; one that is left out stands for a number that is not negative. -/
inductive Signed : List Char → Bool → Prop
  | minus : Signed ['-'] true
  | plus : Signed ['+'] false
  | unsigned : Signed [] false

/-- A text of digits, at least one. -/
structure SomeDigits (text : List Char) : Prop where
  all : AllDigits text
  ne_nil : text ≠ []

/-- The text shows these digits before the point and these behind it. -/
inductive Around : List Char → (whole fraction : List Char) → Prop
  | whole {digits} (some_digits : SomeDigits digits) : Around digits digits []
  | pointed {whole fraction} (some_digits : SomeDigits whole) (all : AllDigits fraction) :
    Around (whole ++ '.' :: fraction) whole fraction
  | fraction {digits} (some_digits : SomeDigits digits) : Around ('.' :: digits) [] digits

/-- The text raises to this power of ten. -/
inductive Raised : List Char → Int → Prop
  | none : Raised [] 0
  | power {mark sign negative digits} (letter : mark = 'e' ∨ mark = 'E')
    (signed : Signed sign negative) (some_digits : SomeDigits digits) :
    Raised (mark :: (sign ++ digits))
      (if negative then -(ofDigits digits : Int) else ofDigits digits)

/-- The text is a numeral for the decimal. -/
inductive Spelled : List Char → Decimal → Prop
  | numeral {sign negative around whole fraction power exponent} (signed : Signed sign negative)
    (digits : Around around whole fraction) (raised : Raised power exponent) :
    Spelled (sign ++ (around ++ power))
      { negative
        coefficient := ofDigits (whole ++ fraction)
        exponent := exponent - fraction.length }

/-! ### Signs -/

theorem signed_splitSign (text : List Char) :
    ∃ sign, Signed sign (splitSign text).1 ∧ text = sign ++ (splitSign text).2 := by
  unfold splitSign
  split
  · exact ⟨_, .minus, rfl⟩
  · exact ⟨_, .plus, rfl⟩
  · exact ⟨_, .unsigned, rfl⟩

theorem Signed.splitSign_append {sign rest : List Char} {negative : Bool}
    (signed : Signed sign negative) (noSign : ∀ c ∈ rest.head?, c ≠ '-' ∧ c ≠ '+') :
    splitSign (sign ++ rest) = (negative, rest) := by
  cases signed with
  | minus => rfl
  | plus => rfl
  | unsigned =>
    rw [List.nil_append]
    unfold splitSign
    split
    · exact absurd rfl (noSign '-' rfl).1
    · exact absurd rfl (noSign '+' rfl).2
    · rfl

theorem ne_sign_of_isDigit {c : Char} (digit : Text.isDigit c = true) : c ≠ '-' ∧ c ≠ '+' := by
  constructor <;> rintro rfl <;> cases digit

theorem SomeDigits.noSign {digits : List Char} (some_digits : SomeDigits digits)
    (rest : List Char) : ∀ c ∈ (digits ++ rest).head?, c ≠ '-' ∧ c ≠ '+' := by
  obtain ⟨first, others, rfl⟩ := List.exists_cons_of_ne_nil some_digits.ne_nil
  rintro c ⟨⟩
  exact ne_sign_of_isDigit (some_digits.all first (.head _))

/-! ### Exponents -/

theorem exponent?_eq_some_iff {text : List Char} {exponent : Int} :
    exponent? text = some exponent ↔ Raised text exponent := by
  constructor
  · intro read
    unfold exponent? at read
    split at read
    · cases read
      exact .none
    next mark rest =>
      split at read
      next letter =>
        obtain ⟨sign, signed, rest_eq⟩ := signed_splitSign rest
        generalize splitSign rest = parts at read signed rest_eq
        subst rest_eq
        dsimp only at read
        split at read
        next digits =>
          cases read
          simp only [Bool.and_eq_true, decide_eq_true_eq, List.all_eq_true] at digits
          exact .power (by simpa using letter) signed ⟨digits.2, digits.1⟩
        · cases read
      · cases read
  · rintro (_ | ⟨letter, signed, some_digits⟩)
    · rfl
    next mark sign negative digits =>
      have letter_true : (mark = 'e' || mark = 'E') = true := by simpa using letter
      have digits_true : (digits ≠ [] && digits.all Text.isDigit) = true := by
        simp only [Bool.and_eq_true, decide_eq_true_eq, List.all_eq_true]
        exact ⟨some_digits.ne_nil, some_digits.all⟩
      have noSign := some_digits.noSign []
      rw [List.append_nil] at noSign
      rw [exponent?, if_pos letter_true, signed.splitSign_append noSign]
      dsimp only
      rw [if_pos digits_true]

/-! ### The digits around the point -/

/-- What ends the digits of a numeral: nothing, or the mark of an exponent. -/
def EndsDigits (rest : List Char) : Prop :=
  ∀ c ∈ rest.head?, Text.isDigit c = false ∧ c ≠ '.'

theorem Raised.endsDigits {text : List Char} {exponent : Int} (raised : Raised text exponent) :
    EndsDigits text := by
  intro c first
  cases raised with
  | none => cases first
  | power letter _ _ =>
    cases first
    rcases letter with rfl | rfl <;> decide

theorem Around.splits {around whole fraction rest : List Char}
    (digits : Around around whole fraction) (ended : EndsDigits rest) :
    splitFraction (splitDigits (around ++ rest)).2 = (fraction, rest) ∧
      (splitDigits (around ++ rest)).1 = whole := by
  have noDigit : ∀ c ∈ rest.head?, Text.isDigit c = false := fun c first => (ended c first).1
  cases digits with
  | whole some_digits =>
    rw [splitDigits_append some_digits.all noDigit]
    refine ⟨?_, rfl⟩
    -- No point follows, so no fraction is split off.
    cases rest with
    | nil => rfl
    | cons c others =>
      unfold splitFraction
      split
      next point =>
        cases point
        exact absurd rfl (ended '.' rfl).2
      · rfl
  | pointed some_digits all =>
    rw [List.append_assoc, splitDigits_append some_digits.all (by simp [isDigit_point])]
    exact ⟨splitDigits_append all noDigit, rfl⟩
  | fraction some_digits =>
    exact ⟨splitDigits_append some_digits.all noDigit, rfl⟩

/-- What is cut off in front of an exponent are the digits around a point. -/
theorem exists_around {whole after : List Char} (all : AllDigits whole)
    (some_digit : ¬ (whole = [] ∧ (splitFraction after).1 = [])) :
    ∃ around, Around around whole (splitFraction after).1 ∧
      whole ++ after = around ++ (splitFraction after).2 := by
  unfold splitFraction at *
  split at *
  next afterPoint =>
    have joined := splitDigits_append_eq afterPoint
    have fractionAll := allDigits_takeWhile afterPoint
    by_cases noWhole : whole = []
    · -- Digits that are left out in front of the point have to stand behind it.
      subst noWhole
      refine ⟨_, .fraction ⟨fractionAll, fun noFraction => some_digit ⟨rfl, noFraction⟩⟩, ?_⟩
      rw [List.nil_append, List.cons_append, joined]
    · refine ⟨_, .pointed ⟨all, noWhole⟩ fractionAll, ?_⟩
      rw [List.append_assoc, List.cons_append, joined]
  · exact ⟨whole, .whole ⟨all, fun noWhole => some_digit ⟨noWhole, rfl⟩⟩, rfl⟩

theorem Around.noSign {around whole fraction : List Char} (digits : Around around whole fraction)
    (rest : List Char) : ∀ c ∈ (around ++ rest).head?, c ≠ '-' ∧ c ≠ '+' := by
  cases digits with
  | whole some_digits => exact some_digits.noSign rest
  | pointed some_digits _ =>
    rw [List.append_assoc]
    exact some_digits.noSign _
  | fraction _ =>
    rintro c ⟨⟩
    decide

theorem Around.some_digit {around whole fraction : List Char}
    (digits : Around around whole fraction) : ¬ (whole = [] ∧ fraction = []) := by
  rintro ⟨noWhole, noFraction⟩
  cases digits with
  | whole some_digits => exact some_digits.ne_nil noWhole
  | pointed some_digits _ => exact some_digits.ne_nil noWhole
  | fraction some_digits => exact some_digits.ne_nil noFraction

/-! ### Numerals -/

/-- **A text is read as the decimal that it spells,** and any other text is refused. -/
theorem parse?_eq_some_iff {text : List Char} {d : Decimal} :
    parse? text = some d ↔ Spelled text d := by
  constructor
  · intro read
    obtain ⟨sign, signed, text_eq⟩ := signed_splitSign text
    have joined := splitDigits_append_eq (splitSign text).2
    have all : AllDigits (splitDigits (splitSign text).2).1 := allDigits_takeWhile _
    unfold parse? at read
    dsimp only at read
    split at read
    · cases read
    next some_digit =>
      obtain ⟨exponent, raised, rfl⟩ := Option.map_eq_some_iff.1 read
      obtain ⟨around, digits, around_eq⟩ := exists_around all (by simpa using some_digit)
      have spelled := Spelled.numeral signed digits (exponent?_eq_some_iff.1 raised)
      rwa [← around_eq, joined, ← text_eq] at spelled
  · rintro ⟨signed, digits, raised⟩
    obtain ⟨fraction, whole⟩ := digits.splits raised.endsDigits
    have some_digit := digits.some_digit
    rw [parse?, signed.splitSign_append (digits.noSign _)]
    dsimp only
    rw [fraction, whole]
    dsimp only
    rw [if_neg (by simpa using some_digit), exponent?_eq_some_iff.2 raised, Option.map_some]

theorem Spelled.ne_nil {text : List Char} {d : Decimal} (spelled : Spelled text d) : text ≠ [] := by
  rintro rfl
  have read := parse?_eq_some_iff.2 spelled
  cases read

/-- Only a minus sign makes a decimal negative. -/
theorem Spelled.unsigned {text : List Char} {d : Decimal} (spelled : Spelled text d)
    (noMinus : text.head? ≠ some '-') : d.negative = false := by
  obtain ⟨signed, _, _⟩ := spelled
  cases signed with
  | minus => exact absurd rfl noMinus
  | plus => rfl
  | unsigned => rfl

/-! ### Characters -/

/-- The characters that numerals are made of. -/
def isNumeralPart (c : Char) : Bool :=
  Text.isDigit c || ['.', '+', '-', 'e', 'E'].contains c

theorem AllDigits.isNumeralPart {digits : List Char} (all : AllDigits digits) :
    ∀ c ∈ digits, Decimal.isNumeralPart c = true := by
  intro c member
  simp [Decimal.isNumeralPart, all c member]

theorem Signed.isNumeralPart {sign : List Char} {negative : Bool} (signed : Signed sign negative) :
    ∀ c ∈ sign, Decimal.isNumeralPart c = true := by
  cases signed with
  | minus => exact List.forall_mem_singleton.2 rfl
  | plus => exact List.forall_mem_singleton.2 rfl
  | unsigned => simp

theorem Around.isNumeralPart {around whole fraction : List Char}
    (digits : Around around whole fraction) : ∀ c ∈ around, Decimal.isNumeralPart c = true := by
  cases digits with
  | whole some_digits => exact some_digits.all.isNumeralPart
  | pointed some_digits all =>
    exact List.forall_mem_append.2
      ⟨some_digits.all.isNumeralPart, List.forall_mem_cons.2 ⟨by decide, all.isNumeralPart⟩⟩
  | fraction some_digits =>
    exact List.forall_mem_cons.2 ⟨by decide, some_digits.all.isNumeralPart⟩

theorem Raised.isNumeralPart {power : List Char} {exponent : Int} (raised : Raised power exponent) :
    ∀ c ∈ power, Decimal.isNumeralPart c = true := by
  cases raised with
  | none => simp
  | power letter signed some_digits =>
    refine List.forall_mem_cons.2 ⟨?_, List.forall_mem_append.2
      ⟨signed.isNumeralPart, some_digits.all.isNumeralPart⟩⟩
    rcases letter with rfl | rfl <;> decide

theorem Spelled.isNumeralPart {text : List Char} {d : Decimal} (spelled : Spelled text d) :
    ∀ c ∈ text, Decimal.isNumeralPart c = true := by
  obtain ⟨signed, digits, raised⟩ := spelled
  exact List.forall_mem_append.2 ⟨signed.isNumeralPart,
    List.forall_mem_append.2 ⟨digits.isNumeralPart, raised.isNumeralPart⟩⟩

end Decimal

end FieldFormula
