import FieldFormula.Proofs.Lexemes
import FieldFormula.Proofs.Number.Nearest
import FieldFormula.Proofs.Number.Spelling
import FieldFormula.Proofs.Places
import FieldFormula.Proofs.Text.Trimming

/-!
# Numbers in texts

A number can stand in a formula, where the scanner reads it, or in a text, where it is read when an
operator asks for a number. The text is trimmed first and may have a sign and an exponent. Where
both can read it, they read the same number: the finite one that is nearest to the decimal spelled
there.

## Main result

`numbers_read_alike`: what a text is read as, and that a number literal is read as the same.
-/

namespace FieldFormula

namespace Decimal

/-! ### Numerals -/

theorem isBlank_of_isNumeralPart {c : Char} (part : isNumeralPart c = true) :
    Text.isBlank c = false := by
  simp only [isNumeralPart, Bool.or_eq_true, List.contains_eq_mem, decide_eq_true_eq] at part
  rcases part with digit | mark
  · have range := Token.toNat_of_isDigit digit
    exact Token.isBlank_of_toNat (by omega) (by omega)
  · simp only [List.mem_cons, List.not_mem_nil, or_false] at mark
    rcases mark with rfl | rfl | rfl | rfl | rfl <;> decide

/-- A numeral has no blanks to trim. -/
theorem Spelled.trimsTo {text before body after : List Char} {d : Decimal} (spelled : Spelled body d)
    (split : text = before ++ (body ++ after)) (beforeBlank : Text.allBlank before = true)
    (afterBlank : Text.allBlank after = true) : Text.TrimsTo text body where
  surrounded := ⟨before, after, beforeBlank, afterBlank, split⟩
  first_visible c first :=
    isBlank_of_isNumeralPart (spelled.isNumeralPart c (List.mem_of_mem_head? first))
  last_visible c last :=
    isBlank_of_isNumeralPart (spelled.isNumeralPart c (List.mem_of_mem_getLast? last))

theorem filter_parse?_eq_some_iff {text : List Char} {n : Binary64} :
    ((parse? text).map toBinary64).filter Binary64.isFinite = some n ↔
      ∃ d, Spelled text d ∧ d.RoundsTo n := by
  simp only [Option.filter_eq_some_iff, Option.map_eq_some_iff, parse?_eq_some_iff,
    ← toBinary64_eq_iff]
  constructor
  · rintro ⟨⟨d, spelled, rounded⟩, finite⟩
    exact ⟨d, spelled, rounded, finite⟩
  · rintro ⟨d, spelled, rounded, finite⟩
    exact ⟨⟨d, spelled, rounded⟩, finite⟩

theorem RoundsTo.isFinite {d : Decimal} {n : Binary64} (rounded : d.RoundsTo n) :
    n.isFinite = true :=
  (toBinary64_eq_iff.2 rounded).2

end Decimal

/-! ### Texts -/

namespace Value

/-- A text may be read as any number, words included, once its characters have been checked: those
of numerals spell none of the words. -/
theorem toNumber?_text (s : String) :
    (text s).toNumber? =
      if Text.trim s.toList = [] then some (.zero false)
      else if (Text.trim s.toList).all Decimal.isNumeralPart then
        (Binary64.parse? (Text.trim s.toList)).filter Binary64.isFinite
      else none := by
  rw [toNumber?, numberOfText?, Binary64.filter_parse?]
  by_cases parts : (Text.trim s.toList).all Decimal.isNumeralPart = true
  · rw [if_pos parts]
  · have unread : Decimal.parse? (Text.trim s.toList) = none := by
      cases read : Decimal.parse? (Text.trim s.toList) with
      | none => rfl
      | some d =>
        exact absurd (List.all_eq_true.2 (Decimal.parse?_eq_some_iff.1 read).isNumeralPart) parts
    rw [if_neg parts, unread]
    rfl

/-- What a text is read as, by what is left of it without the blanks around it. -/
theorem toNumber?_text_eq_some_iff {s : String} {n : Binary64} :
    (text s).toNumber? = some n ↔ ∃ body, Text.TrimsTo s.toList body ∧
      (body = [] ∧ n = .zero false ∨ ∃ d, Decimal.Spelled body d ∧ d.RoundsTo n) := by
  simp only [← Text.trim_eq_iff, exists_eq_left', ← Decimal.filter_parse?_eq_some_iff]
  rw [toNumber?, numberOfText?]
  split
  next nothing =>
    have unread : Decimal.parse? [] = none := rfl
    simp [nothing, unread, eq_comm]
  next something => simp only [something, false_and, false_or]

end Value

/-! ### Literals -/

namespace Token

theorem Kind.Written.exists_spelled {n : Binary64} {taken : List Char}
    (written : (Kind.number n).Written taken) : ∃ d, Decimal.Spelled taken d ∧ d.RoundsTo n := by
  rw [← Decimal.filter_parse?_eq_some_iff, ← Binary64.filter_parse?]
  cases written with
  | sign listed => simp [signs] at listed
  | number _ _ _ reads finite => rw [reads, Option.filter_some, if_pos finite]

/-- A text whose only token is a number is a numeral with blanks around it. -/
theorem exists_spelled_of_scan {limits : Limits} {text : List Char} {n : Binary64} {span stop : Span}
    (scanned : scan limits text = .ok [⟨.number n, span⟩, ⟨.endOfInput, stop⟩]) :
    ∃ body d, Text.TrimsTo text body ∧ Decimal.Spelled body d ∧ d.RoundsTo n := by
  obtain ⟨_, scans, _⟩ := scan_eq_ok_iff.1 scanned
  cases scans with
  | @token _ _ c rest _ taken _ shown found later =>
    cases later with
    | ended blank =>
      -- Behind the number there are only blanks.
      obtain ⟨_, _, written, _⟩ := begins_of_front found
      obtain ⟨d, spelled, rounded⟩ := written.exists_spelled
      have afterBlank : Text.allBlank (rest.drop (taken.length - 1)) = true := by
        simpa [Text.allBlank] using blank
      exact ⟨taken, d, spelled.trimsTo (eq_append_of_front shown found)
        (Text.allBlank_takeWhile text) afterBlank, spelled, rounded⟩
    | token _ _ more => exact absurd more.length_pos (by simp)

end Token

/-- **A number is read alike in a text and in a formula.** A text is read as zero if it is blank, or
else as the finite number nearest to the decimal that stands between its blanks. If the text is
scanned as one number, then it is read as this number. -/
theorem numbers_read_alike (s : String) :
    ((Value.text s).toNumber? =
      if Text.trim s.toList = [] then some (.zero false)
      else if (Text.trim s.toList).all Decimal.isNumeralPart then
        (Binary64.parse? (Text.trim s.toList)).filter Binary64.isFinite
      else none) ∧
    (∀ n, (Value.text s).toNumber? = some n ↔ ∃ body, Text.TrimsTo s.toList body ∧
      (body = [] ∧ n = .zero false ∨ ∃ d, Decimal.Spelled body d ∧ d.RoundsTo n)) ∧
    ∀ limits n span stop,
      Token.scan limits s.toList = .ok [⟨.number n, span⟩, ⟨.endOfInput, stop⟩] →
        (Value.text s).toNumber? = some n ∧ (Value.number n).toNumber? = some n := by
  refine ⟨Value.toNumber?_text s, fun n => Value.toNumber?_text_eq_some_iff, ?_⟩
  intro limits n span stop scanned
  obtain ⟨body, d, trims, spelled, rounded⟩ := Token.exists_spelled_of_scan scanned
  constructor
  · exact Value.toNumber?_text_eq_some_iff.2 ⟨body, trims, .inr ⟨d, spelled, rounded⟩⟩
  · rw [Value.toNumber?, if_pos rounded.isFinite]

/-- A literal with zeros at both ends and blanks around it. -/
theorem numbers_read_alike_padded :
    let seven : Binary64 := .round false (29 * Binary64.unitsInOne) 4
    Token.scan {} "\u00a0007.250 ".toList =
        .ok [⟨.number seven, ⟨2, 9⟩⟩, ⟨.endOfInput, ⟨10, 10⟩⟩] ∧
      (Value.text "\u00a0007.250 ").toNumber? = some seven ∧
      (Value.number seven).toNumber? = some seven := by
  intro seven
  have scanned : Token.scan {} "\u00a0007.250 ".toList =
      .ok [⟨.number seven, ⟨2, 9⟩⟩, ⟨.endOfInput, ⟨10, 10⟩⟩] := by
    decide +kernel
  exact ⟨scanned, (numbers_read_alike "\u00a0007.250 ").2.2 _ _ _ _ scanned⟩

/-- A sign and an exponent are read in a text, but the words for other numbers are not. -/
example :
    (Value.text " -.5E+3").toNumber? = some (.ofInt (-500)) ∧
      (Value.text "5.").toNumber? = some (.ofInt 5) ∧
      ["inf", "NaN", "e5", ".", "1e", "1e999", "1 2"].all
        (fun s => (Value.text s).toNumber? = none) := by
  decide +kernel

end FieldFormula
