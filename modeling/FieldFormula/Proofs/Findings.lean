import FieldFormula.Proofs.Grammar.Leaves
import FieldFormula.Proofs.SafeFormulas
import Mathlib.Data.List.Nodup

/-!
# What a validation reports

Validation looks for foreign characters by itself and then reads the text, whose stages can stop for
many reasons. `Report` says which findings come of it all, and `report_findings` that there are no
others: before its alphabet is checked, a text with foreign characters can only be found too long, and
a formula that was read has no node that would be refused.

## Main result

`errors_of_validate`: the report of every text, and that it says nothing twice.
-/

namespace FieldFormula

/-- What is reported about a text, and when. -/
inductive Report (limits : Limits) (available : List String) (text : List Char) : List Finding → Prop
  | foreign (occurs : ¬ AllAllowed text) (short : text.length ≤ limits.maxCharacters) :
    Report limits available text [.foreignCharacters (foreignCharacters text)]
  -- The length is checked before the alphabet, so it is reported beside it.
  | foreignAndLong (occurs : ¬ AllAllowed text) (long : limits.maxCharacters < text.length) :
    Report limits available text
      [.foreignCharacters (foreignCharacters text),
        .syntaxError ⟨.tooManyCharacters limits.maxCharacters text.length, .ofText text⟩]
  | unread {error} (allowed : AllAllowed text) (failed : Formula.ofChars limits text = .error error) :
    Report limits available text [.syntaxError error]
  | read {formula} (allowed : AllAllowed text) (read : Formula.ofChars limits text = .ok formula) :
    Report limits available text
      ((formula.identifiers.filter fun name => !available.contains name).map .unknownIdentifier)

variable {limits : Limits} {available : List String} {text : List Char}

theorem alphabetFindings_of_not_allAllowed (occurs : ¬ AllAllowed text) :
    alphabetFindings (foreignCharacters text) = [.foreignCharacters (foreignCharacters text)] := by
  rw [← foreignCharacters_eq_nil_iff] at occurs
  unfold alphabetFindings
  split
  next none_foreign => exact absurd none_foreign occurs
  · rfl

/-- **An error about a foreign character is that of a text that has one**, so it is never reported,
also without a look at the foreign characters of the text. -/
theorem readingFindings_of_error {error : SyntaxError}
    (failed : Formula.ofChars limits text = .error error) :
    readingFindings available (foreignCharacters text) (.error error) =
      if error.kind = .disallowedCharacter then [] else [.syntaxError error] := by
  by_cases foreign : error.kind = .disallowedCharacter
  · have occurs : foreignCharacters text ≠ [] := by
      intro none_foreign
      obtain ⟨c, cause⟩ := SyntaxError.kind_eq_disallowedCharacter_iff.1 foreign
      have rejected := Formula.ofChars_eq_error_iff.1 failed
      exact rejected.cause_ne_foreign (foreignCharacters_eq_nil_iff.1 none_foreign) c cause
    rw [readingFindings, if_pos ⟨foreign, occurs⟩, if_pos foreign]
  · rw [readingFindings, if_neg fun both => foreign both.1, if_neg foreign]

/-- A text with foreign characters that is not too long is refused for one of them. -/
theorem Formula.ofChars_of_not_allAllowed (occurs : ¬ AllAllowed text)
    (short : text.length ≤ limits.maxCharacters) :
    ∃ error, ofChars limits text = .error error ∧ error.kind = .disallowedCharacter := by
  have shown : Text.allBlank text = false := by
    rw [← Bool.not_eq_true, Text.allBlank, List.all_eq_true]
    exact fun blank => occurs fun c member => Text.isAllowed_of_isBlank (blank c member)
  cases checked : Token.checkAlphabet text with
  | ok => exact absurd (Token.checkAlphabet_eq_ok_iff.1 checked) occurs
  | error error =>
    have unscanned : Token.scan limits text = .error error := by
      rw [Token.scan, checked]
      rfl
    obtain ⟨_, c, _, _, rfl⟩ := Token.checkAlphabet_error checked
    exact ⟨_, (RejectedBy.scan short shown unscanned).ofChars_eq, rfl⟩

/-- **Every validation ends with one of the reports.** -/
theorem report_findings (limits : Limits) (available : List String) (text : List Char) :
    Report limits available text
      (alphabetFindings (foreignCharacters text) ++
        readingFindings available (foreignCharacters text) (Formula.ofChars limits text)) := by
  by_cases allowed : AllAllowed text
  · rw [alphabetFindings_eq_nil_iff.2 (foreignCharacters_eq_nil_iff.2 allowed), List.nil_append]
    cases read : Formula.ofChars limits text with
    | ok formula =>
      obtain ⟨tokens, accepted⟩ := Formula.ofChars_eq_ok_iff.1 read
      have admitted : formula.refusals = [] :=
        List.filterMap_eq_nil_iff.2 fun node occurs => (accepted.nodeIsSafe node occurs).admitted
      rw [readingFindings, Formula.findings, admitted, List.map_nil, List.append_nil]
      exact .read allowed read
    | error error =>
      rw [readingFindings, if_neg fun both => both.2 (foreignCharacters_eq_nil_iff.2 allowed)]
      exact .unread allowed read
  · rw [alphabetFindings_of_not_allAllowed allowed]
    by_cases short : text.length ≤ limits.maxCharacters
    · obtain ⟨error, failed, foreign⟩ := Formula.ofChars_of_not_allAllowed allowed short
      rw [failed, readingFindings_of_error failed, if_pos foreign]
      exact .foreign allowed short
    · have long := Nat.lt_of_not_le short
      have failed := (Formula.RejectedBy.length long).ofChars_eq
      rw [failed, readingFindings_of_error failed, if_neg (by simp [SyntaxError.kind,
        SyntaxError.Cause.kind])]
      exact .foreignAndLong allowed long

/-! ### Messages differ -/

/-- The first character of the message. It tells the sorts of findings apart. -/
def Finding.initial : Finding → Char
  | .foreignCharacters _ => 'E'
  | .syntaxError _ => 'S'
  | .unknownIdentifier _ => 'U'
  | .disallowed _ => 'D'

theorem Finding.head?_message (finding : Finding) :
    finding.message.toList.head? = some finding.initial := by
  unfold message
  cases finding <;> simp only [String.toList_append, List.head?_append] <;> rfl

theorem Finding.initial_eq_of_message_eq {finding other : Finding}
    (same : finding.message = other.message) : finding.initial = other.initial := by
  apply Option.some.inj
  rw [← head?_message, ← head?_message, same]

theorem Finding.message_unknownIdentifier_injective :
    Function.Injective fun name => (Finding.unknownIdentifier name).message := by
  unfold message
  intro name other same
  simpa only [String.append_left_inj, String.append_right_inj] using same

/-- **Nothing is reported twice.** -/
theorem Report.nodup {findings : List Finding} (report : Report limits available text findings) :
    (findings.map Finding.message).Nodup := by
  cases report with
  | foreign _ _ => simp
  | unread _ _ => simp
  | foreignAndLong _ _ =>
    refine List.nodup_cons.2 ⟨fun member => ?_, by simp⟩
    have same := Finding.initial_eq_of_message_eq (List.mem_singleton.1 member)
    cases same
  | @read formula _ _ =>
    have once : formula.identifiers.Nodup := (firstAppearances_eraseDups _).nodup
    rw [List.map_map]
    exact (once.filter _).map Finding.message_unknownIdentifier_injective

/-- No disallowed operation is reported. -/
theorem Report.disallowed_notMem {findings : List Finding}
    (report : Report limits available text findings) (refusal : Refusal) :
    (Finding.disallowed refusal).message ∉ findings.map Finding.message := by
  intro member
  obtain ⟨finding, found, same⟩ := List.mem_map.1 member
  have initial : finding.initial = 'D' := Finding.initial_eq_of_message_eq same
  cases report with
  | foreign _ _ =>
    obtain rfl := List.mem_singleton.1 found
    cases initial
  | foreignAndLong _ _ =>
    rcases List.mem_pair.1 found with rfl | rfl
    · cases initial
    · cases initial
  | unread _ _ =>
    obtain rfl := List.mem_singleton.1 found
    cases initial
  | read _ _ =>
    obtain ⟨name, _, rfl⟩ := List.mem_map.1 found
    cases initial

/-! ### Which report a text gets -/

theorem Report.eq_of_foreign {findings : List Finding}
    (report : Report limits available text findings) (occurs : ¬ AllAllowed text) :
    (text.length ≤ limits.maxCharacters →
      findings = [.foreignCharacters (foreignCharacters text)]) ∧
    (limits.maxCharacters < text.length → ∃ error, error.kind = .limitExceeded ∧
      Formula.ofChars limits text = .error error ∧
        findings = [.foreignCharacters (foreignCharacters text), .syntaxError error]) := by
  cases report with
  | foreign _ short => exact ⟨fun _ => rfl, fun long => absurd short (Nat.not_le_of_lt long)⟩
  | foreignAndLong _ long =>
    refine ⟨fun short => absurd short (Nat.not_le_of_lt long), fun _ => ⟨_, rfl, ?_, rfl⟩⟩
    exact (Formula.RejectedBy.length long).ofChars_eq
  | unread allowed _ => exact absurd allowed occurs
  | read allowed _ => exact absurd allowed occurs

theorem Report.eq_of_error {findings : List Finding} {error : SyntaxError}
    (report : Report limits available text findings) (allowed : AllAllowed text)
    (failed : Formula.ofChars limits text = .error error) : findings = [.syntaxError error] := by
  cases report with
  | foreign occurs _ => exact absurd allowed occurs
  | foreignAndLong occurs _ => exact absurd allowed occurs
  | unread _ other => rw [Except.error.inj (other.symm.trans failed)]
  | read _ read => cases read.symm.trans failed

theorem Report.eq_of_ok {findings : List Finding} {formula : Formula}
    (report : Report limits available text findings)
    (read : Formula.ofChars limits text = .ok formula) :
    findings =
      (formula.identifiers.filter fun name => !available.contains name).map .unknownIdentifier := by
  obtain ⟨tokens, accepted⟩ := Formula.ofChars_eq_ok_iff.1 read
  have allowed := Token.allAllowed_of_scan_eq_ok accepted.scanned
  cases report with
  | foreign occurs _ => exact absurd allowed occurs
  | foreignAndLong occurs _ => exact absurd allowed occurs
  | unread _ failed => cases read.symm.trans failed
  | read _ other => rw [Except.ok.inj (other.symm.trans read)]

theorem isValid_iff_available {source : String} :
    (validate limits source available).value.isValid = true ↔
      ∃ formula, Formula.parse limits source = .ok formula ∧
        ∀ name ∈ formula.identifiers, name ∈ available := by
  rw [isValid_iff]
  constructor
  · rintro ⟨formula, read, known, _⟩
    exact ⟨formula, read, known⟩
  · rintro ⟨formula, read, known⟩
    obtain ⟨tokens, accepted⟩ := Formula.ofChars_eq_ok_iff.1 read
    exact ⟨formula, read, known, fun node occurs => (accepted.nodeIsSafe node occurs).admitted⟩

/-- **Validation reports completely and without repetition.** A text is valid exactly if it is read
and its names are available. Otherwise its foreign characters are listed, and nothing is reported
beside them but that the text is too long, if it is; or, without foreign characters, the error of a
text that is not read is all there is; or the unavailable names of a text that is read are reported
one by one. What is listed stands in the order in which it first appears in the text. No disallowed
operation is ever reported. -/
theorem errors_of_validate (limits : Limits) (source : String) (available : List String) :
    ((validate limits source available).value.isValid = true ↔
      ∃ formula, Formula.parse limits source = .ok formula ∧
        ∀ name ∈ formula.identifiers, name ∈ available) ∧
    (¬ AllAllowed source.toList → ∃ characters,
      FirstAppearances (source.toList.filter fun c => !Text.isAllowed c) characters ∧
        (source.toList.length ≤ limits.maxCharacters →
          (validate limits source available).value.errors =
            ["Expression contains disallowed characters: "
              ++ ", ".intercalate (characters.map Text.quoteChar)]) ∧
        (limits.maxCharacters < source.toList.length → ∃ error, error.kind = .limitExceeded ∧
          Formula.parse limits source = .error error ∧
            (validate limits source available).value.errors =
              ["Expression contains disallowed characters: "
                  ++ ", ".intercalate (characters.map Text.quoteChar),
                "Syntax error: " ++ error.toText])) ∧
    (AllAllowed source.toList → ∀ error, Formula.parse limits source = .error error →
      (validate limits source available).value.errors = ["Syntax error: " ++ error.toText]) ∧
    (∀ formula, Formula.parse limits source = .ok formula →
      ∃ tokens names, Token.scan limits source.toList = .ok tokens ∧
        FirstAppearances (((tokens.map Token.kind).filterMap Token.Kind.name?).filter
          fun name => !available.contains name) names ∧
        (validate limits source available).value.errors =
          names.map fun name => "Unknown identifier '" ++ name ++ "'") ∧
    (validate limits source available).value.errors.Nodup ∧
    ∀ refusal : Refusal, "Disallowed operation: " ++ refusal.message ∉
      (validate limits source available).value.errors := by
  have report := report_findings limits available source.toList
  refine ⟨isValid_iff_available, ?_⟩
  rw [value_validate, Formula.parse]
  -- From here on the findings are known by their report alone.
  generalize alphabetFindings (foreignCharacters source.toList) ++
    readingFindings available (foreignCharacters source.toList)
      (Formula.ofChars limits source.toList) = findings at report ⊢
  refine ⟨fun occurs => ⟨foreignCharacters source.toList, firstAppearances_eraseDups _, ?_, ?_⟩,
    fun allowed error failed => ?_, fun formula read => ?_, report.nodup, report.disallowed_notMem⟩
  · intro short
    obtain rfl := (report.eq_of_foreign occurs).1 short
    rfl
  · intro long
    obtain ⟨error, limit, failed, rfl⟩ := (report.eq_of_foreign occurs).2 long
    exact ⟨error, limit, failed, rfl⟩
  · obtain rfl := report.eq_of_error allowed failed
    rfl
  · obtain ⟨tokens, accepted⟩ := Formula.ofChars_eq_ok_iff.1 read
    obtain rfl := report.eq_of_ok read
    exact ⟨tokens, _, accepted.scanned, accepted.accountsFor.firstAppearances_filter _,
      List.map_map ..⟩

/-- A text that is too long and has two foreign characters, one of them twice. -/
theorem errors_of_validate_foreign :
    ¬ AllAllowed "a € # b €".toList ∧
    ∃ error : SyntaxError, error.kind = .limitExceeded ∧ ∃ characters,
      FirstAppearances ['€', '#', '€'] characters ∧
        (validate { maxCharacters := 8 } "a € # b €" ["a"]).value.errors =
          ["Expression contains disallowed characters: "
              ++ ", ".intercalate (characters.map Text.quoteChar),
            "Syntax error: " ++ error.toText] := by
  have occurs : ¬ AllAllowed "a € # b €".toList := fun allowed =>
    absurd (allowed '#' (by decide)) (by decide)
  obtain ⟨_, foreign, _⟩ := errors_of_validate { maxCharacters := 8 } "a € # b €" ["a"]
  obtain ⟨characters, listed, _, long⟩ := foreign occurs
  obtain ⟨error, limit, _, errors⟩ := long (by decide)
  exact ⟨occurs, error, limit, characters, listed, errors⟩

end FieldFormula
