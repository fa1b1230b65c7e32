import FieldFormula.Proofs.Grammar.Parentheses
import FieldFormula.Proofs.Scanning
import FieldFormula.Proofs.Stages
import FieldFormula.Validation
import Mathlib.Data.List.TakeWhile

/-!
# Foreign characters are always listed

Validation lists the foreign characters of a text by itself and leaves out the syntax error that
would report one of them again. Nothing is lost by that: the reading of a text without foreign
characters never reports one.
-/

namespace FieldFormula

/-- The text has no character outside the alphabet of formulas. -/
def AllAllowed (text : List Char) : Prop :=
  ∀ c ∈ text, Text.isAllowed c = true

theorem allAllowed_append {text more : List Char} (allowed : AllAllowed text)
    (allowedMore : AllAllowed more) : AllAllowed (text ++ more) := by
  intro c member
  rcases List.mem_append.1 member with first | second
  · exact allowed c first
  · exact allowedMore c second

theorem allAllowed_cons {c : Char} {text : List Char} (first : Text.isAllowed c = true)
    (allowed : AllAllowed text) : AllAllowed (c :: text) := by
  intro d member
  rcases List.mem_cons.1 member with rfl | inside
  · exact first
  · exact allowed d inside

namespace Token

theorem checkAlphabet_eq_ok_iff {text : List Char} :
    checkAlphabet text = .ok () ↔ AllAllowed text := by
  have nothing_left : text.dropWhile Text.isAllowed = [] ↔ AllAllowed text :=
    List.dropWhile_eq_nil_iff
  rw [← nothing_left, checkAlphabet]
  cases text.dropWhile Text.isAllowed <;> simp

theorem scan_of_allAllowed {limits : Limits} {text : List Char} (allowed : AllAllowed text) :
    scan limits text = scanFrom limits.maxTokens 0 0 text := by
  rw [scan, checkAlphabet_eq_ok_iff.2 allowed]
  rfl

theorem allAllowed_of_scan_eq_ok {limits : Limits} {text : List Char} {tokens : List Token}
    (scanned : scan limits text = .ok tokens) : AllAllowed text := by
  rw [← checkAlphabet_eq_ok_iff]
  cases checked : checkAlphabet text with
  | ok => rfl
  | error error =>
    rw [scan, checked] at scanned
    cases scanned

/-- **A text is scanned** if its characters are allowed and its tokens are few enough. -/
theorem scan_eq_ok_iff {limits : Limits} {text : List Char} {tokens : List Token} :
    scan limits text = .ok tokens ↔
      AllAllowed text ∧ Scans 0 text tokens ∧ tokens.length ≤ limits.maxTokens + 1 := by
  constructor
  · intro scanned
    have allowed := allAllowed_of_scan_eq_ok scanned
    rw [scan_of_allAllowed allowed, scanFrom_eq_ok_iff (Nat.zero_le _), Nat.zero_add] at scanned
    exact ⟨allowed, scanned⟩
  · rintro ⟨allowed, scans, few⟩
    rw [scan_of_allAllowed allowed]
    exact scans.scanFrom_eq_ok (by omega)

/-- The foreign character reported is the first one of the text. -/
theorem checkAlphabet_error {text : List Char} {error : SyntaxError}
    (failed : checkAlphabet text = .error error) :
    ∃ before c after, text = before ++ c :: after ∧
      error = ⟨.foreignCharacter c, ⟨byteLength before, byteLength before + c.utf8Size⟩⟩ := by
  unfold checkAlphabet at failed
  split at failed
  · cases failed
  next c after shown =>
    cases failed
    refine ⟨text.takeWhile Text.isAllowed, c, after, ?_, rfl⟩
    rw [← shown, List.takeWhile_append_dropWhile]

/-- A text is not scanned for a foreign character, or else for what is wrong with a token. -/
theorem scan_error {limits : Limits} {text : List Char} {error : SyntaxError}
    (failed : scan limits text = .error error) :
    checkAlphabet text = .error error ∨ scanFrom limits.maxTokens 0 0 text = .error error := by
  unfold scan at failed
  cases checked : checkAlphabet text with
  | error other =>
    rw [checked] at failed
    cases failed
    exact .inl rfl
  | ok =>
    rw [checked] at failed
    exact .inr failed

end Token

/-- **Only a text with a foreign character is rejected for one.** -/
theorem Formula.RejectedBy.cause_ne_foreign {limits : Limits} {text : List Char}
    {error : SyntaxError} (rejected : RejectedBy limits text error) (allowed : AllAllowed text)
    (c : Char) : error.cause ≠ .foreignCharacter c := by
  intro foreign
  cases rejected with
  | length _ => cases foreign
  | blank _ _ => cases foreign
  | scan _ _ unscanned =>
    rw [Token.scan_of_allAllowed allowed] at unscanned
    rcases Token.scanFrom_error unscanned with many | front
    · rw [foreign] at many
      cases many
    · rw [foreign] at front
      cases front
  | parentheses _ _ _ unmatched =>
    rcases Token.matchParentheses_error unmatched with deep | close | opening
    · rw [foreign] at deep
      cases deep
    · rw [foreign] at close
      cases close
    · rw [foreign] at opening
      cases opening
  | grammar _ _ _ _ unread =>
    have grammar := ofTokens_error unread
    rw [foreign] at grammar
    cases grammar
  | depth _ _ _ _ _ _ => cases foreign

/-! ### Valid texts -/

theorem foreignCharacters_eq_nil_iff {text : List Char} :
    foreignCharacters text = [] ↔ AllAllowed text := by
  rw [List.eq_nil_iff_forall_not_mem]
  simp [foreignCharacters, AllAllowed]

theorem alphabetFindings_eq_nil_iff {foreign : List Char} :
    alphabetFindings foreign = [] ↔ foreign = [] := by
  cases foreign <;> simp [alphabetFindings]

theorem SyntaxError.kind_eq_disallowedCharacter_iff {error : SyntaxError} :
    error.kind = .disallowedCharacter ↔ ∃ c, error.cause = .foreignCharacter c := by
  obtain ⟨cause, span⟩ := error
  cases cause with
  | pointAfterNumber spelling beforeName => cases beforeName <;> simp [kind, Cause.kind]
  | _ => simp [kind, Cause.kind]

theorem Formula.findings_eq_nil_iff {formula : Formula} {available : List String} :
    formula.findings available = [] ↔
      (∀ name ∈ formula.identifiers, name ∈ available) ∧
        ∀ node ∈ formula.walk, node.refusal? = none := by
  simp [findings, refusals]

theorem value_validate (limits : Limits) (source : String) (available : List String) :
    (validate limits source available).value = Verdict.ofFindings
      (alphabetFindings (foreignCharacters source.toList) ++
        readingFindings available (foreignCharacters source.toList)
          (Formula.parse limits source)) := by
  rw [← Formula.value_parseLogged]
  rfl

/-- **A text is valid** exactly if it can be read, all names in it are available, and all nodes are
admitted. -/
theorem isValid_iff {limits : Limits} {source : String} {available : List String} :
    (validate limits source available).value.isValid = true ↔
      ∃ formula, Formula.parse limits source = .ok formula ∧
        (∀ name ∈ formula.identifiers, name ∈ available) ∧
          ∀ node ∈ formula.walk, node.refusal? = none := by
  have verdict : (validate limits source available).value.isValid = true ↔
      AllAllowed source.toList ∧ readingFindings available (foreignCharacters source.toList)
        (Formula.parse limits source) = [] := by
    rw [← foreignCharacters_eq_nil_iff, ← alphabetFindings_eq_nil_iff, value_validate,
      ← List.append_eq_nil_iff, ← List.isEmpty_iff]
    rfl
  rw [verdict]
  cases read : Formula.parse limits source with
  | ok formula =>
    obtain ⟨tokens, accepted⟩ := Formula.ofChars_eq_ok_iff.1 read
    have allowed := Token.allAllowed_of_scan_eq_ok accepted.scanned
    simp [readingFindings, Formula.findings_eq_nil_iff, allowed]
  | error error =>
    -- Without foreign characters the error is listed, so the text is not valid.
    simp only [reduceCtorEq, false_and, exists_false, iff_false, not_and]
    intro allowed
    simp [readingFindings, foreignCharacters_eq_nil_iff.2 allowed]

end FieldFormula
