import FieldFormula.Proofs.Grammar.Blame
import FieldFormula.Proofs.SafeFormulas
import FieldFormula.Proofs.Text.OneLine

/-!
# Messages and log lines stay on one line

Formulas and records come from users, and so does some of the text in messages. Most of it stands
between quote marks there. What does not is the name in a message about a token, a call or an unknown
field, and it comes from a token or from a node that was admitted before. So no source, no scope and
no formula put together by hand can end a line of a message or of the log.

## Main result

`reports_onOneLine`: every error, finding, refusal and log entry is on one line.
-/

namespace FieldFormula

/-! ### Tokens -/

namespace Token

variable {c : Char} {rest text : List Char} {kind : Kind}

theorem onOneLine_ofWord {word : List Char} (parts : ∀ d ∈ word, Text.isNamePart d = true) :
    OnOneLine (Kind.ofWord (String.ofList word)).describe := by
  have spelled : OnOneLine (String.ofList word) :=
    OnOneLine.ofList_iff.2 fun d member => Text.breaksLine_of_isNamePart (parts d member)
  unfold Kind.ofWord
  split
  · decide
  · split
    · decide
    · rw [Kind.describe, OnOneLine.append_iff, OnOneLine.append_iff]
      exact ⟨⟨by decide, spelled⟩, by decide⟩

/-- A token is described on one line, whatever the characters around it. -/
theorem Finds.onOneLine {taken : List Char} (finds : Finds c rest (.ok kind) taken) :
    OnOneLine kind.describe := by
  cases finds with
  | sign listed =>
    have described : ∀ entry ∈ signs, OnOneLine entry.2.describe := by decide
    exact described _ listed
  | text _ _ _ => exact OnOneLine.append_iff.2 ⟨by decide, Text.onOneLine_quoteText _⟩
  | number _ _ _ => exact OnOneLine.append_iff.2 ⟨by decide, Binary64.onOneLine_toText _⟩
  | word start parts _ =>
    refine onOneLine_ofWord fun d member => ?_
    rcases List.mem_cons.1 member with rfl | later
    · exact Text.isNamePart_of_isNameStart start
    · exact parts d later
  | operator listed _ _ =>
    have described : ∀ symbol ∈ operatorSymbols, OnOneLine (Kind.operator symbol).describe := by
      decide
    exact described _ listed

theorem Scans.onOneLine {offset : Nat} {tokens : List Token} (scans : Scans offset text tokens) :
    ∀ token ∈ tokens, OnOneLine token.kind.describe := by
  induction scans with
  | ended blank =>
    intro token member
    obtain rfl := List.mem_singleton.1 member
    exact (by decide : OnOneLine Kind.endOfInput.describe)
  | token shown found later ih =>
    intro token member
    rcases List.mem_cons.1 member with rfl | behind
    · exact (finds_of_front found).onOneLine
    · exact ih token behind

end Token

/-! ### Syntax errors -/

namespace SyntaxError

/-- What the cause cites without quote marks is on one line. -/
def Cause.CitesOneLine : Cause → Prop
  | .unexpected found _ => OnOneLine found.describe
  | .call (some name) => OnOneLine name
  | _ => True

theorem onOneLine_numberFlaw (flaw : NumberFlaw) : OnOneLine flaw.message := by
  cases flaw <;> decide

theorem onOneLine_wanted (wanted : Wanted) : OnOneLine wanted.message := by
  cases wanted <;> decide

theorem Cause.onOneLine_message {cause : Cause} (cites : cause.CitesOneLine) :
    OnOneLine cause.message := by
  unfold message
  cases cause with
  | unexpected found wanted =>
    simp only [OnOneLine.append_iff]
    exact ⟨⟨⟨by decide, cites⟩, by decide⟩, onOneLine_wanted wanted⟩
  | call callee =>
    cases callee with
    | none => decide
    | some name =>
      simp only [OnOneLine.append_iff]
      exact ⟨⟨by decide, cites⟩, by decide⟩
  -- The other messages consist of fixed words, numbers and quoted text.
  | _ =>
    simp only [OnOneLine.append_iff, Text.onOneLine_natural, Text.onOneLine_quoteChar,
      Text.onOneLine_quoteText, onOneLine_numberFlaw, and_true]
    decide

theorem onOneLine_toText {error : SyntaxError} (cites : error.cause.CitesOneLine) :
    OnOneLine error.toText := by
  simp only [toText, located, OnOneLine.append_iff, Text.onOneLine_natural, and_true]
  exact ⟨⟨⟨Cause.onOneLine_message cites, by decide⟩, by decide⟩, by decide⟩

/-- What is found at the front of a text is cited between quote marks only. -/
theorem Cause.OfFront.citesOneLine {cause : Cause} (front : cause.OfFront) : cause.CitesOneLine := by
  cases front <;> trivial

end SyntaxError

theorem Phrase.Blames.citesOneLine {maxDepth : Nat} {tokens : List Token} {error : SyntaxError}
    (blames : Blames maxDepth tokens error)
    (described : ∀ token ∈ tokens, OnOneLine token.kind.describe) : error.cause.CitesOneLine := by
  cases blames with
  | unexpected occurs wanted => exact described _ occurs
  | @call _ callee _ named =>
    cases callee with
    | none => trivial
    | some name =>
      -- The name is that of a token, and is part of its description.
      obtain ⟨token, occurs, same⟩ := List.mem_map.1 (named name rfl)
      have description := described token occurs
      simp only [same, Token.Kind.describe, OnOneLine.append_iff] at description
      exact description.1.2
  | nestingTooDeep _ => trivial
  | chainTooDeep _ => trivial

/-- **The cause of a syntax error cites one line**, whatever the source. -/
theorem Formula.RejectedBy.citesOneLine {limits : Limits} {text : List Char} {error : SyntaxError}
    (rejected : RejectedBy limits text error) : error.cause.CitesOneLine := by
  cases rejected with
  | length _ => trivial
  | blank _ _ => trivial
  | scan _ _ unscanned =>
    rcases Token.scan_error unscanned with foreign | failed
    · obtain ⟨_, c, _, _, rfl⟩ := Token.checkAlphabet_error foreign
      trivial
    · rcases Token.scanFrom_error failed with many | front
      · rw [many]
        trivial
      · exact front.citesOneLine
  | parentheses _ _ _ unmatched =>
    rcases Token.matchParentheses_error unmatched with deep | close | opening
    · rw [deep]
      trivial
    · rw [close]
      trivial
    · rw [opening]
      trivial
  | grammar _ _ scanned _ unread =>
    obtain ⟨_, scans, _⟩ := Token.scan_eq_ok_iff.1 scanned
    exact (blames_of_ofTokens scans.endOfInput_mem unread).citesOneLine scans.onOneLine
  | depth _ _ _ _ _ _ => trivial

/-! ### Results -/

/-- If the result is an error, its text is on one line. -/
def FailsOnOneLine {ε α : Type} (text : ε → String) (result : Except ε α) : Prop :=
  ∀ error, result = .error error → OnOneLine (text error)

namespace FailsOnOneLine

variable {ε α β : Type} {text : ε → String}

theorem ok (value : α) : FailsOnOneLine text (.ok value) := by
  rintro error ⟨⟩

theorem error {error : ε} (line : OnOneLine (text error)) :
    FailsOnOneLine text (.error error : Except ε α) := by
  rintro other ⟨⟩
  exact line

theorem bind {first : Except ε α} {next : α → Except ε β} (here : FailsOnOneLine text first)
    (later : ∀ value, FailsOnOneLine text (next value)) : FailsOnOneLine text (first >>= next) := by
  cases first with
  | ok value => exact later value
  | error fault => exact error (here fault rfl)

end FailsOnOneLine

theorem Formula.parse_failsOnOneLine (limits : Limits) (source : String) :
    FailsOnOneLine SyntaxError.toText (parse limits source) := by
  intro error failed
  exact SyntaxError.onOneLine_toText (ofChars_eq_error_iff.1 failed).citesOneLine

/-! ### Errors of an evaluation -/

theorem Formula.Kind.onOneLine_name (kind : Kind) : OnOneLine kind.name := by
  cases kind <;> decide

theorem PrefixOp.onOneLine_symbol (op : PrefixOp) : OnOneLine op.symbol := by
  cases op <;> decide

theorem InfixOp.onOneLine_symbol (op : InfixOp) : OnOneLine op.symbol := by
  rcases op with op | op <;> cases op <;> decide

theorem BinaryOp.onOneLine_symbol (op : BinaryOp) : OnOneLine op.symbol :=
  InfixOp.onOneLine_symbol (.binary op)

theorem Refusal.Reason.onOneLine_message (reason : Reason) : OnOneLine reason.message := by
  unfold message
  cases reason with
  | mixedQuotes => decide
  | _ =>
    simp only [OnOneLine.append_iff, Binary64.onOneLine_toText, Text.onOneLine_quoteChar,
      Text.onOneLine_quoteText, PrefixOp.onOneLine_symbol, InfixOp.onOneLine_symbol, and_true,
      true_and]
    decide

/-- **A refusal is on one line**, whatever the node holds. -/
theorem Refusal.onOneLine_message (refusal : Refusal) : OnOneLine refusal.message := by
  rw [message, OnOneLine.append_iff, OnOneLine.append_iff]
  exact ⟨⟨refusal.kind.onOneLine_name, by decide⟩, refusal.reason.onOneLine_message⟩

theorem Value.onOneLine_typeName (value : Value) : OnOneLine value.typeName := by
  unfold typeName
  split <;> decide

theorem Value.onOneLine_cite (value : Value) : OnOneLine value.cite := by
  cases value with
  | null => decide
  | boolean value => cases value <;> decide
  | number value => exact value.onOneLine_toText
  | text value => exact Text.onOneLine_quoteText value

namespace EvaluationError

/-- What the error cites without quote marks is on one line. -/
def CitesOneLine : EvaluationError → Prop
  | .syntaxError error => OnOneLine error.toText
  | .unknownIdentifier name => OnOneLine name
  | _ => True

theorem onOneLine_message {error : EvaluationError} (cites : error.CitesOneLine) :
    OnOneLine error.message := by
  unfold message
  cases error with
  | syntaxError error => exact OnOneLine.append_iff.2 ⟨by decide, cites⟩
  | unknownIdentifier name => exact OnOneLine.append_iff.2 ⟨by decide, cites⟩
  | _ =>
    simp only [OnOneLine.append_iff, Text.onOneLine_natural, Value.onOneLine_typeName,
      Value.onOneLine_cite, BinaryOp.onOneLine_symbol, Refusal.onOneLine_message, and_true]
    decide

end EvaluationError

namespace Formula

variable {σ : Type} [Scope σ]

/-- Operators cite the values of fields between quote marks only. -/
theorem failsOnOneLine_of_values {result : Except EvaluationError Value}
    (fails : FailsOnValuesOnly result) : FailsOnOneLine EvaluationError.message result := by
  intro error failed
  apply EvaluationError.onOneLine_message
  cases fails error failed <;> trivial

/-- What stands below a node is looked at only if the node is admitted. -/
theorem failsOnOneLine_outcomeOfNode {maxDepth nesting : Nat} {node : Formula}
    {below : Except EvaluationError Value}
    (passes : node.refusal? = none → FailsOnOneLine EvaluationError.message below) :
    FailsOnOneLine EvaluationError.message (outcomeOfNode maxDepth nesting node below) := by
  unfold outcomeOfNode
  split
  · exact .error (EvaluationError.onOneLine_message trivial)
  · split
    · exact .error (EvaluationError.onOneLine_message trivial)
    next admitted => exact passes admitted

theorem failsOnOneLine_valueOfField (scope : σ) {name : String} (line : OnOneLine name) :
    FailsOnOneLine EvaluationError.message (valueOfField scope name) := by
  unfold valueOfField
  split
  · exact .ok _
  · exact .error (EvaluationError.onOneLine_message line)

theorem isName_of_admitted {name : String} (admitted : (identifier name).refusal? = none) :
    Text.isName name = true := by
  simpa [refusal?, flaw?] using admitted

/-- **An evaluation fails on one line**, also that of a formula put together by hand: a name is looked
up only after its node was admitted. -/
theorem failsOnOneLine_outcome (maxDepth : Nat) (scope : σ) (formula : Formula) (nesting : Nat) :
    FailsOnOneLine EvaluationError.message (formula.outcome maxDepth scope nesting) := by
  induction formula generalizing nesting with
  | literal value => exact failsOnOneLine_outcomeOfNode fun _ => .ok _
  | identifier name =>
    refine failsOnOneLine_outcomeOfNode fun admitted => ?_
    exact failsOnOneLine_valueOfField scope (Text.onOneLine_of_isName (isName_of_admitted admitted))
  | unary op operand ih =>
    refine failsOnOneLine_outcomeOfNode fun _ => (ih _).bind fun value => ?_
    exact failsOnOneLine_of_values (.prefixOp op value)
  | binary op left right ihl ihr =>
    refine failsOnOneLine_outcomeOfNode fun _ => (ihl _).bind fun leftValue =>
      (ihr _).bind fun rightValue => ?_
    exact failsOnOneLine_of_values (.binaryOp op leftValue rightValue)
  | logical op left right ihl ihr =>
    refine failsOnOneLine_outcomeOfNode fun _ => (ihl _).bind fun leftValue => ?_
    split
    · exact .ok leftValue
    · exact ihr _
  | conditional test consequent alternate iht ihc iha =>
    refine failsOnOneLine_outcomeOfNode fun _ => (iht _).bind fun testValue => ?_
    split
    · exact ihc _
    · exact iha _

end Formula

/-! ### The log -/

/-- Each entry that was made is one line of the log. -/
def Logged.LogsLines {α : Type} (logged : Logged α) : Prop :=
  ∀ entry ∈ logged.entries, OnOneLine entry.line

namespace Logged.LogsLines

variable {α β : Type}

theorem pure (value : α) : (Pure.pure value : Logged α).LogsLines := by
  rintro entry ⟨⟩

theorem bind {first : Logged α} {next : α → Logged β} (here : first.LogsLines)
    (later : (next first.value).LogsLines) : (first >>= next).LogsLines := by
  intro entry member
  rcases List.mem_append.1 member with before | behind
  · exact here entry before
  · exact later entry behind

end Logged.LogsLines

namespace LogEntry

/-- What the entry cites without quote marks is on one line. -/
def CitesOneLine : LogEntry → Prop
  | .failed error => OnOneLine error.message
  | _ => True

theorem onOneLine_message {entry : LogEntry} (cites : entry.CitesOneLine) :
    OnOneLine entry.message := by
  unfold message
  cases entry with
  | failed error => exact OnOneLine.append_iff.2 ⟨by decide, cites⟩
  | _ =>
    simp only [OnOneLine.append_iff, Text.onOneLine_natural, Text.onOneLine_quoteText,
      Text.onOneLine_quoteList, Refusal.onOneLine_message, Formula.Kind.onOneLine_name, and_true]
    decide

theorem onOneLine_line {entry : LogEntry} (cites : entry.CitesOneLine) : OnOneLine entry.line := by
  have levels : ∀ level : LogLevel, OnOneLine level.name := by
    intro level
    cases level <;> decide
  rw [line, OnOneLine.append_iff, OnOneLine.append_iff]
  exact ⟨⟨levels entry.level, by decide⟩, onOneLine_message cites⟩

end LogEntry

namespace Formula

variable {σ : Type} [Scope σ]

theorem logsLines_parseLogged (limits : Limits) (source : String) :
    (parseLogged limits source).LogsLines := by
  unfold parseLogged
  split
  · intro entry member
    obtain rfl := List.mem_singleton.1 member
    exact LogEntry.onOneLine_line trivial
  · rintro entry ⟨⟩

theorem onOneLine_of_mem_refusalEntries {outcome : Except EvaluationError Value} {entry : LogEntry}
    (member : entry ∈ refusalEntries outcome) : OnOneLine entry.line := by
  unfold refusalEntries at member
  split at member
  · obtain rfl := List.mem_singleton.1 member
    exact LogEntry.onOneLine_line trivial
  · cases member

theorem logsLines_evaluate (limits : Limits) (formula : Formula) (scope : σ) :
    (formula.evaluate limits scope).LogsLines := by
  rw [evaluate_eq]
  intro entry member
  rcases List.mem_append.1 member with before | last
  · rcases List.mem_cons.1 before with rfl | refused
    · exact LogEntry.onOneLine_line trivial
    · exact onOneLine_of_mem_refusalEntries refused
  · -- The last entry is about the error that ended the evaluation.
    cases ended : formula.outcome limits.maxDepth scope 0 with
    | ok value => simp [ended, entryOf?] at last
    | error error =>
      obtain rfl : entry = .failed error := by simpa [ended, entryOf?] using last
      exact LogEntry.onOneLine_line (failsOnOneLine_outcome _ scope formula 0 error ended)

theorem logsLines_evalAll (maxDepth : Nat) (scope : σ) (nesting : Nat) (formulas : List Formula) :
    (evalAll maxDepth scope nesting formulas).LogsLines := by
  rw [evalAll_eq]
  intro entry member
  obtain ⟨formula, _, refused⟩ := List.mem_flatMap.1 member
  exact onOneLine_of_mem_refusalEntries refused

end Formula

/-! ### Findings -/

namespace Finding

/-- What the finding cites without quote marks is on one line. -/
def CitesOneLine : Finding → Prop
  | .syntaxError error => OnOneLine error.toText
  | .unknownIdentifier name => OnOneLine name
  | _ => True

theorem onOneLine_message {finding : Finding} (cites : finding.CitesOneLine) :
    OnOneLine finding.message := by
  unfold message
  cases finding with
  | foreignCharacters characters =>
    refine OnOneLine.append_iff.2 ⟨by decide, .intercalate (by decide) fun text member => ?_⟩
    obtain ⟨c, _, rfl⟩ := List.mem_map.1 member
    exact Text.onOneLine_quoteChar c
  | syntaxError error => exact OnOneLine.append_iff.2 ⟨by decide, cites⟩
  | unknownIdentifier name =>
    exact OnOneLine.append_iff.2 ⟨OnOneLine.append_iff.2 ⟨by decide, cites⟩, by decide⟩
  | disallowed refusal => exact OnOneLine.append_iff.2 ⟨by decide, refusal.onOneLine_message⟩

end Finding

theorem citesOneLine_of_mem_alphabetFindings {foreign : List Char} {finding : Finding}
    (member : finding ∈ alphabetFindings foreign) : finding.CitesOneLine := by
  unfold alphabetFindings at member
  split at member
  · cases member
  · rw [List.mem_singleton.1 member]
    trivial

/-- The names in a formula that was read are spelled like names. -/
theorem Formula.AcceptedAs.isName {limits : Limits} {text : List Char} {formula : Formula}
    {tokens : List Token} (accepted : AcceptedAs limits text formula tokens) {name : String}
    (occurs : name ∈ formula.identifiers) : Text.isName name = true :=
  isName_of_admitted (accepted.nodeIsSafe _ (mem_identifiers_iff.1 occurs)).admitted

theorem citesOneLine_of_mem_readingFindings {limits : Limits} {source : String}
    {available : List String} {foreign : List Char} {finding : Finding}
    (member : finding ∈ readingFindings available foreign (Formula.parse limits source)) :
    finding.CitesOneLine := by
  cases read : Formula.parse limits source with
  | ok formula =>
    obtain ⟨tokens, accepted⟩ := Formula.ofChars_eq_ok_iff.1 read
    rw [read] at member
    rcases List.mem_append.1 member with unknown | refused
    · obtain ⟨name, occurs, rfl⟩ := List.mem_map.1 unknown
      exact Text.onOneLine_of_isName (accepted.isName (List.mem_of_mem_filter occurs))
    · obtain ⟨refusal, _, rfl⟩ := List.mem_map.1 refused
      trivial
  | error error =>
    rw [read, readingFindings] at member
    split at member
    · cases member
    · rw [List.mem_singleton.1 member]
      exact Formula.parse_failsOnOneLine limits source error read

theorem onOneLine_of_mem_validate {limits : Limits} {source : String} {available : List String}
    {text : String} (member : text ∈ (validate limits source available).value.errors) :
    OnOneLine text := by
  rw [value_validate] at member
  obtain ⟨finding, found, rfl⟩ := List.mem_map.1 member
  apply Finding.onOneLine_message
  rcases List.mem_append.1 found with foreign | reading
  · exact citesOneLine_of_mem_alphabetFindings foreign
  · exact citesOneLine_of_mem_readingFindings reading

/-! ### All that is reported -/

theorem logsLines_validate (limits : Limits) (source : String) (available : List String) :
    (validate limits source available).LogsLines := by
  refine (Formula.logsLines_parseLogged limits source).bind (.bind (fun entry member => ?_) (.pure _))
  simp only [Logged.logAll] at member
  split at member
  · cases member
  · rw [List.mem_singleton.1 member]
    exact LogEntry.onOneLine_line trivial

variable {σ : Type} [Scope σ]

theorem logsLines_evaluate_source (limits : Limits) (source : String) (scope : σ) :
    (evaluate limits source scope).LogsLines := by
  refine (Formula.logsLines_parseLogged limits source).bind ?_
  split
  · exact .pure _
  next formula _ => exact Formula.logsLines_evaluate limits formula scope

theorem evaluate_source_failsOnOneLine (limits : Limits) (source : String) (scope : σ) :
    FailsOnOneLine EvaluationError.message (evaluate limits source scope).value := by
  cases read : Formula.parse limits source with
  | ok formula =>
    rw [Formula.value_evaluate_source read]
    exact Formula.failsOnOneLine_outcome _ scope formula 0
  | error error =>
    have unread : (evaluate limits source scope).value = .error (.syntaxError error) := by
      simp [evaluate, bind, Logged.bind, Formula.value_parseLogged, read, pure, Logged.pure]
    rw [unread]
    exact .error (EvaluationError.onOneLine_message
      (Formula.parse_failsOnOneLine limits source error read))

/-- **Nothing that is reported can end its line.** Whatever the source, the limits, the available
names, the scope and the formula, which may be put together by hand: the errors of reading and of
evaluating, the findings of a validation, the refusals of nodes and all lines of the log contain no
control character and no line or paragraph separator. -/
theorem reports_onOneLine (limits : Limits) (source : String) (available : List String) (scope : σ) :
    (FailsOnOneLine SyntaxError.toText (Formula.parseLogged limits source).value ∧
      (Formula.parseLogged limits source).LogsLines) ∧
    ((∀ text ∈ (validate limits source available).value.errors, OnOneLine text) ∧
      (validate limits source available).LogsLines) ∧
    (FailsOnOneLine EvaluationError.message (evaluate limits source scope).value ∧
      (evaluate limits source scope).LogsLines) ∧
    (∀ formula : Formula,
      FailsOnOneLine EvaluationError.message (formula.evaluate limits scope).value ∧
        (formula.evaluate limits scope).LogsLines) ∧
    (∀ (maxDepth nesting : Nat) (formulas : List Formula),
      (∀ outcome ∈ (Formula.evalAll maxDepth scope nesting formulas).value.1,
        FailsOnOneLine EvaluationError.message outcome) ∧
        (Formula.evalAll maxDepth scope nesting formulas).LogsLines) ∧
    ∀ formula : Formula, ∀ refusal ∈ formula.refusals, OnOneLine refusal.message := by
  refine ⟨⟨?_, Formula.logsLines_parseLogged limits source⟩,
    ⟨fun _ => onOneLine_of_mem_validate, logsLines_validate limits source available⟩,
    ⟨evaluate_source_failsOnOneLine limits source scope,
      logsLines_evaluate_source limits source scope⟩,
    fun formula => ⟨?_, Formula.logsLines_evaluate limits formula scope⟩,
    fun maxDepth nesting formulas =>
      ⟨fun outcome member => ?_, Formula.logsLines_evalAll maxDepth scope nesting formulas⟩,
    fun formula refusal _ => refusal.onOneLine_message⟩
  · rw [Formula.value_parseLogged]
    exact Formula.parse_failsOnOneLine limits source
  · rw [Formula.value_evaluate]
    exact Formula.failsOnOneLine_outcome _ scope formula 0
  · rw [Formula.evalAll_eq] at member
    obtain ⟨formula, _, rfl⟩ := List.mem_map.1 member
    exact Formula.failsOnOneLine_outcome _ scope formula nesting

/-- A line break in a name that was put together by hand does not reach the message. -/
example : (Formula.identifier "a\nb").refusals.map Refusal.message =
    ["Identifier node \"a\\nb\" is not a valid identifier"] := by
  decide +kernel

end FieldFormula
