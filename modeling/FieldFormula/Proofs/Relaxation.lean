import FieldFormula.Formula.Parse
import FieldFormula.Proofs.Grammar.Parentheses
import FieldFormula.Proofs.Grammar.Reading
import FieldFormula.Proofs.Scanning
import Mathlib.Data.List.Basic

/-!
# Relaxing the limits

Each stage of reading asks a limit only whether it is exceeded. So a stage under relaxed limits goes
through the same steps as under the given ones, until the given ones stop it: it ends as before, or as
it likes if it was a limit that ended it before. `Relaxes` relates the two results, and is kept when
stages follow one another.

## Main result

`parse_of_relaxed`: an answer other than that a limit is exceeded is the answer under relaxed limits
too.
-/

namespace FieldFormula

/-! ### Results under two limits -/

/-- The second result may replace the first one once limits are relaxed. -/
inductive Relaxes {α : Type} : Except SyntaxError α → Except SyntaxError α → Prop
  | same (result : Except SyntaxError α) : Relaxes result result
  | exceeded {error : SyntaxError} (limit : error.kind = .limitExceeded)
    (result : Except SyntaxError α) : Relaxes (.error error) result

namespace Relaxes

variable {α β : Type}

theorem bind {first relaxed : Except SyntaxError α} {next relaxedNext : α → Except SyntaxError β}
    (here : Relaxes first relaxed) (later : ∀ value, Relaxes (next value) (relaxedNext value)) :
    Relaxes (first >>= next) (relaxed >>= relaxedNext) := by
  cases here with
  | same =>
    cases first with
    | ok value => exact later value
    | error error => exact same (.error error)
  | exceeded limit => exact exceeded limit _

/-- A check whose bound is raised: what exceeds the raised bound exceeds the first one. -/
theorem check {measure bound relaxedBound : Nat} (more : bound ≤ relaxedBound)
    {error relaxedError : SyntaxError} (limit : error.kind = .limitExceeded)
    {next relaxedNext : Except SyntaxError α} (later : Relaxes next relaxedNext) :
    Relaxes (if bound < measure then .error error else next)
      (if relaxedBound < measure then .error relaxedError else relaxedNext) := by
  by_cases exceeds : bound < measure
  · rw [if_pos exceeds]
    exact exceeded limit _
  · rw [if_neg exceeds, if_neg (Nat.not_lt_of_le (Nat.le_trans (Nat.le_of_not_lt exceeds) more))]
    exact later

theorem eq_of_ok {value : α} {relaxed : Except SyntaxError α} (here : Relaxes (.ok value) relaxed) :
    relaxed = .ok value := by
  cases here with
  | same => rfl

theorem eq_of_error {error : SyntaxError} {relaxed : Except SyntaxError α}
    (here : Relaxes (.error error) relaxed) (noLimit : error.kind ≠ .limitExceeded) :
    relaxed = .error error := by
  cases here with
  | same => rfl
  | exceeded limit => exact absurd limit noLimit

end Relaxes

/-! ### Tokens and parentheses -/

namespace Token

/-- The limit is looked at behind each token only, when what stands at the front has been found. -/
theorem relaxes_scanFrom {maxTokens relaxed : Nat} (more : maxTokens ≤ relaxed)
    (count offset : Nat) (text : List Char) :
    Relaxes (scanFrom maxTokens count offset text) (scanFrom relaxed count offset text) := by
  induction count, offset, text using scanFrom.induct maxTokens with
  | case1 count offset text blank =>
    rw [scanFrom_of_blank blank, scanFrom_of_blank blank]
    exact .same _
  | case2 count offset text c rest shown _ taken cause found =>
    rw [scanFrom_of_error shown found, scanFrom_of_error shown found]
    exact .same _
  | case3 count offset text c rest shown _ taken kind full found =>
    rw [scanFrom_of_full shown found full]
    exact .exceeded rfl _
  | case4 count offset text start c rest shown _ taken span kind room found ih =>
    have within : count < maxTokens := Nat.lt_of_not_le room
    rw [scanFrom_of_token shown found within,
      scanFrom_of_token shown found (Nat.lt_of_lt_of_le within more)]
    exact ih.bind fun others => .same _

theorem relaxes_scan {limits relaxed : Limits} (more : limits.maxTokens ≤ relaxed.maxTokens)
    (text : List Char) : Relaxes (scan limits text) (scan relaxed text) :=
  (Relaxes.same _).bind fun _ => relaxes_scanFrom more 0 0 text

theorem relaxes_matchParentheses {maxDepth relaxed : Nat} (more : maxDepth ≤ relaxed)
    (opened : List Span) (tokens : List Token) :
    Relaxes (matchParentheses maxDepth opened tokens) (matchParentheses relaxed opened tokens) := by
  induction tokens generalizing opened with
  | nil => cases opened <;> exact .same _
  | cons token rest ih =>
    by_cases opening : token.kind = .openParen
    · by_cases room : opened.length < maxDepth
      · rw [matchParentheses_openParen opening room,
          matchParentheses_openParen opening (Nat.lt_of_lt_of_le room more)]
        exact ih _
      · rw [matchParentheses_openParen_full opening (Nat.le_of_not_lt room)]
        exact .exceeded rfl _
    · by_cases closing : token.kind = .closeParen
      · cases opened with
        | nil =>
          rw [matchParentheses_closeParen_unmatched closing,
            matchParentheses_closeParen_unmatched closing]
          exact .same _
        | cons innermost outer =>
          rw [matchParentheses_closeParen closing, matchParentheses_closeParen closing]
          exact ih outer
      · rw [matchParentheses_other opening closing, matchParentheses_other opening closing]
        exact ih opened

end Token

/-! ### The grammar -/

namespace Phrase

variable {maxDepth relaxed : Nat}

/-- **What is read is read under a relaxed limit too**, up to the same place. -/
theorem Reads.relax {task : Task} {cursor after : Cursor} {formula : Formula}
    (reads : Reads maxDepth task cursor formula after) (more : maxDepth ≤ relaxed) :
    Reads relaxed task cursor formula after := by
  induction reads with
  | unconditional _ noQuestion test => exact .unconditional test noQuestion
  | conditional _ question room _ colon _ test consequent alternate =>
    exact .conditional test question (Nat.lt_of_lt_of_le room more) consequent colon alternate
  | chain _ _ first links => exact .chain first links
  | chainEnds noOperator => exact .chainEnds noOperator
  | link operator room _ shallow _ right links =>
    exact .link operator (Nat.lt_of_lt_of_le room more) right (Nat.le_trans shallow more) links
  | prefixed operator room _ operand =>
    exact .prefixed operator (Nat.lt_of_lt_of_le room more) operand
  | unprefixed noOperator _ primary => exact .unprefixed noOperator primary
  | uncalled _ noCall operand => exact .uncalled operand noCall
  | leaf stands => exact .leaf stands
  | group opened room _ closed inner =>
    exact .group opened (Nat.lt_of_lt_of_le room more) inner closed

/-- **What fails by no limit fails under a relaxed limit too**, in the same place and by the same
error. -/
theorem Fails.relax {task : Task} {cursor after : Cursor} {error : SyntaxError}
    (fails : Fails maxDepth task cursor error after) (more : maxDepth ≤ relaxed)
    (noLimit : error.kind ≠ .limitExceeded) : Fails relaxed task cursor error after := by
  -- The parts in front of the one that fails are read again, and the guard has room for as many.
  induction fails with
  | test _ ih => exact .test (ih noLimit)
  | branchesTooDeep => exact absurd rfl noLimit
  | consequent testRead question room _ ih =>
    exact .consequent (testRead.relax more) question (Nat.lt_of_lt_of_le room more) (ih noLimit)
  | colonMissing testRead question room consequentRead noColon =>
    exact .colonMissing (testRead.relax more) question (Nat.lt_of_lt_of_le room more)
      (consequentRead.relax more) noColon
  | alternate testRead question room consequentRead colon _ ih =>
    exact .alternate (testRead.relax more) question (Nat.lt_of_lt_of_le room more)
      (consequentRead.relax more) colon (ih noLimit)
  | first _ ih => exact .first (ih noLimit)
  | chain firstRead _ ih => exact .chain (firstRead.relax more) (ih noLimit)
  | rightTooDeep => exact absurd rfl noLimit
  | right operator room _ ih =>
    exact .right operator (Nat.lt_of_lt_of_le room more) (ih noLimit)
  | chainTooDeep => exact absurd rfl noLimit
  | link operator room rightRead shallow _ ih =>
    exact .link operator (Nat.lt_of_lt_of_le room more) (rightRead.relax more)
      (Nat.le_trans shallow more) (ih noLimit)
  | prefixTooDeep => exact absurd rfl noLimit
  | prefixed operator room _ ih =>
    exact .prefixed operator (Nat.lt_of_lt_of_le room more) (ih noLimit)
  | unprefixed noOperator _ ih => exact .unprefixed noOperator (ih noLimit)
  | operand _ ih => exact .operand (ih noLimit)
  | called operandRead call => exact .called (operandRead.relax more) call
  | noOperand noLeaf notOpened => exact .noOperand noLeaf notOpened
  | groupTooDeep => exact absurd rfl noLimit
  | inner opened room _ ih => exact .inner opened (Nat.lt_of_lt_of_le room more) (ih noLimit)
  | unclosed opened room innerRead notClosed =>
    exact .unclosed opened (Nat.lt_of_lt_of_le room more) (innerRead.relax more) notClosed

end Phrase

namespace Formula

theorem relaxes_ofTokens {maxDepth relaxed : Nat} (more : maxDepth ≤ relaxed)
    (tokens : List Token) : Relaxes (ofTokens maxDepth tokens) (ofTokens relaxed tokens) := by
  cases read : ofTokens maxDepth tokens with
  | ok formula =>
    obtain ⟨after, reads, ended⟩ := ofTokens_eq_ok_iff.1 read
    rw [ofTokens_eq_ok_iff.2 ⟨after, reads.relax more, ended⟩]
    exact .same _
  | error error =>
    by_cases limit : error.kind = .limitExceeded
    · exact .exceeded limit _
    · have again : ofTokens relaxed tokens = .error error := by
        rw [ofTokens_eq_error_iff] at read ⊢
        rcases read with ⟨after, fails⟩ | ⟨formula, after, reads, remaining, rfl⟩
        · exact .inl ⟨after, fails.relax more limit⟩
        · exact .inr ⟨formula, after, reads.relax more, remaining, rfl⟩
      rw [again]
      exact .same _

/-! ### All stages together -/

variable {limits relaxed : Limits}

theorem relaxes_checkSource (more : limits.maxCharacters ≤ relaxed.maxCharacters)
    (text : List Char) : Relaxes (checkSource limits text) (checkSource relaxed text) :=
  .check more rfl (.same _)

theorem relaxes_checkDepth (more : limits.maxDepth ≤ relaxed.maxDepth) (text : List Char)
    (formula : Formula) : Relaxes (checkDepth limits text formula) (checkDepth relaxed text formula) :=
  .check more rfl (.same _)

theorem relaxes_ofChars (characters : limits.maxCharacters ≤ relaxed.maxCharacters)
    (tokens : limits.maxTokens ≤ relaxed.maxTokens) (depth : limits.maxDepth ≤ relaxed.maxDepth)
    (text : List Char) : Relaxes (ofChars limits text) (ofChars relaxed text) := by
  refine (relaxes_checkSource characters text).bind fun _ => ?_
  refine (Token.relaxes_scan tokens text).bind fun scanned => ?_
  refine (Token.relaxes_matchParentheses depth [] scanned).bind fun _ => ?_
  refine (relaxes_ofTokens depth scanned).bind fun formula => ?_
  exact (relaxes_checkDepth depth text formula).bind fun _ => .same _

/-- **Relaxing limits changes no answer but that a limit is exceeded.** A text that some limits accept
yields the same formula under relaxed limits, and one that they reject for another reason is rejected
for the same reason, with the same message and in the same place. -/
theorem parse_of_relaxed (characters : limits.maxCharacters ≤ relaxed.maxCharacters)
    (tokens : limits.maxTokens ≤ relaxed.maxTokens) (depth : limits.maxDepth ≤ relaxed.maxDepth)
    (source : String) :
    (∃ error, parse limits source = .error error ∧ error.kind = .limitExceeded) ∨
      parse relaxed source = parse limits source := by
  have relaxes := relaxes_ofChars characters tokens depth source.toList
  unfold parse
  generalize ofChars limits source.toList = answer at relaxes ⊢
  generalize ofChars relaxed source.toList = relaxedAnswer at relaxes ⊢
  cases relaxes with
  | same => exact .inr rfl
  | exceeded limit => exact .inl ⟨_, rfl, limit⟩

/-- Limits that a text just keeps, although it is no formula: the choice lacks its other side. -/
theorem parse_of_relaxed_unfinished :
    (12 ≤ 4096 ∧ 8 ≤ 1024 ∧ 3 ≤ 128) ∧
      parse ⟨12, 8, 3⟩ "(!a) * b ? c" = .error ⟨.unexpected .endOfInput .colon, ⟨12, 12⟩⟩ ∧
      parse ⟨4096, 1024, 128⟩ "(!a) * b ? c" = parse ⟨12, 8, 3⟩ "(!a) * b ? c" := by
  have unfinished : parse ⟨12, 8, 3⟩ "(!a) * b ? c" =
      .error ⟨.unexpected .endOfInput .colon, ⟨12, 12⟩⟩ := by
    decide +kernel
  have relaxed := @parse_of_relaxed ⟨12, 8, 3⟩ ⟨4096, 1024, 128⟩ (by decide) (by decide) (by decide)
    "(!a) * b ? c"
  refine ⟨by decide, unfinished, relaxed.resolve_left ?_⟩
  rintro ⟨error, failed, limit⟩
  obtain rfl := Except.error.inj (unfinished.symm.trans failed)
  cases limit

end Formula

end FieldFormula
