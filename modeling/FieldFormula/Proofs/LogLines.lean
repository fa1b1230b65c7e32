import FieldFormula.Proofs.SafeFormulas

/-!
# The log of an evaluation

An evaluation writes to the log from deep inside the formula, at the node that is refused, and again
when it has ended. `evaluationLines` says what should stand there, and looks at nothing but the kind
of the formula and the result. So the log of an evaluation tells no more and no less than how it has
ended: it warns once if a node was refused, and not at all otherwise.

A formula that was read from text has no node that is refused, so the evaluation of a text never
warns.

## Main result

`log_tells_outcome`: the lines of the log, for formulas and for texts.
-/

namespace FieldFormula

/-! ### What the log should say -/

/-- The line that warns of a refused node, if that is how the evaluation ended. -/
def warningLines : Except EvaluationError Value → List String
  | .error (.disallowed refusal) => ["WARN refusing to evaluate formula node: " ++ refusal.message]
  | _ => []

/-- The line about the error that ended the evaluation, if one did. -/
def failureLines : Except EvaluationError Value → List String
  | .error error => ["DEBUG formula evaluation failed: " ++ error.message]
  | .ok _ => []

/-- The lines about the evaluation of a formula of that kind which ended with the result. -/
def evaluationLines (kind : Formula.Kind) (result : Except EvaluationError Value) : List String :=
  ["TRACE evaluating formula rooted at a " ++ kind.name ++ " node"] ++ warningLines result ++
    failureLines result

/-- The lines about the reading of a text: one, unless the text is too long or blank. -/
def readingLines (limits : Limits) (source : String) : List String :=
  if source.length ≤ limits.maxCharacters ∧ Text.trim source.toList ≠ [] then
    ["TRACE parsing formula " ++ Text.quoteText source]
  else
    []

namespace Formula

variable {σ : Type} [Scope σ]

/-! ### Formulas -/

theorem lines_refusalEntries (result : Except EvaluationError Value) :
    (refusalEntries result).map LogEntry.line = warningLines result := by
  cases result with
  | ok value => rfl
  | error error => cases error <;> rfl

theorem lines_entryOf? (result : Except EvaluationError Value) :
    (entryOf? result).toList.map LogEntry.line = failureLines result := by
  cases result <;> rfl

theorem lines_evaluate (limits : Limits) (formula : Formula) (scope : σ) :
    (formula.evaluate limits scope).entries.map LogEntry.line =
      evaluationLines formula.kind (formula.evaluate limits scope).value := by
  simp only [evaluate_eq, List.map_append, List.map_cons, lines_refusalEntries, lines_entryOf?]
  rfl

/-! ### Texts -/

theorem checkSource_eq_ok_iff {limits : Limits} {source : String} :
    checkSource limits source.toList = .ok () ↔
      source.length ≤ limits.maxCharacters ∧ Text.trim source.toList ≠ [] := by
  rw [Ne, Text.trim_eq_nil_iff, ← String.length_toList, checkSource]
  split
  next long => simp [Nat.not_le_of_lt long]
  next short =>
    have within := Nat.le_of_not_lt short
    split
    next blank => simp [blank]
    next shown => simp [shown, within]

theorem lines_parseLogged (limits : Limits) (source : String) :
    (parseLogged limits source).entries.map LogEntry.line = readingLines limits source := by
  unfold parseLogged readingLines
  cases checked : checkSource limits source.toList with
  | ok =>
    rw [if_pos (checkSource_eq_ok_iff.1 checked)]
    rfl
  | error error =>
    have fails : ¬ checkSource limits source.toList = .ok () := by simp [checked]
    rw [if_neg (fun passes => fails (checkSource_eq_ok_iff.2 passes))]
    rfl

/-- The log of a text goes on, behind its reading, only if it was read. -/
theorem entries_evaluate_source (limits : Limits) (source : String) (scope : σ) :
    (FieldFormula.evaluate limits source scope).entries =
      (parseLogged limits source).entries ++
        match parse limits source with
        | .ok formula => (formula.evaluate limits scope).entries
        | .error _ => [] := by
  simp only [FieldFormula.evaluate, bind, Logged.bind, value_parseLogged]
  cases parse limits source <;> rfl

/-- **The evaluation of an accepted text refuses no node.** -/
theorem AcceptedAs.outcome_ne_disallowed {limits : Limits} {text : List Char} {formula : Formula}
    {tokens : List Token} (accepted : AcceptedAs limits text formula tokens) (scope : σ)
    (refusal : Refusal) :
    formula.outcome limits.maxDepth scope 0 ≠ .error (.disallowed refusal) := by
  intro failed
  cases outcome_error limits.maxDepth scope formula 0 failed with
  | operator fault => cases fault
  | refused occurs refuses =>
    have admitted := (accepted.nodeIsSafe _ occurs).admitted
    rw [refuses] at admitted
    cases admitted

theorem level_of_mem_parseLogged {limits : Limits} {source : String} {entry : LogEntry}
    (member : entry ∈ (parseLogged limits source).entries) : entry.level = .trace := by
  unfold parseLogged at member
  split at member
  · rw [List.mem_singleton.1 member]
    rfl
  · cases member

theorem warn_notMem_evaluate {limits : Limits} {formula : Formula} {scope : σ}
    (admitted : ∀ refusal, formula.outcome limits.maxDepth scope 0 ≠ .error (.disallowed refusal)) :
    .warn ∉ (formula.evaluate limits scope).entries.map LogEntry.level := by
  rw [evaluate_eq]
  cases ended : formula.outcome limits.maxDepth scope 0 with
  | ok value => simp [refusalEntries, entryOf?, LogEntry.level]
  | error error =>
    have other : refusalEntries (.error error) = [] := by
      unfold refusalEntries
      split
      next refusal same =>
        cases same
        exact absurd ended (admitted refusal)
      · rfl
    simp [other, entryOf?, LogEntry.level]

/-- **A text is evaluated without a warning.** -/
theorem warn_notMem_evaluate_source (limits : Limits) (source : String) (scope : σ) :
    .warn ∉ (FieldFormula.evaluate limits source scope).entries.map LogEntry.level := by
  rw [entries_evaluate_source, List.map_append, List.mem_append, not_or]
  constructor
  · intro warned
    obtain ⟨entry, member, warns⟩ := List.mem_map.1 warned
    rw [level_of_mem_parseLogged member] at warns
    cases warns
  · cases read : parse limits source with
    | ok formula =>
      obtain ⟨tokens, accepted⟩ := ofChars_eq_ok_iff.1 read
      exact warn_notMem_evaluate (accepted.outcome_ne_disallowed scope)
    | error error => exact List.not_mem_nil

end Formula

/-- **The log tells how an evaluation has ended.** For every formula, one put together by hand
included, it has a line with the kind of the formula, then a warning with the text of the refusal
exactly if that is the result, and then a line with the text of the error exactly if the result is
one. For every text it has first a line about the reading, unless the text is too long or blank, and
goes on in the same way if the text was read; there is never a warning. -/
theorem log_tells_outcome {σ : Type} [Scope σ] (limits : Limits) (scope : σ) :
    (∀ formula : Formula,
      (formula.evaluate limits scope).entries.map LogEntry.line =
        evaluationLines formula.kind (formula.evaluate limits scope).value) ∧
    ∀ source : String,
      (evaluate limits source scope).entries.map LogEntry.line =
        readingLines limits source ++
          (match Formula.parse limits source with
          | .ok formula => evaluationLines formula.kind (evaluate limits source scope).value
          | .error _ => []) ∧
      .warn ∉ (evaluate limits source scope).entries.map LogEntry.level := by
  refine ⟨fun formula => Formula.lines_evaluate limits formula scope, fun source => ⟨?_, ?_⟩⟩
  · rw [Formula.entries_evaluate_source, List.map_append, Formula.lines_parseLogged]
    congr 1
    cases read : Formula.parse limits source with
    | ok formula =>
      dsimp only
      rw [Formula.lines_evaluate, Formula.value_evaluate, Formula.value_evaluate_source read]
    | error error => rfl
  · exact Formula.warn_notMem_evaluate_source limits source scope

/-- The refused name stands behind an operand that does not decide. -/
example :
    (Formula.evaluate {} (.logical .or (.literal (.text "")) (.unary .not (.identifier "two words")))
      (NoFields.mk)).entries.map LogEntry.line =
      ["TRACE evaluating formula rooted at a Logical node",
        "WARN refusing to evaluate formula node: Identifier node \"two words\" is not a valid identifier",
        "DEBUG formula evaluation failed: disallowed operation: Identifier node \"two words\" is not a " ++
          "valid identifier"] := by
  decide +kernel

end FieldFormula
