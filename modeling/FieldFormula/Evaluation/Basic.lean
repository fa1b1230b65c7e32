import FieldFormula.Log

/-!
# Evaluations under way

An `Evaluation` may fail, counts how deeply it is nested, and logs. The count survives a failure:
`Evaluation.nested` raises it for a nested part and lowers it again whatever becomes of the part.

`Evaluation.startingAt` runs an evaluation when the count has reached a given number. Each of the
operations has a lemma that says how it ends.
-/

namespace FieldFormula

/-- An evaluation under way: it may fail, it counts its nesting, and it logs. -/
abbrev Evaluation := ExceptT EvaluationError (StateT Nat Logged)

namespace Evaluation

variable {α β : Type}

/-- How the evaluation ends and what the count is then, if the count is `nesting` before. -/
def startingAt (evaluation : Evaluation α) (nesting : Nat) :
    Logged (Except EvaluationError α × Nat) :=
  evaluation.run.run nesting

def ofRun (run : Nat → Logged (Except EvaluationError α × Nat)) : Evaluation α :=
  ExceptT.mk run

def ofExcept (result : Except EvaluationError α) : Evaluation α :=
  ofRun fun nesting => pure (result, nesting)

def log (entry : LogEntry) : Evaluation Unit :=
  ofRun fun nesting => do
    Logged.log entry
    return (.ok (), nesting)

/-- Runs `inner` one level deeper, unless that is too deep. -/
def nested (maxDepth : Nat) (inner : Evaluation α) : Evaluation α :=
  ofRun fun nesting =>
    if maxDepth ≤ nesting then
      return (.error (.depthExceeded maxDepth), nesting)
    else do
      let (outcome, reached) ← inner.startingAt (nesting + 1)
      return (outcome, reached - 1)

def requireAdmissible (node : Formula) : Evaluation Unit :=
  match node.refusal? with
  | some refusal => do
    log (.refused refusal)
    throw (.disallowed refusal)
  | none => return

/-- Evaluates a node by `inner`: one level deeper, and only if the node is admitted. -/
def ofNode (maxDepth : Nat) (node : Formula) (inner : Evaluation α) : Evaluation α :=
  nested maxDepth do
    requireAdmissible node
    inner

/-! ### How the operations end -/

@[simp] theorem startingAt_ofRun (run : Nat → Logged (Except EvaluationError α × Nat))
    (nesting : Nat) : startingAt (ofRun run) nesting = run nesting :=
  rfl

@[simp] theorem startingAt_pure (value : α) (nesting : Nat) :
    startingAt (pure value) nesting = ⟨(.ok value, nesting), []⟩ :=
  rfl

@[simp] theorem startingAt_throw (error : EvaluationError) (nesting : Nat) :
    startingAt (throw error : Evaluation α) nesting = ⟨(.error error, nesting), []⟩ :=
  rfl

@[simp] theorem startingAt_bind (first : Evaluation α) (second : α → Evaluation β)
    (nesting : Nat) :
    startingAt (first >>= second) nesting =
      match startingAt first nesting with
      | ⟨(.ok value, reached), entries⟩ =>
        let rest := startingAt (second value) reached
        ⟨rest.value, entries ++ rest.entries⟩
      | ⟨(.error error, reached), entries⟩ => ⟨(.error error, reached), entries⟩ := by
  have unfolded : startingAt (first >>= second) nesting =
      startingAt first nesting >>= fun ended =>
        match ended with
        | (.ok value, reached) => startingAt (second value) reached
        | (.error error, reached) => pure (.error error, reached) := by
    simp only [startingAt, ExceptT.run_bind, StateT.run_bind]
    congr 1
    funext ended
    rcases ended with ⟨_ | _, _⟩ <;> rfl
  rw [unfolded]
  rcases startingAt first nesting with ⟨⟨_ | _, _⟩, _⟩
  · simp [bind, Logged.bind, pure, Logged.pure]
  · rfl

@[simp] theorem startingAt_ofExcept (result : Except EvaluationError α) (nesting : Nat) :
    startingAt (ofExcept result) nesting = ⟨(result, nesting), []⟩ :=
  rfl

@[simp] theorem startingAt_log (entry : LogEntry) (nesting : Nat) :
    startingAt (log entry) nesting = ⟨(.ok (), nesting), [entry]⟩ :=
  rfl

/-- A nested part runs with the count one higher, and afterwards the count is lowered. -/
theorem startingAt_nested (maxDepth : Nat) (inner : Evaluation α) (nesting : Nat) :
    startingAt (nested maxDepth inner) nesting =
      if maxDepth ≤ nesting then
        ⟨(.error (.depthExceeded maxDepth), nesting), []⟩
      else
        let ended := startingAt inner (nesting + 1)
        ⟨(ended.value.1, ended.value.2 - 1), ended.entries⟩ := by
  by_cases tooDeep : maxDepth ≤ nesting
  · simp [nested, tooDeep, pure, Logged.pure]
  · simp [nested, tooDeep, pure, Logged.pure, bind, Logged.bind]

theorem startingAt_requireAdmissible (node : Formula) (nesting : Nat) :
    startingAt (requireAdmissible node) nesting =
      match node.refusal? with
      | some refusal => ⟨(.error (.disallowed refusal), nesting), [.refused refusal]⟩
      | none => ⟨(.ok (), nesting), []⟩ := by
  cases refused : node.refusal? <;> simp [requireAdmissible, refused]

end Evaluation

end FieldFormula
