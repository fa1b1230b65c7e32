import FieldFormula.Evaluation
import FieldFormula.Proofs.Operators
import FieldFormula.Proofs.Traversal

/-!
# The outcome of an evaluation

`Formula.outcome` evaluates a formula without effects: the nesting is an argument, and nothing is
counted or logged. `startingAt_eval` shows that the evaluation does nothing beyond that: it ends
with the outcome, its count is where it was before, and it has logged just the refusal that ended
it, if one did.

`Formula.FaultAt` lists what an evaluation can fail by at a node, and `faultWithin_of_outcome` shows
that every error arises at a node of the formula in one of these ways. `Formula.FailsBy` keeps of it
what does not depend on the values of operands, and `outcome_error` is the result in this form.
-/

namespace FieldFormula

/-! ### Errors of operators -/

/-- An error that an operator reports about the values of its operands. -/
inductive EvaluationError.OfOperator : EvaluationError → Prop
  | notNumeric (value : Value) : OfOperator (.notNumeric value)
  | divisionByZero (op : BinaryOp) : OfOperator (.divisionByZero op)
  | nonFiniteResult (op : BinaryOp) : OfOperator (.nonFiniteResult op)

theorem PrefixOp.Fault.ofOperator {operand : Value} {error : EvaluationError}
    (fault : Fault operand error) : error.OfOperator := by
  cases fault
  exact .notNumeric operand

theorem BinaryOp.Fault.ofOperator {op : BinaryOp} {left right : Value} {error : EvaluationError}
    (fault : op.Fault left right error) : error.OfOperator := by
  cases fault with
  | unreadLeft => exact .notNumeric left
  | unreadRight => exact .notNumeric right
  | divisionByZero => exact .divisionByZero op
  | nonFiniteResult => exact .nonFiniteResult op

/-- If the result is an error, it is one about the values of operands. -/
def FailsOnValuesOnly {α : Type} (result : Except EvaluationError α) : Prop :=
  ∀ error, result = .error error → error.OfOperator

namespace FailsOnValuesOnly

theorem prefixOp (op : PrefixOp) (operand : Value) : FailsOnValuesOnly (op.apply operand) :=
  fun _ failed => ((endsIn_prefixOp op operand).of_error failed).ofOperator

theorem binaryOp (op : BinaryOp) (left right : Value) :
    FailsOnValuesOnly (op.apply left right) :=
  fun _ failed => ((endsIn_binaryOp op left right).of_error failed).ofOperator

end FailsOnValuesOnly

namespace Formula

variable {σ : Type} [Scope σ]

/-! ### The outcome -/

/-- The outcome at a node that yields `below` once it may be looked at. -/
def outcomeOfNode (maxDepth nesting : Nat) (node : Formula)
    (below : Except EvaluationError Value) : Except EvaluationError Value :=
  if maxDepth ≤ nesting then
    .error (.depthExceeded maxDepth)
  else
    match node.refusal? with
    | some refusal => .error (.disallowed refusal)
    | none => below

/-- How the evaluation of a formula ends that starts at the given nesting. -/
def outcome (maxDepth : Nat) (scope : σ) :
    Formula → (nesting : Nat) → Except EvaluationError Value
  | .literal value, nesting =>
    outcomeOfNode maxDepth nesting (.literal value) (.ok value.toValue)
  | .identifier name, nesting =>
    outcomeOfNode maxDepth nesting (.identifier name) (valueOfField scope name)
  | .unary op operand, nesting =>
    outcomeOfNode maxDepth nesting (.unary op operand) do
      let value ← operand.outcome maxDepth scope (nesting + 1)
      op.apply value
  | .binary op left right, nesting =>
    outcomeOfNode maxDepth nesting (.binary op left right) do
      let leftValue ← left.outcome maxDepth scope (nesting + 1)
      let rightValue ← right.outcome maxDepth scope (nesting + 1)
      op.apply leftValue rightValue
  | .logical op left right, nesting =>
    outcomeOfNode maxDepth nesting (.logical op left right) do
      let leftValue ← left.outcome maxDepth scope (nesting + 1)
      if op.isDecidedBy leftValue then
        .ok leftValue
      else
        right.outcome maxDepth scope (nesting + 1)
  | .conditional test consequent alternate, nesting =>
    outcomeOfNode maxDepth nesting (.conditional test consequent alternate) do
      let testValue ← test.outcome maxDepth scope (nesting + 1)
      if testValue.isTruthy then
        consequent.outcome maxDepth scope (nesting + 1)
      else
        alternate.outcome maxDepth scope (nesting + 1)

/-- Below the limit an admitted node yields what stands below it. -/
theorem outcomeOfNode_of_admitted {maxDepth nesting : Nat} {node : Formula}
    {below : Except EvaluationError Value}
    (room : nesting < maxDepth) (admitted : node.refusal? = none) :
    outcomeOfNode maxDepth nesting node below = below := by
  rw [outcomeOfNode, if_neg (Nat.not_le_of_lt room), admitted]

/-- An operator is never refused, so whether it yields what stands below it depends on the limit
alone. -/
theorem outcomeOfNode_of_children {maxDepth nesting : Nat} {node : Formula}
    {below : Except EvaluationError Value} (operator : node.children ≠ []) :
    outcomeOfNode maxDepth nesting node below =
      if maxDepth ≤ nesting then .error (.depthExceeded maxDepth) else below := by
  rw [outcomeOfNode, refusal?_of_children operator]

theorem outcome_of_refused {maxDepth nesting : Nat} {scope : σ} {formula : Formula}
    {refusal : Refusal} (room : nesting < maxDepth) (refused : formula.refusal? = some refusal) :
    formula.outcome maxDepth scope nesting = .error (.disallowed refusal) := by
  cases formula <;> simp [outcome, outcomeOfNode, Nat.not_le_of_lt room, refused]

def refusalEntries : Except EvaluationError Value → List LogEntry
  | .error (.disallowed refusal) => [.refused refusal]
  | _ => []

/-- The evaluation ends with the outcome, leaves the count as it was and logs no more than a
refusal. -/
def EndsWith (evaluation : Evaluation Value) (nesting : Nat)
    (outcome : Except EvaluationError Value) : Prop :=
  evaluation.startingAt nesting = ⟨(outcome, nesting), refusalEntries outcome⟩

theorem endsWith_pure (value : Value) (nesting : Nat) :
    EndsWith (pure value) nesting (.ok value) :=
  rfl

theorem endsWith_ofExcept {result : Except EvaluationError Value}
    (fault : FailsOnValuesOnly result) (nesting : Nat) :
    EndsWith (.ofExcept result) nesting result := by
  rw [EndsWith, Evaluation.startingAt_ofExcept]
  cases result with
  | ok value => rfl
  | error error =>
    -- An error of an operator is no refusal, so there is nothing to log.
    cases fault error rfl <;> rfl

theorem endsWith_valueOfField (scope : σ) (name : String) (nesting : Nat) :
    EndsWith (.ofExcept (valueOfField scope name)) nesting (valueOfField scope name) := by
  rw [EndsWith, Evaluation.startingAt_ofExcept]
  unfold valueOfField
  split <;> rfl

theorem endsWith_bind {first : Evaluation Value} {next : Value → Evaluation Value}
    {nesting : Nat} {outcome : Except EvaluationError Value}
    {nextOutcome : Value → Except EvaluationError Value} (here : EndsWith first nesting outcome)
    (later : ∀ value, EndsWith (next value) nesting (nextOutcome value)) :
    EndsWith (first >>= next) nesting (outcome >>= nextOutcome) := by
  rw [EndsWith, Evaluation.startingAt_bind, here]
  cases outcome with
  | ok value =>
    have ended : (next value).startingAt nesting =
        ⟨(nextOutcome value, nesting), refusalEntries (nextOutcome value)⟩ := later value
    simp [ended, refusalEntries, bind, Except.bind]
  | error error => rfl

/-- A node is evaluated one level deeper, and only if it may be. -/
theorem endsWith_ofNode {inner : Evaluation Value} {maxDepth nesting : Nat} {node : Formula}
    {below : Except EvaluationError Value} (ends : EndsWith inner (nesting + 1) below) :
    EndsWith (.ofNode maxDepth node inner) nesting
      (outcomeOfNode maxDepth nesting node below) := by
  rw [EndsWith, Evaluation.ofNode, Evaluation.startingAt_nested]
  by_cases tooDeep : maxDepth ≤ nesting
  · simp [tooDeep, outcomeOfNode, refusalEntries]
  · -- The count is raised for the node and lowered again behind it.
    simp only [tooDeep, if_false, Evaluation.startingAt_bind, outcomeOfNode,
      Evaluation.startingAt_requireAdmissible]
    cases node.refusal? with
    | some refusal => rfl
    | none =>
      have ended : inner.startingAt (nesting + 1) =
          ⟨(below, nesting + 1), refusalEntries below⟩ := ends
      simp [ended]

/-- **Evaluation computes the outcome** and has no other effect than to log a refusal. -/
theorem startingAt_eval (maxDepth : Nat) (scope : σ) (formula : Formula) (nesting : Nat) :
    EndsWith (formula.eval maxDepth scope) nesting (formula.outcome maxDepth scope nesting) := by
  induction formula generalizing nesting with
  | literal value => exact endsWith_ofNode (endsWith_pure _ _)
  | identifier name => exact endsWith_ofNode (endsWith_valueOfField scope name _)
  | unary op operand ih =>
    exact endsWith_ofNode
      (endsWith_bind (ih _) fun value => endsWith_ofExcept (.prefixOp op value) _)
  | binary op left right ihl ihr =>
    exact endsWith_ofNode (endsWith_bind (ihl _) fun leftValue =>
      endsWith_bind (ihr _) fun rightValue => endsWith_ofExcept (.binaryOp op leftValue rightValue) _)
  | logical op left right ihl ihr =>
    refine endsWith_ofNode (endsWith_bind (ihl _) fun leftValue => ?_)
    split
    · exact endsWith_pure _ _
    · exact ihr _
  | conditional test consequent alternate iht ihc iha =>
    refine endsWith_ofNode (endsWith_bind (iht _) fun testValue => ?_)
    split
    · exact ihc _
    · exact iha _

theorem startingAt_eval_eq (maxDepth : Nat) (scope : σ) (formula : Formula) (nesting : Nat) :
    (formula.eval maxDepth scope).startingAt nesting =
      ⟨(formula.outcome maxDepth scope nesting, nesting),
        refusalEntries (formula.outcome maxDepth scope nesting)⟩ :=
  startingAt_eval maxDepth scope formula nesting

theorem evaluate_eq (limits : Limits) (formula : Formula) (scope : σ) :
    formula.evaluate limits scope =
      let outcome := formula.outcome limits.maxDepth scope 0
      ⟨outcome, .evaluating formula.kind :: refusalEntries outcome ++ (entryOf? outcome).toList⟩ := by
  simp [evaluate, bind, Logged.bind, pure, Logged.pure, Logged.log, Logged.logAll,
    startingAt_eval_eq]

/-- Formulas that are evaluated one after another do not affect each other: each finds the count as
the first one did. -/
theorem evalAll_eq (maxDepth : Nat) (scope : σ) (nesting : Nat) (formulas : List Formula) :
    evalAll maxDepth scope nesting formulas =
      ⟨(formulas.map fun formula => formula.outcome maxDepth scope nesting, nesting),
        formulas.flatMap fun formula => refusalEntries (formula.outcome maxDepth scope nesting)⟩ := by
  induction formulas with
  | nil => rfl
  | cons formula rest ih =>
    simp [evalAll, bind, Logged.bind, pure, Logged.pure, startingAt_eval_eq, ih]

theorem value_evaluate (limits : Limits) (formula : Formula) (scope : σ) :
    (formula.evaluate limits scope).value = formula.outcome limits.maxDepth scope 0 := by
  rw [evaluate_eq]

/-- The value of a source text is that of the formula that it spells. -/
theorem value_evaluate_source {limits : Limits} {source : String} {formula : Formula}
    (read : parse limits source = .ok formula) (scope : σ) :
    (FieldFormula.evaluate limits source scope).value =
      formula.outcome limits.maxDepth scope 0 := by
  rw [← value_evaluate limits formula scope]
  simp [FieldFormula.evaluate, bind, Logged.bind, value_parseLogged, read]

/-! ### What an evaluation fails by -/

/-- What the evaluation of a formula that starts at the given nesting can fail by. -/
inductive FailsBy (maxDepth : Nat) (scope : σ) (formula : Formula) (nesting : Nat) :
    EvaluationError → Prop
  -- An operator has no value for the values of its operands.
  | operator {error : EvaluationError} (fault : error.OfOperator) :
    FailsBy maxDepth scope formula nesting error
  -- A name in the formula is not the name of a field.
  | unknown {name : String} (occurs : identifier name ∈ formula.walk)
    (missing : Scope.lookup scope name = none) :
    FailsBy maxDepth scope formula nesting (.unknownIdentifier name)
  -- A node of the formula is not admitted.
  | refused {node : Formula} {refusal : Refusal} (occurs : node ∈ formula.walk)
    (refuses : node.refusal? = some refusal) :
    FailsBy maxDepth scope formula nesting (.disallowed refusal)
  -- The formula is deeper than the levels that are left.
  | tooDeep (deeper : maxDepth < nesting + formula.depth) :
    FailsBy maxDepth scope formula nesting (.depthExceeded maxDepth)

/-- The node itself, come to at the given nesting, is what an evaluation fails by. -/
inductive FaultAt (maxDepth : Nat) (scope : σ) (nesting : Nat) : Formula → EvaluationError → Prop
  | tooDeep {node : Formula} (full : maxDepth ≤ nesting) :
    FaultAt maxDepth scope nesting node (.depthExceeded maxDepth)
  | refused {node : Formula} {refusal : Refusal} (refuses : node.refusal? = some refusal) :
    FaultAt maxDepth scope nesting node (.disallowed refusal)
  | unknown {name : String} (missing : Scope.lookup scope name = none) :
    FaultAt maxDepth scope nesting (.identifier name) (.unknownIdentifier name)
  -- The operands have values, but the operator has none for them.
  | unary {op : PrefixOp} {operand : Formula} {value : Value} {error : EvaluationError}
    (has : operand.outcome maxDepth scope (nesting + 1) = .ok value)
    (fault : PrefixOp.Fault value error) :
    FaultAt maxDepth scope nesting (.unary op operand) error
  | binary {op : BinaryOp} {left right : Formula} {leftValue rightValue : Value}
    {error : EvaluationError}
    (hasLeft : left.outcome maxDepth scope (nesting + 1) = .ok leftValue)
    (hasRight : right.outcome maxDepth scope (nesting + 1) = .ok rightValue)
    (fault : op.Fault leftValue rightValue error) :
    FaultAt maxDepth scope nesting (.binary op left right) error

/-- Some node of the formula, no deeper than the formula reaches, is what an evaluation fails by. -/
def FaultWithin (maxDepth : Nat) (scope : σ) (nesting : Nat) (formula : Formula)
    (error : EvaluationError) : Prop :=
  ∃ node ∈ formula.walk, ∃ level < nesting + formula.depth,
    FaultAt maxDepth scope level node error

theorem FaultAt.within {maxDepth nesting : Nat} {scope : σ} {formula : Formula}
    {error : EvaluationError} (fault : FaultAt maxDepth scope nesting formula error) :
    FaultWithin maxDepth scope nesting formula error := by
  have levels := one_le_depth formula
  exact ⟨formula, mem_walk_self formula, nesting, by omega, fault⟩

theorem FaultWithin.of_child {maxDepth nesting : Nat} {scope : σ} {child formula : Formula}
    {error : EvaluationError} (fault : FaultWithin maxDepth scope (nesting + 1) child error)
    (member : child ∈ formula.children) : FaultWithin maxDepth scope nesting formula error := by
  obtain ⟨node, occurs, level, reached, fault⟩ := fault
  -- The child has one level less than the formula and starts one level further down.
  have below := depth_lt_of_mem_children member
  exact ⟨node, walk_subset_of_mem_children member occurs, level, by omega, fault⟩

theorem faultWithin_of_outcomeOfNode {maxDepth nesting : Nat} {scope : σ} {node : Formula}
    {below : Except EvaluationError Value} {error : EvaluationError}
    (passes : below = .error error → FaultWithin maxDepth scope nesting node error)
    (failed : outcomeOfNode maxDepth nesting node below = .error error) :
    FaultWithin maxDepth scope nesting node error := by
  unfold outcomeOfNode at failed
  split at failed
  next full =>
    cases failed
    exact (FaultAt.tooDeep full).within
  · split at failed
    next refusal refuses =>
      cases failed
      exact (FaultAt.refused refuses).within
    · exact passes failed

private theorem bind_error {α β ε : Type} {first : Except ε α} {next : α → Except ε β}
    {error : ε} (failed : first >>= next = .error error) :
    first = .error error ∨ ∃ value, first = .ok value ∧ next value = .error error := by
  cases first with
  | ok value => exact .inr ⟨value, rfl, failed⟩
  | error fault =>
    cases failed
    exact .inl rfl

/-- **Every error arises at a node of the formula**: the first operand that fails decides, and an
operand that is not evaluated never does. -/
theorem faultWithin_of_outcome {maxDepth nesting : Nat} {scope : σ} {formula : Formula}
    {error : EvaluationError} (failed : formula.outcome maxDepth scope nesting = .error error) :
    FaultWithin maxDepth scope nesting formula error := by
  induction formula generalizing nesting with
  | literal value =>
    exact faultWithin_of_outcomeOfNode (fun impossible => by cases impossible) failed
  | identifier name =>
    refine faultWithin_of_outcomeOfNode (fun unknown => ?_) failed
    unfold valueOfField at unknown
    split at unknown
    · cases unknown
    next missing =>
      cases unknown
      exact (FaultAt.unknown missing).within
  | unary op operand ih =>
    refine faultWithin_of_outcomeOfNode (fun below => ?_) failed
    rcases bind_error below with inner | ⟨value, has, applied⟩
    · exact (ih inner).of_child (by simp [children])
    · exact (FaultAt.unary has ((endsIn_prefixOp op value).of_error applied)).within
  | binary op left right ihl ihr =>
    refine faultWithin_of_outcomeOfNode (fun below => ?_) failed
    rcases bind_error below with inner | ⟨leftValue, hasLeft, later⟩
    · exact (ihl inner).of_child (by simp [children])
    · rcases bind_error later with inner | ⟨rightValue, hasRight, applied⟩
      · exact (ihr inner).of_child (by simp [children])
      · have fault := (endsIn_binaryOp op leftValue rightValue).of_error applied
        exact (FaultAt.binary hasLeft hasRight fault).within
  | logical op left right ihl ihr =>
    refine faultWithin_of_outcomeOfNode (fun below => ?_) failed
    rcases bind_error below with inner | ⟨leftValue, -, later⟩
    · exact (ihl inner).of_child (by simp [children])
    · split at later
      · -- The left operand decides, and it has a value.
        cases later
      · exact (ihr later).of_child (by simp [children])
  | conditional test consequent alternate iht ihc iha =>
    refine faultWithin_of_outcomeOfNode (fun below => ?_) failed
    rcases bind_error below with inner | ⟨testValue, -, later⟩
    · exact (iht inner).of_child (by simp [children])
    · split at later
      · exact (ihc later).of_child (by simp [children])
      · exact (iha later).of_child (by simp [children])

/-- **Every error has its cause in the formula.** -/
theorem outcome_error (maxDepth : Nat) (scope : σ) (formula : Formula) (nesting : Nat)
    {error : EvaluationError} (failed : formula.outcome maxDepth scope nesting = .error error) :
    FailsBy maxDepth scope formula nesting error := by
  obtain ⟨node, occurs, level, reached, fault⟩ := faultWithin_of_outcome failed
  cases fault with
  | tooDeep full => exact .tooDeep (by omega)
  | refused refuses => exact .refused occurs refuses
  | unknown missing => exact .unknown occurs missing
  | unary _ fault => exact .operator fault.ofOperator
  | binary _ _ fault => exact .operator fault.ofOperator

end Formula

end FieldFormula
