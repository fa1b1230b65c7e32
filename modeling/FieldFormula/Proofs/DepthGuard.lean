import FieldFormula.Proofs.Outcome

/-!
# The depth limit is transparent

What a formula means in a scope has nothing to do with a limit: `Formula.meaning` evaluates it however
deep it is. An evaluation under a limit goes the same way until it comes to a node that is too deep,
and then it ends; so it ends with the meaning, or for the limit. It may end with the meaning of a
formula that is deeper than the limit, because only the nodes that it comes to count.

The count that the limit is about is lowered behind every node again, also behind one that fails. So
nothing is left of an evaluation for the next one that goes on with its count.

## Main results

`freshResult_transparent`: how a fresh evaluation under a limit relates to the meaning and to one
under a higher limit.

`evalAll_leavesNoTrace`: evaluations with one count are like fresh ones.
-/

namespace FieldFormula

/-! ### Results that a limit may cut off -/

/-- The result is the given one, unless the depth limit ended the evaluation before. -/
inductive CutOff (maxDepth : Nat) :
    Except EvaluationError Value → Except EvaluationError Value → Prop
  | same (result : Except EvaluationError Value) : CutOff maxDepth result result
  | tooDeep (result : Except EvaluationError Value) :
    CutOff maxDepth (.error (.depthExceeded maxDepth)) result

namespace CutOff

variable {maxDepth : Nat} {result whole : Except EvaluationError Value}

theorem bind {next wholeNext : Value → Except EvaluationError Value}
    (first : CutOff maxDepth result whole)
    (later : ∀ value, CutOff maxDepth (next value) (wholeNext value)) :
    CutOff maxDepth (result >>= next) (whole >>= wholeNext) := by
  cases first with
  | same =>
    cases result with
    | ok value => exact later value
    | error error => exact same (.error error)
  | tooDeep => exact tooDeep _

theorem andThen (operand : CutOff maxDepth result whole)
    (apply : Value → Except EvaluationError Value) :
    CutOff maxDepth (result >>= apply) (whole >>= apply) :=
  operand.bind fun value => same (apply value)

/-- A node that the lower limit admits is admitted by the higher one too. -/
theorem atNode {relaxed : Nat} (below : CutOff maxDepth result whole) (more : maxDepth ≤ relaxed)
    (nesting : Nat) (node : Formula) :
    CutOff maxDepth (Formula.outcomeOfNode maxDepth nesting node result)
      (Formula.outcomeOfNode relaxed nesting node whole) := by
  by_cases room : nesting < maxDepth
  · have roomy : nesting < relaxed := Nat.lt_of_lt_of_le room more
    simp only [Formula.outcomeOfNode, Nat.not_le_of_lt room, Nat.not_le_of_lt roomy, if_false]
    split
    · exact same _
    · exact below
  · rw [Formula.outcomeOfNode, if_pos (Nat.le_of_not_lt room)]
    exact tooDeep _

theorem eq_of_ne (cut : CutOff maxDepth result whole)
    (finished : result ≠ .error (.depthExceeded maxDepth)) : whole = result := by
  cases cut with
  | same => rfl
  | tooDeep => exact absurd rfl finished

end CutOff

namespace Formula

variable {σ : Type} [Scope σ] {scope : σ}

/-! ### The meaning of a formula -/

/-- What an admitted node yields; one that is not admitted yields its refusal. -/
def ifAdmitted (node : Formula) (below : Except EvaluationError Value) :
    Except EvaluationError Value :=
  match node.refusal? with
  | some refusal => .error (.disallowed refusal)
  | none => below

/-- The value of a formula in a scope, or why it has none, whatever the depth of the formula. -/
def meaning (scope : σ) : Formula → Except EvaluationError Value
  | .literal value => ifAdmitted (.literal value) (.ok value.toValue)
  | .identifier name => ifAdmitted (.identifier name) (valueOfField scope name)
  | .unary op operand =>
    ifAdmitted (.unary op operand) do
      let value ← operand.meaning scope
      op.apply value
  | .binary op left right =>
    ifAdmitted (.binary op left right) do
      let leftValue ← left.meaning scope
      let rightValue ← right.meaning scope
      op.apply leftValue rightValue
  | .logical op left right =>
    ifAdmitted (.logical op left right) do
      let leftValue ← left.meaning scope
      if op.isDecidedBy leftValue then
        .ok leftValue
      else
        right.meaning scope
  | .conditional test consequent alternate =>
    ifAdmitted (.conditional test consequent alternate) do
      let testValue ← test.meaning scope
      if testValue.isTruthy then
        consequent.meaning scope
      else
        alternate.meaning scope

theorem outcomeOfNode_eq_ifAdmitted {maxDepth nesting : Nat} (room : nesting < maxDepth)
    (node : Formula) (below : Except EvaluationError Value) :
    outcomeOfNode maxDepth nesting node below = ifAdmitted node below := by
  have within := Nat.not_le_of_lt room
  cases refused : node.refusal? <;> simp [outcomeOfNode, ifAdmitted, refused, within]

/-! ### Outcomes under limits -/

/-- **With levels for all its nodes a formula has its meaning as the outcome.** -/
theorem outcome_eq_meaning {maxDepth : Nat} {formula : Formula} {nesting : Nat}
    (room : nesting + formula.depth ≤ maxDepth) :
    formula.outcome maxDepth scope nesting = formula.meaning scope := by
  induction formula generalizing nesting with
  | literal value =>
    rw [depth_literal] at room
    exact outcomeOfNode_eq_ifAdmitted (by omega) _ _
  | identifier name =>
    rw [depth_identifier] at room
    exact outcomeOfNode_eq_ifAdmitted (by omega) _ _
  | unary op operand ih =>
    rw [depth_unary] at room
    rw [outcome, outcomeOfNode_eq_ifAdmitted (by omega), ih (by omega)]
    rfl
  | binary op left right ihl ihr =>
    rw [depth_binary] at room
    rw [outcome, outcomeOfNode_eq_ifAdmitted (by omega), ihl (by omega), ihr (by omega)]
    rfl
  | logical op left right ihl ihr =>
    rw [depth_logical] at room
    rw [outcome, outcomeOfNode_eq_ifAdmitted (by omega), ihl (by omega), ihr (by omega)]
    rfl
  | conditional test consequent alternate iht ihc iha =>
    rw [depth_conditional] at room
    rw [outcome, outcomeOfNode_eq_ifAdmitted (by omega), iht (by omega), ihc (by omega),
      iha (by omega)]
    rfl

/-- **A higher limit changes nothing but what the lower one cut off.** -/
theorem cutOff_outcome {maxDepth relaxed : Nat} (more : maxDepth ≤ relaxed) (formula : Formula)
    (nesting : Nat) :
    CutOff maxDepth (formula.outcome maxDepth scope nesting)
      (formula.outcome relaxed scope nesting) := by
  induction formula generalizing nesting with
  | literal value => exact (CutOff.same _).atNode more ..
  | identifier name => exact (CutOff.same _).atNode more ..
  | unary op operand ih => exact ((ih (nesting + 1)).andThen op.apply).atNode more ..
  | binary op left right ihl ihr =>
    have onLeft := ihl (nesting + 1)
    have onRight := ihr (nesting + 1)
    exact (onLeft.bind fun leftValue => onRight.andThen (op.apply leftValue)).atNode more ..
  | logical op left right ihl ihr =>
    refine ((ihl (nesting + 1)).bind fun leftValue => ?_).atNode more ..
    split
    · exact .same (.ok leftValue)
    · exact ihr (nesting + 1)
  | conditional test consequent alternate iht ihc iha =>
    refine ((iht (nesting + 1)).bind fun testValue => ?_).atNode more ..
    split
    · exact ihc (nesting + 1)
    · exact iha (nesting + 1)

/-- An outcome is the meaning of the formula or cut off by the limit. -/
theorem cutOff_meaning (maxDepth : Nat) (scope : σ) (formula : Formula) (nesting : Nat) :
    CutOff maxDepth (formula.outcome maxDepth scope nesting) (formula.meaning scope) := by
  -- A limit that is high enough for the formula as well lies between the two.
  have enough : nesting + formula.depth ≤ max maxDepth (nesting + formula.depth) :=
    Nat.le_max_right _ _
  rw [← outcome_eq_meaning enough]
  exact cutOff_outcome (Nat.le_max_left _ _) formula nesting

/-- The meaning of a formula is no matter of depth. -/
theorem meaning_ne_depthExceeded (scope : σ) (formula : Formula) (limit : Nat) :
    formula.meaning scope ≠ .error (.depthExceeded limit) := by
  intro exceeded
  rw [← outcome_eq_meaning (Nat.le_of_eq (Nat.zero_add formula.depth))] at exceeded
  cases outcome_error _ _ _ _ exceeded with
  | operator fault => cases fault
  | tooDeep deeper => omega

/-! ### Fresh evaluations -/

/-- The result of an evaluation that starts afresh under a depth limit. -/
def freshResult (maxDepth : Nat) (scope : σ) (formula : Formula) : Except EvaluationError Value :=
  ((formula.eval maxDepth scope).startingAt 0).value.1

theorem freshResult_eq (maxDepth : Nat) (scope : σ) (formula : Formula) :
    formula.freshResult maxDepth scope = formula.outcome maxDepth scope 0 := by
  rw [freshResult, startingAt_eval_eq]

/-- **The depth limit is transparent.** A fresh evaluation under any limit ends with the meaning of
the formula or for that limit, which the meaning itself never does. It ends with the meaning if the
formula is not deeper than the limit. And if it does not end for the limit, then every higher limit
gives the same result. -/
theorem freshResult_transparent (scope : σ) (formula : Formula) :
    (∀ maxDepth, formula.freshResult maxDepth scope = .error (.depthExceeded maxDepth) ∨
      formula.freshResult maxDepth scope = formula.meaning scope) ∧
    (∀ limit, formula.meaning scope ≠ .error (.depthExceeded limit)) ∧
    (∀ maxDepth, formula.depth ≤ maxDepth →
      formula.freshResult maxDepth scope = formula.meaning scope) ∧
    ∀ maxDepth relaxed, maxDepth ≤ relaxed →
      formula.freshResult maxDepth scope ≠ .error (.depthExceeded maxDepth) →
      formula.freshResult relaxed scope = formula.freshResult maxDepth scope := by
  simp only [freshResult_eq]
  refine ⟨fun maxDepth => ?_, meaning_ne_depthExceeded scope formula, fun maxDepth shallow => ?_,
    fun maxDepth relaxed more finished => (cutOff_outcome more formula 0).eq_of_ne finished⟩
  · by_cases finished : formula.outcome maxDepth scope 0 = .error (.depthExceeded maxDepth)
    · exact .inl finished
    · exact .inr ((cutOff_meaning maxDepth scope formula 0).eq_of_ne finished).symm
  · exact outcome_eq_meaning (by omega)

/-- The deep operand of `&&` is not evaluated, so two levels are enough for a formula of depth four,
and one is not. -/
theorem freshResult_transparent_skipped :
    let formula : Formula := .logical .and (.identifier "ready")
      (.unary .not (.unary .not (.identifier "paid")))
    let scope : List (String × Value) := [("ready", .boolean false)]
    formula.depth = 4 ∧
      formula.freshResult 1 scope = .error (.depthExceeded 1) ∧
      formula.freshResult 2 scope = .ok (.boolean false) ∧
      formula.freshResult 4 scope = formula.meaning scope ∧
      ∀ relaxed, 2 ≤ relaxed → formula.freshResult relaxed scope = .ok (.boolean false) := by
  intro formula scope
  have deep : formula.depth = 4 := by simp [formula]
  have finished : formula.freshResult 2 scope = .ok (.boolean false) := by
    rfl
  obtain ⟨_, _, whole, stays⟩ := freshResult_transparent scope formula
  refine ⟨deep, rfl, finished, whole 4 (Nat.le_of_eq deep), fun relaxed more => ?_⟩
  exact (stays 2 relaxed more (by simp [finished])).trans finished

/-! ### One evaluation after another -/

/-- **Evaluations leave no trace.** Let formulas be evaluated one after another with one count. Behind
each of them the count is what it was before the first one, whether they have values or fail, for
whatever reason and at whatever depth. Each result, and all that is logged, is that of a fresh
evaluation of the one formula. -/
theorem evalAll_leavesNoTrace (maxDepth : Nat) (scope : σ) (formulas : List Formula) :
    (∀ nesting done, (evalAll maxDepth scope nesting (formulas.take done)).value.2 = nesting) ∧
    (evalAll maxDepth scope 0 formulas).value.1 = formulas.map (freshResult maxDepth scope) ∧
    (evalAll maxDepth scope 0 formulas).entries =
      formulas.flatMap fun formula => ((formula.eval maxDepth scope).startingAt 0).entries := by
  refine ⟨fun nesting done => ?_, ?_, ?_⟩
  · rw [evalAll_eq]
  · rw [evalAll_eq]
    exact List.map_congr_left fun formula _ => (freshResult_eq maxDepth scope formula).symm
  · simp only [evalAll_eq, startingAt_eval_eq]

end Formula

end FieldFormula
