import FieldFormula.Proofs.Outcome

/-!
# What a formula reads of a scope

Two scopes, of the same kind or not, are compared on the names of a formula only: the second one
`Keeps` the fields that the first one has. The two evaluations then go through the same nodes with the
same values until one of them comes to a name that only the second scope knows; the evaluation in the
first scope ends there.

## Main result

`evaluate_of_keeps`: the evaluations agree, but for a name that was missing and has been added.
-/

namespace FieldFormula

variable {σ τ : Type} [Scope σ] [Scope τ]

/-- The fields with these names that the first scope has are in the second one, with the same
values. -/
def Keeps (names : List String) (scope : σ) (other : τ) : Prop :=
  ∀ name ∈ names, ∀ value, Scope.lookup scope name = some value →
    Scope.lookup other name = some value

/-- How what depends on these names ends in one scope and in another one. -/
inductive Corresponds (names : List String) (scope : σ) (other : τ) :
    Except EvaluationError Value → Except EvaluationError Value → Prop
  | same (outcome : Except EvaluationError Value) : Corresponds names scope other outcome outcome
  -- The first scope lacks a name that the second one has, so only the second evaluation goes on.
  | added {name : String} (occurs : name ∈ names) (missing : Scope.lookup scope name = none)
    (present : (Scope.lookup other name).isSome = true) (outcome : Except EvaluationError Value) :
    Corresponds names scope other (.error (.unknownIdentifier name)) outcome

namespace Corresponds

variable {names : List String} {scope : σ} {other : τ}
  {outcome otherOutcome : Except EvaluationError Value}

theorem bind {next otherNext : Value → Except EvaluationError Value}
    (first : Corresponds names scope other outcome otherOutcome)
    (later : ∀ value, Corresponds names scope other (next value) (otherNext value)) :
    Corresponds names scope other (outcome >>= next) (otherOutcome >>= otherNext) := by
  cases first with
  | same =>
    cases outcome with
    | ok value => exact later value
    | error error => exact same (.error error)
  | added occurs missing present => exact added occurs missing present _

/-- What an operator makes of its operand does not depend on the scope. -/
theorem andThen (operand : Corresponds names scope other outcome otherOutcome)
    (apply : Value → Except EvaluationError Value) :
    Corresponds names scope other (outcome >>= apply) (otherOutcome >>= apply) :=
  operand.bind fun value => same (apply value)

theorem atNode (below : Corresponds names scope other outcome otherOutcome)
    (maxDepth nesting : Nat) (node : Formula) :
    Corresponds names scope other (Formula.outcomeOfNode maxDepth nesting node outcome)
      (Formula.outcomeOfNode maxDepth nesting node otherOutcome) := by
  unfold Formula.outcomeOfNode
  split
  · exact same _
  · split
    · exact same _
    · exact below

theorem valueOfField {name : String} (kept : Keeps names scope other) (occurs : name ∈ names) :
    Corresponds names scope other (Formula.valueOfField scope name)
      (Formula.valueOfField other name) := by
  cases here : Scope.lookup scope name with
  | some value =>
    have there : Scope.lookup other name = some value := kept name occurs value here
    simp only [Formula.valueOfField, here, there]
    exact same (.ok value)
  | none =>
    cases there : Scope.lookup other name with
    | none =>
      simp only [Formula.valueOfField, here, there]
      exact same (.error (.unknownIdentifier name))
    | some value =>
      simp only [Formula.valueOfField, here, there]
      exact added occurs here (by simp [there]) (.ok value)

end Corresponds

namespace Formula

variable {names : List String} {scope : σ} {other : τ}

private theorem reads_child {child formula : Formula} (member : child ∈ formula.children)
    (reads : formula.identifiers ⊆ names) : child.identifiers ⊆ names :=
  List.Subset.trans (identifiers_subset_of_mem_children member) reads

/-- The scopes are read at names only, and which operands are evaluated is decided by values that the
two evaluations share. -/
theorem corresponds_outcome (kept : Keeps names scope other) (maxDepth : Nat) {formula : Formula}
    (reads : formula.identifiers ⊆ names) (nesting : Nat) :
    Corresponds names scope other (formula.outcome maxDepth scope nesting)
      (formula.outcome maxDepth other nesting) := by
  induction formula generalizing nesting with
  | literal value => exact .same _
  | identifier name =>
    have occurs : name ∈ names := reads (mem_identifiers_iff.2 (by simp))
    exact (Corresponds.valueOfField kept occurs).atNode ..
  | unary op operand ih =>
    have below := ih (reads_child (by simp [children]) reads) (nesting + 1)
    exact (below.andThen op.apply).atNode ..
  | binary op left right ihl ihr =>
    have onLeft := ihl (reads_child (by simp [children]) reads) (nesting + 1)
    have onRight := ihr (reads_child (by simp [children]) reads) (nesting + 1)
    exact (onLeft.bind fun leftValue => onRight.andThen (op.apply leftValue)).atNode ..
  | logical op left right ihl ihr =>
    have onLeft := ihl (reads_child (by simp [children]) reads) (nesting + 1)
    have onRight := ihr (reads_child (by simp [children]) reads) (nesting + 1)
    refine (onLeft.bind fun leftValue => ?_).atNode ..
    split
    · exact .same (.ok leftValue)
    · exact onRight
  | conditional test consequent alternate iht ihc iha =>
    have tested := iht (reads_child (by simp [children]) reads) (nesting + 1)
    have chosen := ihc (reads_child (by simp [children]) reads) (nesting + 1)
    have otherwise := iha (reads_child (by simp [children]) reads) (nesting + 1)
    refine (tested.bind fun testValue => ?_).atNode ..
    split
    · exact chosen
    · exact otherwise

/-- **A formula depends on its names only.** If a second scope keeps the fields that the formula names,
then the formula evaluates in it as in the first one, with the same value or error and the same log.
The only exception is an evaluation that ends in the first scope because it lacks a name of the formula
which the second scope has. -/
theorem evaluate_of_keeps (limits : Limits) {formula : Formula}
    (kept : Keeps formula.identifiers scope other) :
    formula.evaluate limits other = formula.evaluate limits scope ∨
      ∃ name ∈ formula.identifiers, Scope.lookup scope name = none ∧
        (Scope.lookup other name).isSome = true ∧
        (formula.evaluate limits scope).value = .error (.unknownIdentifier name) := by
  have corresponds := corresponds_outcome kept limits.maxDepth (List.Subset.refl _) 0
  rw [value_evaluate, evaluate_eq, evaluate_eq]
  generalize formula.outcome limits.maxDepth scope 0 = outcome at corresponds ⊢
  generalize formula.outcome limits.maxDepth other 0 = otherOutcome at corresponds ⊢
  cases corresponds with
  | same => exact .inl rfl
  | added occurs missing present => exact .inr ⟨_, occurs, missing, present, rfl⟩

/-- A list without the field of the branch that is not taken, and a map in which it is null. -/
theorem evaluate_of_keeps_untaken :
    let formula : Formula :=
      .conditional (.identifier "paid") (.identifier "total") (.identifier "rate")
    let scope : List (String × Value) := [("paid", .boolean true), ("total", .text "12")]
    let other : Std.HashMap String Value :=
      ((Std.HashMap.emptyWithCapacity.insert "rate" .null).insert "total" (.text "12")).insert "paid"
        (.boolean true)
    Keeps formula.identifiers scope other ∧
      (formula.evaluate {} scope).value = .ok (.text "12") ∧
      formula.evaluate {} other = formula.evaluate {} scope := by
  intro formula scope other
  have names : formula.identifiers = ["paid", "total", "rate"] := by
    decide +kernel
  have kept : Keeps formula.identifiers scope other := by
    intro name occurs value present
    rw [names] at occurs
    rcases (by simpa using occurs : name = "paid" ∨ name = "total" ∨ name = "rate") with
      rfl | rfl | rfl
    · simpa [Scope.lookup, lookupFirst, scope, other] using present
    · simpa [Scope.lookup, lookupFirst, scope, other, Std.HashMap.getElem_insert] using present
    · simp [Scope.lookup, lookupFirst, scope] at present
  have succeeds : (formula.evaluate {} scope).value = .ok (.text "12") := by
    rfl
  refine ⟨kept, succeeds, (evaluate_of_keeps {} kept).resolve_right ?_⟩
  simp [succeeds]

end Formula

end FieldFormula
