import FieldFormula.Proofs.Alphabet
import FieldFormula.Proofs.Outcome

/-!
# A valid formula evaluates

Validation and evaluation go through a formula in different ways: validation lists its names and
nodes, evaluation descends into it and counts its nesting. `evaluate_of_isValid` shows that they
agree. Once a text is valid, its evaluation fails neither by its syntax nor by a name, a node or the
nesting, but only by the values that the operators meet.
-/

namespace FieldFormula

namespace Formula

variable {σ : Type} [Scope σ]

/-- A formula within the limit, with admitted nodes only and names of fields only, can fail by
nothing but the values of operands. -/
theorem outcome_failsOnValuesOnly {maxDepth : Nat} {scope : σ} {formula : Formula}
    (shallow : formula.depth ≤ maxDepth) (admitted : ∀ node ∈ formula.walk, node.refusal? = none)
    (known : ∀ name, identifier name ∈ formula.walk → (Scope.lookup scope name).isSome = true) :
    FailsOnValuesOnly (formula.outcome maxDepth scope 0) := by
  intro error failed
  cases outcome_error maxDepth scope formula 0 failed with
  | operator fault => exact fault
  | unknown occurs missing =>
    have present := known _ occurs
    simp [missing] at present
  | refused occurs refuses =>
    have passes := admitted _ occurs
    simp [passes] at refuses
  | tooDeep deeper => omega

end Formula

/-- **A valid text evaluates** in every scope that has the available fields: it yields a value, or
an operator reports an operand that is no number, a division by zero or a result that is not
finite. -/
theorem evaluate_of_isValid {σ : Type} [Scope σ] {limits : Limits} {source : String}
    {available : List String} {scope : σ}
    (valid : (validate limits source available).value.isValid = true)
    (defined : ∀ name ∈ available, (Scope.lookup scope name).isSome = true) :
    (∃ value, (evaluate limits source scope).value = .ok value) ∨
      ∃ error, (evaluate limits source scope).value = .error error ∧
        ((∃ value, error = .notNumeric value) ∨ (∃ op, error = .divisionByZero op) ∨
          ∃ op, error = .nonFiniteResult op) := by
  obtain ⟨formula, read, named, admitted⟩ := isValid_iff.1 valid
  obtain ⟨tokens, accepted⟩ := Formula.ofChars_eq_ok_iff.1 read
  have known : ∀ name, .identifier name ∈ formula.walk →
      (Scope.lookup scope name).isSome = true :=
    fun name occurs => defined name (named name (Formula.mem_identifiers_iff.2 occurs))
  have failsOnly := Formula.outcome_failsOnValuesOnly accepted.shallow admitted known
  rw [Formula.value_evaluate_source read]
  cases ended : formula.outcome limits.maxDepth scope 0 with
  | ok value => exact .inl ⟨value, rfl⟩
  | error error =>
    refine .inr ⟨error, rfl, ?_⟩
    cases failsOnly error ended with
    | notNumeric value => exact .inl ⟨value, rfl⟩
    | divisionByZero op => exact .inr (.inl ⟨op, rfl⟩)
    | nonFiniteResult op => exact .inr (.inr ⟨op, rfl⟩)

/-- A valid text whose evaluation fails all the same: one field is a text, the other one null. -/
theorem evaluate_of_isValid_rate :
    (validate {} "paid ? total / count : !paid" ["paid", "total", "count"]).value.isValid = true ∧
      (∀ name ∈ ["paid", "total", "count"],
        (Scope.lookup [("paid", Value.boolean true), ("count", .null), ("total", .text "12")]
          name).isSome = true) ∧
      ((∃ value, (evaluate {} "paid ? total / count : !paid"
          [("paid", Value.boolean true), ("count", .null), ("total", .text "12")]).value =
            .ok value) ∨
        ∃ error, (evaluate {} "paid ? total / count : !paid"
          [("paid", Value.boolean true), ("count", .null), ("total", .text "12")]).value =
            .error error ∧
          ((∃ value, error = .notNumeric value) ∨ (∃ op, error = .divisionByZero op) ∨
            ∃ op, error = .nonFiniteResult op)) := by
  have valid : (validate {} "paid ? total / count : !paid" ["paid", "total", "count"]).value.isValid
      = true := by
    decide +kernel
  have defined : ∀ name ∈ ["paid", "total", "count"],
      (Scope.lookup [("paid", Value.boolean true), ("count", .null), ("total", .text "12")]
        name).isSome = true := by
    decide +kernel
  exact ⟨valid, defined, evaluate_of_isValid valid defined⟩

end FieldFormula
