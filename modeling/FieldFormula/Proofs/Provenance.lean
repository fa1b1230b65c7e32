import FieldFormula.Proofs.Outcome
import Mathlib.Data.List.Basic

/-!
# Where values and errors come from

Operators compute truth values and finite numbers only. Any other value of a formula is a constant
in it or the value of a field, which `&&`, `||` and `? :` have passed on as it is. So an operand
that cannot be read as a number is traced back to a text in the formula or to a field that the
formula names, and every other error to a node that is to blame for it.

## Main result

`hasCause_of_evaluate`: what an error says about the formula, the scope and the limit.
-/

namespace FieldFormula

/-! ### Values -/

/-- Where the value of a formula in a scope can come from. -/
inductive Value.StemsFrom {σ : Type} [Scope σ] (scope : σ) (formula : Formula) (value : Value) : Prop
  | computed (computed : value.IsComputed) : StemsFrom scope formula value
  | constant {constant : Literal} (occurs : .literal constant ∈ formula.walk)
    (admitted : (Formula.literal constant).refusal? = none) (same : constant.toValue = value) :
    StemsFrom scope formula value
  | field {name : String} (occurs : name ∈ formula.identifiers)
    (held : Scope.lookup scope name = some value) : StemsFrom scope formula value

theorem Value.StemsFrom.of_part {σ : Type} [Scope σ] {scope : σ} {part formula : Formula}
    {value : Value} (stems : value.StemsFrom scope part) (within : part.walk ⊆ formula.walk) :
    value.StemsFrom scope formula := by
  cases stems with
  | computed computed => exact .computed computed
  | constant occurs admitted same => exact .constant (within occurs) admitted same
  | field occurs held =>
    have met := Formula.mem_identifiers_iff.1 occurs
    exact .field (Formula.mem_identifiers_iff.2 (within met)) held

namespace Formula

variable {σ : Type} [Scope σ] {maxDepth nesting : Nat} {scope : σ}

/-- A node that has a value was admitted, and has the value of what stands below it. -/
theorem outcomeOfNode_ok {node : Formula} {below : Except EvaluationError Value} {value : Value}
    (ended : outcomeOfNode maxDepth nesting node below = .ok value) :
    node.refusal? = none ∧ below = .ok value := by
  unfold outcomeOfNode at ended
  split at ended
  · cases ended
  · split at ended
    · cases ended
    next admitted => exact ⟨admitted, ended⟩

private theorem bind_ok {α β ε : Type} {first : Except ε α} {next : α → Except ε β} {result : β}
    (ended : first >>= next = .ok result) : ∃ value, first = .ok value ∧ next value = .ok result := by
  cases first with
  | ok value => exact ⟨value, rfl, ended⟩
  | error fault => cases ended

private theorem stemsFrom_child {child formula : Formula} {value : Value}
    (stems : value.StemsFrom scope child) (member : child ∈ formula.children) :
    value.StemsFrom scope formula :=
  stems.of_part (walk_subset_of_mem_children member)

/-- **A value was computed, or it is that of a constant or a field.** -/
theorem stemsFrom_of_outcome {formula : Formula} {value : Value}
    (ended : formula.outcome maxDepth scope nesting = .ok value) : value.StemsFrom scope formula := by
  induction formula generalizing nesting value with
  | literal constant =>
    obtain ⟨admitted, below⟩ := outcomeOfNode_ok ended
    exact .constant (mem_walk_self _) admitted (Except.ok.inj below)
  | identifier name =>
    obtain ⟨-, found⟩ := outcomeOfNode_ok ended
    unfold valueOfField at found
    split at found
    next held =>
      cases found
      exact .field (mem_identifiers_iff.2 (mem_walk_self _)) held
    · cases found
  | unary op operand ih =>
    obtain ⟨-, below⟩ := outcomeOfNode_ok ended
    obtain ⟨operandValue, -, applied⟩ := bind_ok below
    exact .computed ((endsIn_prefixOp op operandValue).of_ok applied)
  | binary op left right ihl ihr =>
    obtain ⟨-, below⟩ := outcomeOfNode_ok ended
    obtain ⟨leftValue, -, later⟩ := bind_ok below
    obtain ⟨rightValue, -, applied⟩ := bind_ok later
    exact .computed ((endsIn_binaryOp op leftValue rightValue).of_ok applied)
  | logical op left right ihl ihr =>
    obtain ⟨-, below⟩ := outcomeOfNode_ok ended
    obtain ⟨leftValue, onLeft, later⟩ := bind_ok below
    split at later
    · cases later
      exact stemsFrom_child (ihl onLeft) (by simp [children])
    · exact stemsFrom_child (ihr later) (by simp [children])
  | conditional test consequent alternate iht ihc iha =>
    obtain ⟨-, below⟩ := outcomeOfNode_ok ended
    obtain ⟨testValue, -, chosen⟩ := bind_ok below
    split at chosen
    · exact stemsFrom_child (ihc chosen) (by simp [children])
    · exact stemsFrom_child (iha chosen) (by simp [children])

end Formula

/-! ### Errors -/

/-- The value is a text that spells no number, and it stands in the formula or in a field. -/
def Value.IsUnreadText {σ : Type} [Scope σ] (scope : σ) (formula : Formula) (value : Value) : Prop :=
  value.typeName = "string" ∧ ∃ text, value = .text text ∧ value.cite = Text.quoteText text ∧
    Value.numberOfText? text = none ∧
    (.literal (.text text) ∈ formula.walk ∨
      ∃ name ∈ formula.identifiers, Scope.lookup scope name = some value)

/-- The value is NaN or an infinity that a field holds. -/
def Value.IsUnreadNumber {σ : Type} [Scope σ] (scope : σ) (formula : Formula) (value : Value) : Prop :=
  value.typeName = "number" ∧ value.cite ∈ ["NaN", "inf", "-inf"] ∧
    ∃ name ∈ formula.identifiers, Scope.lookup scope name = some value

/-- What the error says about the formula, the scope and the limits is so. -/
def EvaluationError.HasCause {σ : Type} [Scope σ] (limits : Limits) (scope : σ) (formula : Formula) :
    EvaluationError → Prop
  -- The formula has been read already.
  | .syntaxError _ => False
  | .unknownIdentifier name => name ∈ formula.identifiers ∧ Scope.lookup scope name = none
  | .notNumeric value => value.IsUnreadText scope formula ∨ value.IsUnreadNumber scope formula
  | .divisionByZero op =>
    (op = .divide ∨ op = .remainder) ∧ ∃ left right, .binary op left right ∈ formula.walk
  | .nonFiniteResult op =>
    op.isArithmetic = true ∧ ∃ left right, .binary op left right ∈ formula.walk
  | .disallowed refusal => ∃ node ∈ formula.walk, node.refusal? = some refusal
  | .depthExceeded limit => limit = limits.maxDepth ∧ limit < formula.depth

theorem Binary64.toText_of_not_isFinite {n : Binary64} (notFinite : n.isFinite = false) :
    n.toText ∈ ["NaN", "inf", "-inf"] := by
  cases n with
  | nan => decide
  | infinite negative => cases negative <;> decide
  | finite negative units representable => cases notFinite

namespace Formula

variable {σ : Type} [Scope σ] {limits : Limits} {scope : σ} {formula : Formula}

/-- A constant that is admitted and is no number when it should be one is a text. -/
theorem hasCause_of_constant {constant : Literal} (occurs : .literal constant ∈ formula.walk)
    (admitted : (literal constant).refusal? = none) (noReading : constant.toValue.toNumber? = none) :
    (EvaluationError.notNumeric constant.toValue).HasCause limits scope formula := by
  cases constant with
  | number n =>
    have notFinite : ¬ n.isFinite = true := by
      simpa [Literal.toValue, Value.toNumber?] using noReading
    simp [refusal?, flaw?, Literal.flaw?, notFinite] at admitted
  | text text => exact .inl ⟨rfl, text, rfl, rfl, noReading, .inl occurs⟩
  | boolean value => simp [Literal.toValue, Value.toNumber?] at noReading

theorem hasCause_of_field {name : String} {value : Value} (occurs : name ∈ formula.identifiers)
    (held : Scope.lookup scope name = some value) (noReading : value.toNumber? = none) :
    (EvaluationError.notNumeric value).HasCause limits scope formula := by
  cases value with
  | null => cases noReading
  | boolean value => simp [Value.toNumber?] at noReading
  | number n =>
    have notFinite : n.isFinite = false := by
      simpa [Value.toNumber?] using noReading
    exact .inr ⟨rfl, Binary64.toText_of_not_isFinite notFinite, name, occurs, held⟩
  | text text => exact .inl ⟨rfl, text, rfl, rfl, noReading, .inr ⟨name, occurs, held⟩⟩

/-- An operand that is no number was not computed. -/
theorem hasCause_of_stemsFrom {value : Value} (stems : value.StemsFrom scope formula)
    (noReading : value.toNumber? = none) :
    (EvaluationError.notNumeric value).HasCause limits scope formula := by
  cases stems with
  | computed computed => exact absurd noReading computed.toNumber?_ne_none
  | constant occurs admitted same =>
    subst same
    exact hasCause_of_constant occurs admitted noReading
  | field occurs held => exact hasCause_of_field occurs held noReading

/-- **An error names its cause.** An unknown name is in the formula and is no field. A refusal is
that of a node of the formula. If the nesting is too deep, the formula is deeper than the limit. A
division by zero, or a result that is not finite, is that of an operator in the formula which
divides, or which yields numbers. A value that is no number is a text, in the formula or in one of
its fields, that spells none, or it is NaN or an infinity in one of its fields. And a formula is
never reported to be spelled wrongly. -/
theorem hasCause_of_evaluate {error : EvaluationError}
    (failed : (formula.evaluate limits scope).value = .error error) :
    error.HasCause limits scope formula := by
  rw [value_evaluate] at failed
  obtain ⟨node, occurs, level, reached, fault⟩ := faultWithin_of_outcome failed
  -- The operands of the node are parts of the formula, so their values come from there.
  have stems {operand : Formula} {value : Value} (member : operand ∈ node.children)
      (has : operand.outcome limits.maxDepth scope (level + 1) = .ok value) :
      value.StemsFrom scope formula :=
    (stemsFrom_of_outcome has).of_part
      (List.Subset.trans (walk_subset_of_mem_children member) (walk_subset_of_mem_walk occurs))
  cases fault with
  | tooDeep full => exact ⟨rfl, by omega⟩
  | refused refuses => exact ⟨node, occurs, refuses⟩
  | unknown missing => exact ⟨mem_identifiers_iff.2 occurs, missing⟩
  | unary has fault =>
    cases fault with
    | unread noReading => exact hasCause_of_stemsFrom (stems (by simp [children]) has) noReading
  | binary hasLeft hasRight fault =>
    cases fault with
    | unreadLeft noReading =>
      exact hasCause_of_stemsFrom (stems (by simp [children]) hasLeft) noReading
    | unreadRight noReading =>
      exact hasCause_of_stemsFrom (stems (by simp [children]) hasRight) noReading
    | divisionByZero divides => exact ⟨divides, _, _, occurs⟩
    | nonFiniteResult arithmetic => exact ⟨arithmetic, _, _, occurs⟩

/-- The operand of a minus sign is a text of the formula, chosen by `||`, and then an infinity,
chosen by `? :`. -/
theorem hasCause_of_evaluate_passedOn :
    let formula : Formula := .unary .negate
      (.conditional (.identifier "paid")
        (.logical .or (.identifier "note") (.literal (.text "no total"))) (.identifier "rate"))
    let scope (paid : Bool) : List (String × Value) :=
      [("paid", .boolean paid), ("note", .text ""), ("rate", .number (.infinite true))]
    ((formula.evaluate {} (scope true)).value = .error (.notNumeric (.text "no total")) ∧
      (EvaluationError.notNumeric (.text "no total")).HasCause {} (scope true) formula) ∧
    ((formula.evaluate {} (scope false)).value = .error (.notNumeric (.number (.infinite true))) ∧
      (EvaluationError.notNumeric (.number (.infinite true))).HasCause {} (scope false) formula) := by
  intro formula scope
  have unreadText : (formula.evaluate {} (scope true)).value =
      .error (.notNumeric (.text "no total")) := by
    decide +kernel
  have unreadNumber : (formula.evaluate {} (scope false)).value =
      .error (.notNumeric (.number (.infinite true))) := by
    decide +kernel
  exact ⟨⟨unreadText, hasCause_of_evaluate unreadText⟩,
    ⟨unreadNumber, hasCause_of_evaluate unreadNumber⟩⟩

end Formula

end FieldFormula
