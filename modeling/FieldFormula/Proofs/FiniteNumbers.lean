import FieldFormula.Proofs.Provenance
import Mathlib.Data.List.Basic

/-!
# Numbers that are not finite

NaN and the infinities can stand in a scope, but nothing in a formula makes one: a constant has to be
finite, an operator on numbers looks at its result, and the operators that only choose pass on a value
as it is. So a value is finite, or it is that of a field. In a scope without such numbers, which is
every scope that was read from JSON, all values can be written as JSON and read back.

## Main result

`value_of_evaluate`: what the value of a formula can be.
-/

namespace FieldFormula

/-! ### Finite values -/

/-- The value is no number but a finite one. -/
def Value.IsFinite (value : Value) : Prop :=
  ∀ n, value = .number n → n.isFinite = true

/-- What the result is, if it is no error, is finite. -/
def YieldsFinite (result : Except EvaluationError Value) : Prop :=
  ∀ value, result = .ok value → value.IsFinite

theorem Value.isFinite_number {n : Binary64} (finite : n.isFinite = true) :
    (Value.number n).IsFinite := by
  rintro other ⟨⟩
  exact finite

theorem Value.isFinite_boolean (value : Bool) : (Value.boolean value).IsFinite := by
  rintro n ⟨⟩

theorem Value.isFinite_text (value : String) : (Value.text value).IsFinite := by
  rintro n ⟨⟩

theorem Value.IsComputed.isFinite {value : Value} (computed : value.IsComputed) :
    value.IsFinite := by
  cases computed with
  | boolean value => exact isFinite_boolean value
  | number finite => exact isFinite_number finite

/-! ### Operators -/

namespace YieldsFinite

theorem prefixOp (op : PrefixOp) (operand : Value) : YieldsFinite (op.apply operand) :=
  fun _ ended => ((endsIn_prefixOp op operand).of_ok ended).isFinite

/-- **No operator yields a number that is not finite**, whatever the values of its operands. -/
theorem binaryOp (op : BinaryOp) (left right : Value) : YieldsFinite (op.apply left right) :=
  fun _ ended => ((endsIn_binaryOp op left right).of_ok ended).isFinite

end YieldsFinite

/-! ### Formulas -/

/-- Where a value can come from if it was computed from the fields of these names. -/
inductive Value.ComesFrom {σ : Type} [Scope σ] (scope : σ) (names : List String) (value : Value) :
    Prop
  | finite (finite : value.IsFinite) : ComesFrom scope names value
  | field {name : String} (occurs : name ∈ names) (held : Scope.lookup scope name = some value) :
    ComesFrom scope names value

namespace Formula

variable {σ : Type} [Scope σ] {maxDepth nesting : Nat} {scope : σ}

theorem isFinite_of_admitted {value : Literal} (admitted : (literal value).refusal? = none) :
    value.toValue.IsFinite := by
  cases value with
  | number n =>
    apply Value.isFinite_number
    by_contra notFinite
    simp [refusal?, flaw?, Literal.flaw?, notFinite] at admitted
  | text value => exact Value.isFinite_text value
  | boolean value => exact Value.isFinite_boolean value

/-- **A value is finite or that of a field.** -/
theorem outcome_ok {formula : Formula} {value : Value}
    (ended : formula.outcome maxDepth scope nesting = .ok value) :
    value.ComesFrom scope formula.identifiers := by
  cases stemsFrom_of_outcome ended with
  | computed computed => exact .finite computed.isFinite
  | constant _ admitted same =>
    subst same
    exact .finite (isFinite_of_admitted admitted)
  | field occurs held => exact .field occurs held

end Formula

/-! ### JSON -/

/-- JSON has neither NaN nor infinities, and a number that is kept as a whole number has up to 64
binary digits. -/
def Json.IsProper : Json → Prop
  | .integer n => -((2 ^ 63 : Nat) : Int) ≤ n ∧ n < countLimit
  | .number x => x.isFinite = true
  | _ => True

theorem Value.isFinite_of_ofJson? {json : Json} {value : Value} (proper : json.IsProper)
    (read : ofJson? json = some value) : value.IsFinite := by
  cases json with
  | null =>
    cases read
    rintro n ⟨⟩
  | boolean holds =>
    obtain rfl := Option.some.inj read
    exact isFinite_boolean holds
  | integer n =>
    obtain rfl := Option.some.inj read
    apply isFinite_number
    apply Binary64.isFinite_ofInt
    obtain ⟨low, high⟩ := proper
    simp only [Json.countLimit] at high
    omega
  | number x =>
    obtain rfl := Option.some.inj read
    exact isFinite_number proper
  | string text =>
    obtain rfl := Option.some.inj read
    exact isFinite_text text
  | array items => cases read
  | object fields => cases read

namespace Formula

variable {σ : Type} [Scope σ] {limits : Limits} {formula : Formula} {scope : σ} {value : Value}

theorem isFinite_of_evaluate (ended : (formula.evaluate limits scope).value = .ok value)
    (held : ∀ name held, Scope.lookup scope name = some held → held.IsFinite) : value.IsFinite := by
  rw [value_evaluate] at ended
  cases outcome_ok ended with
  | finite finite => exact finite
  | field _ present => exact held _ value present

/-- **No number but a finite one is computed.** If the value of a formula is NaN or infinite, then it
is the unchanged value of a field that the formula names. So in a scope whose numbers are finite every
value can be written as JSON and read back, and such are the scopes whose values were read from
JSON. -/
theorem value_of_evaluate (ended : (formula.evaluate limits scope).value = .ok value) :
    (∀ n, value = .number n → n.isFinite = false →
      ∃ name ∈ formula.identifiers, Scope.lookup scope name = some (.number n)) ∧
    ((∀ name n, Scope.lookup scope name = some (.number n) → n.isFinite = true) →
      Value.ofJson? value.toJson = some value) ∧
    ((∀ name held, Scope.lookup scope name = some held →
        ∃ json : Json, json.IsProper ∧ Value.ofJson? json = some held) →
      Value.ofJson? value.toJson = some value) := by
  refine ⟨?_, fun numbers => ?_, fun fromJson => ?_⟩
  · rintro n rfl notFinite
    rw [value_evaluate] at ended
    cases outcome_ok ended with
    | finite finite => simp [finite n rfl] at notFinite
    | field occurs held => exact ⟨_, occurs, held⟩
  · refine Value.ofJson?_toJson (isFinite_of_evaluate ended fun name held present => ?_)
    rintro n rfl
    exact numbers name n present
  · refine Value.ofJson?_toJson (isFinite_of_evaluate ended fun name held present => ?_)
    obtain ⟨json, proper, read⟩ := fromJson name held present
    exact Value.isFinite_of_ofJson? proper read

/-- An infinite number passes through a choice and `||`, but not through a sign. Read from JSON, the
field holds a finite number, whatever is computed from it. -/
theorem value_of_evaluate_rate :
    let formula : Formula :=
      .conditional (.identifier "paid") (.logical .or (.identifier "rate") (.literal (.boolean false)))
        (.unary .negate (.identifier "rate"))
    let rates (paid : Bool) (rate : Binary64) : List (String × Value) :=
      [("paid", .boolean paid), ("rate", .number rate)]
    (formula.evaluate {} (rates true (.infinite true))).value = .ok (.number (.infinite true)) ∧
      (∃ name ∈ formula.identifiers,
        Scope.lookup (rates true (.infinite true)) name = some (.number (.infinite true))) ∧
      (formula.evaluate {} (rates false (.infinite true))).value =
        .error (.notNumeric (.number (.infinite true))) ∧
      (formula.evaluate {} (rates false (.ofInt 3))).value =
        .ok (.number (.negate (.ofInt 3))) ∧
      Value.ofJson? (Value.number (.negate (.ofInt 3))).toJson =
        some (.number (.negate (.ofInt 3))) := by
  intro formula rates
  have passed : (formula.evaluate {} (rates true (.infinite true))).value =
      .ok (.number (.infinite true)) := by
    decide +kernel
  have refused : (formula.evaluate {} (rates false (.infinite true))).value =
      .error (.notNumeric (.number (.infinite true))) := by
    decide +kernel
  have negated : (formula.evaluate {} (rates false (.ofInt 3))).value =
      .ok (.number (.negate (.ofInt 3))) := by
    decide +kernel
  refine ⟨passed, (value_of_evaluate passed).1 _ rfl rfl, refused, negated, ?_⟩
  apply (value_of_evaluate negated).2.2
  intro name held present
  have listed : (name, held) ∈ rates false (.ofInt 3) := by
    obtain ⟨field, found, rfl⟩ := Option.map_eq_some_iff.1 present
    obtain rfl : field.1 = name := by simpa using List.find?_some found
    exact List.mem_of_find?_eq_some found
  rcases (by simpa [rates] using listed) with ⟨rfl, rfl⟩ | ⟨rfl, rfl⟩
  · exact ⟨.boolean false, trivial, rfl⟩
  · exact ⟨.integer 3, ⟨by decide, by decide⟩, rfl⟩

end Formula

end FieldFormula
