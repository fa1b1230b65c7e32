import FieldFormula.Proofs.Number.Rounding
import FieldFormula.Value.Operation

/-!
# What operators yield and fail by

Whatever the values of its operands, an operator yields a truth value or a finite number. If it
yields nothing, it names the fault: an operand that has no reading as a number, a divisor that is
zero, or a result that is not finite. `EndsIn` says both of a result at once, so each step of an
operator needs one lemma only.

## Main results

`endsIn_prefixOp` and `endsIn_binaryOp`: how an operator ends.
-/

namespace FieldFormula

/-! ### Ways to end -/

/-- The result is a value of the one kind or an error of the other. -/
def EndsIn {α : Type} (yields : α → Prop) (faults : EvaluationError → Prop) :
    Except EvaluationError α → Prop
  | .ok value => yields value
  | .error error => faults error

namespace EndsIn

variable {α β : Type} {yields : α → Prop} {later : β → Prop} {faults : EvaluationError → Prop}
  {result : Except EvaluationError α}

theorem of_ok (ends : EndsIn yields faults result) {value : α} (ended : result = .ok value) :
    yields value := by
  subst ended
  exact ends

theorem of_error (ends : EndsIn yields faults result) {error : EvaluationError}
    (failed : result = .error error) : faults error := by
  subst failed
  exact ends

theorem bind {next : α → Except EvaluationError β} (first : EndsIn yields faults result)
    (behind : ∀ value, yields value → EndsIn later faults (next value)) :
    EndsIn later faults (result >>= next) := by
  cases result with
  | ok value => exact behind value first
  | error error => exact first

end EndsIn

namespace Value

/-- A value of the kinds that operators compute. -/
inductive IsComputed : Value → Prop
  | boolean (value : Bool) : IsComputed (.boolean value)
  | number {n : Binary64} (finite : n.isFinite = true) : IsComputed (.number n)

/-- **The reading of a value as a number is finite.** -/
theorem isFinite_of_toNumber? {value : Value} {n : Binary64} (read : value.toNumber? = some n) :
    n.isFinite = true := by
  cases value with
  | null =>
    cases read
    rfl
  | boolean value =>
    obtain rfl := Option.some.inj read
    apply Binary64.isFinite_ofInt
    cases value <;> decide
  | number x =>
    by_cases finite : x.isFinite = true
    · rw [toNumber?, if_pos finite] at read
      cases read
      exact finite
    · rw [toNumber?, if_neg finite] at read
      cases read
  | text text =>
    rw [toNumber?, numberOfText?] at read
    split at read
    · cases read
      rfl
    · exact (Option.filter_eq_some_iff.1 read).2

/-- What an operator has computed can be read as a number by the next one. -/
theorem IsComputed.toNumber?_ne_none {value : Value} (computed : value.IsComputed) :
    value.toNumber? ≠ none := by
  cases computed with
  | boolean value => simp [toNumber?]
  | number finite => simp [toNumber?, finite]

theorem endsIn_asNumber (value : Value) {faults : EvaluationError → Prop}
    (unread : value.toNumber? = none → faults (.notNumeric value)) :
    EndsIn (fun n => n.isFinite = true) faults value.asNumber := by
  unfold asNumber
  split
  next n read => exact isFinite_of_toNumber? read
  next noReading => exact unread noReading

end Value

/-! ### Prefix operators -/

/-- What a prefix operator can fail by. -/
inductive PrefixOp.Fault (operand : Value) : EvaluationError → Prop
  | unread (noReading : operand.toNumber? = none) : Fault operand (.notNumeric operand)

theorem endsIn_prefixOp (op : PrefixOp) (operand : Value) :
    EndsIn Value.IsComputed (PrefixOp.Fault operand) (op.apply operand) := by
  have reading := operand.endsIn_asNumber PrefixOp.Fault.unread
  cases op with
  | negate => exact reading.bind fun n finite => .number (n.isFinite_negate.trans finite)
  | plus => exact reading.bind fun _ finite => .number finite
  | not => exact .boolean _

/-! ### Binary operators -/

/-- The operator yields numbers. -/
def BinaryOp.isArithmetic : BinaryOp → Bool
  | .add | .subtract | .multiply | .divide | .remainder => true
  | _ => false

/-- What a binary operator can fail by. -/
inductive BinaryOp.Fault (op : BinaryOp) (left right : Value) : EvaluationError → Prop
  | unreadLeft (noReading : left.toNumber? = none) : Fault op left right (.notNumeric left)
  | unreadRight (noReading : right.toNumber? = none) : Fault op left right (.notNumeric right)
  | divisionByZero (divides : op = .divide ∨ op = .remainder) :
    Fault op left right (.divisionByZero op)
  | nonFiniteResult (arithmetic : op.isArithmetic = true) :
    Fault op left right (.nonFiniteResult op)

section

variable {α : Type} {yields : α → Prop} {op : BinaryOp}

/-- Both operands are read as numbers, the left one first. -/
theorem endsIn_operands (left right : Value) {next : Binary64 → Binary64 → Except EvaluationError α}
    (computes : ∀ a b, EndsIn yields (op.Fault left right) (next a b)) :
    EndsIn yields (op.Fault left right)
      (left.asNumber >>= fun a => right.asNumber >>= fun b => next a b) :=
  (left.endsIn_asNumber .unreadLeft).bind fun a _ =>
    (right.endsIn_asNumber .unreadRight).bind fun b _ => computes a b

theorem endsIn_looseEquals (left right : Value) :
    EndsIn (fun _ => True) (op.Fault left right) (left.looseEquals right) := by
  unfold Value.looseEquals
  split
  · trivial
  · exact endsIn_operands _ _ fun _ _ => trivial
  · exact endsIn_operands _ _ fun _ _ => trivial
  · trivial

theorem endsIn_order (left right : Value) :
    EndsIn (fun _ => True) (op.Fault left right) (left.order right) := by
  unfold Value.order
  split
  · trivial
  · exact endsIn_operands left right fun _ _ => trivial

/-- The last step of all arithmetic. -/
theorem endsIn_checked {left right : Value} (arithmetic : op.isArithmetic = true) (n : Binary64) :
    EndsIn Value.IsComputed (op.Fault left right)
      (if n.isFinite = true then pure (.number n) else throw (.nonFiniteResult op)) := by
  by_cases finite : n.isFinite = true
  · rw [if_pos finite]
    exact .number finite
  · rw [if_neg finite]
    exact .nonFiniteResult arithmetic

theorem endsIn_arithmetic (arithmetic : op.isArithmetic = true)
    (compute : Binary64 → Binary64 → Binary64) (left right : Value) :
    EndsIn Value.IsComputed (op.Fault left right) (op.arithmetic compute left right) :=
  endsIn_operands left right fun a b => endsIn_checked arithmetic (compute a b)

theorem endsIn_division (divides : op = .divide ∨ op = .remainder)
    (compute : Binary64 → Binary64 → Binary64) (left right : Value) :
    EndsIn Value.IsComputed (op.Fault left right) (op.division compute left right) := by
  have arithmetic : op.isArithmetic = true := by
    rcases divides with rfl | rfl <;> rfl
  refine endsIn_operands left right fun a b => ?_
  by_cases zero : b.isZero = true
  · rw [if_pos zero]
    exact .divisionByZero divides
  · rw [if_neg zero]
    exact endsIn_checked arithmetic (compute a b)

end

theorem endsIn_binaryOp (op : BinaryOp) (left right : Value) :
    EndsIn Value.IsComputed (op.Fault left right) (op.apply left right) := by
  cases op with
  | strictEquals => exact .boolean _
  | strictNotEquals => exact .boolean _
  | equals => exact (endsIn_looseEquals left right).bind fun _ _ => .boolean _
  | notEquals => exact (endsIn_looseEquals left right).bind fun _ _ => .boolean _
  | greater => exact (endsIn_order left right).bind fun _ _ => .boolean _
  | less => exact (endsIn_order left right).bind fun _ _ => .boolean _
  | greaterEquals => exact (endsIn_order left right).bind fun _ _ => .boolean _
  | lessEquals => exact (endsIn_order left right).bind fun _ _ => .boolean _
  | add => exact endsIn_arithmetic rfl _ left right
  | subtract => exact endsIn_arithmetic rfl _ left right
  | multiply => exact endsIn_arithmetic rfl _ left right
  | divide => exact endsIn_division (.inl rfl) _ left right
  | remainder => exact endsIn_division (.inr rfl) _ left right

end FieldFormula
