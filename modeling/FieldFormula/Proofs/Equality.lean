import FieldFormula.Proofs.Comparison
import FieldFormula.Proofs.FiniteNumbers

/-!
# The equality operators

Strict equality never converts. Loose equality is strict as well, unless exactly one of the two values
is a boolean; then both are read as numbers. A boolean always has a reading, so it is the other value
that decides whether there is a result, on whichever side it stands.

Values that are loosely equal compare as equal, but for the infinities: an infinity equals itself, and
has no place in the order.

## Main result

`equality_coherent`: how strict equality, loose equality and the order fit together.
-/

namespace FieldFormula

namespace Value

def isBoolean : Value → Bool
  | .boolean _ => true
  | _ => false

/-! ### Strict equality -/

theorem strictEquals_comm (a b : Value) : a.strictEquals b = b.strictEquals a := by
  cases a with
  | null => cases b <;> rfl
  | boolean x =>
    cases b with
    | boolean y => exact Bool.beq_comm
    | _ => rfl
  | number x =>
    cases b with
    | number y => exact x.equals_comm y
    | _ => rfl
  | text s =>
    cases b with
    | text t => exact BEq.comm
    | _ => rfl

theorem isBoolean_eq_of_strictEquals {a b : Value} (equal : a.strictEquals b = true) :
    a.isBoolean = b.isBoolean := by
  cases a with
  | boolean x =>
    cases b with
    | boolean y => rfl
    | _ => cases equal
  | _ =>
    cases b with
    | boolean y => cases equal
    | _ => rfl

/-! ### Loose equality -/

theorem looseEquals_of_alike {a b : Value} (alike : a.isBoolean = b.isBoolean) :
    a.looseEquals b = .ok (a.strictEquals b) := by
  cases a with
  | boolean x =>
    cases b with
    | boolean y => rfl
    | _ => cases alike
  | _ =>
    cases b with
    | boolean y => cases alike
    | _ => rfl

theorem looseEquals_of_unlike {a b : Value} (unlike : a.isBoolean ≠ b.isBoolean) :
    a.looseEquals b = do
      let x ← a.asNumber
      let y ← b.asNumber
      return x.equals y := by
  cases a with
  | boolean x =>
    cases b with
    | boolean y => cases unlike rfl
    | _ => rfl
  | _ =>
    cases b with
    | boolean y => rfl
    | _ => cases unlike rfl

/-- A boolean always has a reading. -/
theorem isBoolean_of_unread {value : Value} (noReading : value.toNumber? = none) :
    value.isBoolean = false := by
  cases value with
  | boolean holds => simp [toNumber?] at noReading
  | _ => rfl

/-- How loose equality of two values ends. -/
inductive Equates (a b : Value) : Except EvaluationError Bool → Prop
  | alike (alike : a.isBoolean = b.isBoolean) : Equates a b (.ok (a.strictEquals b))
  | numbers {x y : Binary64} (unlike : a.isBoolean ≠ b.isBoolean)
    (readLeft : a.toNumber? = some x) (readRight : b.toNumber? = some y) :
    Equates a b (.ok (x.equals y))
  | unreadLeft (boolean : b.isBoolean = true) (noReading : a.toNumber? = none) :
    Equates a b (.error (.notNumeric a))
  | unreadRight (boolean : a.isBoolean = true) (noReading : b.toNumber? = none) :
    Equates a b (.error (.notNumeric b))

theorem equates_looseEquals (a b : Value) : Equates a b (a.looseEquals b) := by
  by_cases alike : a.isBoolean = b.isBoolean
  · rw [looseEquals_of_alike alike]
    exact .alike alike
  · rw [looseEquals_of_unlike alike]
    cases readLeft : a.toNumber? with
    | none =>
      rw [asNumber_of_unread readLeft]
      have boolean : b.isBoolean = true := by simpa [isBoolean_of_unread readLeft] using alike
      exact .unreadLeft boolean readLeft
    | some x =>
      cases readRight : b.toNumber? with
      | none =>
        rw [asNumber_of_read readLeft, asNumber_of_unread readRight]
        have boolean : a.isBoolean = true := by simpa [isBoolean_of_unread readRight] using alike
        exact .unreadRight boolean readRight
      | some y =>
        rw [asNumber_of_read readLeft, asNumber_of_read readRight]
        exact .numbers alike readLeft readRight

/-- Loose equality ends in one way only. -/
theorem Equates.looseEquals_eq {a b : Value} {result : Except EvaluationError Bool}
    (equates : Equates a b result) : a.looseEquals b = result := by
  cases equates with
  | alike alike => exact looseEquals_of_alike alike
  | numbers unlike readLeft readRight =>
    rw [looseEquals_of_unlike unlike, asNumber_of_read readLeft, asNumber_of_read readRight]
    rfl
  | unreadLeft boolean noReading =>
    have unlike : a.isBoolean ≠ b.isBoolean := by simp [isBoolean_of_unread noReading, boolean]
    rw [looseEquals_of_unlike unlike, asNumber_of_unread noReading]
    rfl
  | unreadRight boolean noReading =>
    have unlike : a.isBoolean ≠ b.isBoolean := by simp [isBoolean_of_unread noReading, boolean]
    -- The boolean on the left is read before the other value is found to be no number.
    obtain ⟨x, readLeft⟩ : ∃ x, a.toNumber? = some x := by
      rw [← Option.ne_none_iff_exists']
      intro unread
      simp [isBoolean_of_unread unread] at boolean
    rw [looseEquals_of_unlike unlike, asNumber_of_read readLeft, asNumber_of_unread noReading]
    rfl

theorem Equates.swap {a b : Value} {result : Except EvaluationError Bool}
    (equates : Equates a b result) : Equates b a result := by
  cases equates with
  | alike alike =>
    rw [strictEquals_comm]
    exact .alike alike.symm
  | numbers unlike readLeft readRight =>
    rw [Binary64.equals_comm]
    exact .numbers unlike.symm readRight readLeft
  | unreadLeft boolean noReading => exact .unreadRight boolean noReading
  | unreadRight boolean noReading => exact .unreadLeft boolean noReading

/-- **Loose equality is symmetric,** also in its errors. -/
theorem looseEquals_comm (a b : Value) : a.looseEquals b = b.looseEquals a :=
  (equates_looseEquals a b).swap.looseEquals_eq.symm

/-! ### Equality and order -/

theorem compares_of_equals {a b : Value} {x y : Binary64}
    (notTexts : (a.isText && b.isText) = false) (readLeft : a.toNumber? = some x)
    (readRight : b.toNumber? = some y) (equal : x.equals y = true) : a.Compares b .eq := by
  have units := (Binary64.equals_iff_of_isFinite (isFinite_of_toNumber? readLeft)
    (isFinite_of_toNumber? readRight)).1 equal
  exact .numbers notTexts readLeft readRight (Std.LawfulEqOrd.compare_eq_iff_eq.2 units)

theorem compares_of_strictEquals {a b : Value} (equal : a.strictEquals b = true)
    (finite : a.IsFinite) (finite' : b.IsFinite) : a.Compares b .eq := by
  cases a with
  | null =>
    cases b with
    | null => exact .numbers rfl rfl rfl Std.ReflOrd.compare_self
    | _ => cases equal
  | boolean holds =>
    cases b with
    | boolean other =>
      obtain rfl : holds = other := by simpa [strictEquals] using equal
      exact .numbers rfl rfl rfl Std.ReflOrd.compare_self
    | _ => cases equal
  | number x =>
    cases b with
    | number y =>
      exact compares_of_equals rfl (if_pos (finite x rfl)) (if_pos (finite' y rfl)) equal
    | _ => cases equal
  | text s =>
    cases b with
    | text t =>
      obtain rfl : s = t := by simpa [strictEquals] using equal
      exact .texts Std.ReflOrd.compare_self
    | _ => cases equal

theorem notTexts_of_unlike {a b : Value} (unlike : a.isBoolean ≠ b.isBoolean) :
    (a.isText && b.isText) = false := by
  cases a with
  | text s =>
    cases b with
    | text t => cases unlike rfl
    | _ => rfl
  | _ => rfl

theorem compares_of_looseEquals {a b : Value} (equal : a.looseEquals b = .ok true)
    (finite : a.IsFinite) (finite' : b.IsFinite) : a.Compares b .eq := by
  have equates := equates_looseEquals a b
  rw [equal] at equates
  generalize ended : Except.ok (ε := EvaluationError) true = result at equates
  cases equates with
  | alike alike => exact compares_of_strictEquals (Except.ok.inj ended).symm finite finite'
  | numbers unlike readLeft readRight =>
    exact compares_of_equals (notTexts_of_unlike unlike) readLeft readRight
      (Except.ok.inj ended).symm
  | unreadLeft => cases ended
  | unreadRight => cases ended

/-- One of two values is a boolean, and the other one is none and has no reading as a number. -/
def Unequatable (a b : Value) : Prop :=
  (a.isBoolean = true ∧ b.isBoolean = false ∧ b.toNumber? = none) ∨
    (b.isBoolean = true ∧ a.isBoolean = false ∧ a.toNumber? = none)

theorem looseEquals_eq_error_iff {a b : Value} :
    (∃ error, a.looseEquals b = .error error) ↔ Unequatable a b := by
  constructor
  · rintro ⟨error, failed⟩
    have equates := equates_looseEquals a b
    rw [failed] at equates
    cases equates with
    | unreadLeft boolean noReading => exact .inr ⟨boolean, isBoolean_of_unread noReading, noReading⟩
    | unreadRight boolean noReading => exact .inl ⟨boolean, isBoolean_of_unread noReading, noReading⟩
  · rintro (⟨boolean, -, noReading⟩ | ⟨boolean, -, noReading⟩)
    · exact ⟨_, (Equates.unreadRight boolean noReading).looseEquals_eq⟩
    · exact ⟨_, (Equates.unreadLeft boolean noReading).looseEquals_eq⟩

end Value

/-! ### The operators -/

theorem equals_eq_true_iff {a b : Value} :
    BinaryOp.equals.apply a b = .ok (.boolean true) ↔ a.looseEquals b = .ok true := by
  rw [BinaryOp.apply]
  cases a.looseEquals b <;> simp [bind, Except.bind, pure, Except.pure]

theorem equals_eq_error_iff {a b : Value} {error : EvaluationError} :
    BinaryOp.equals.apply a b = .error error ↔ a.looseEquals b = .error error := by
  rw [BinaryOp.apply]
  cases a.looseEquals b <;> simp [bind, Except.bind, pure, Except.pure]

/-- **The equality operators agree with each other and with the order.** `==` ends in the same way on
the exchanged values, also if it fails. It fails exactly if one of the values is a boolean and the
other one is none and has no reading as a number. Values that are equal by `===` are equal by `==`. And
if values are equal by `==` and none is a number that is not finite, then `<=` and `>=` hold. -/
theorem equality_coherent (a b : Value) :
    BinaryOp.equals.apply a b = BinaryOp.equals.apply b a ∧
    ((∃ error, BinaryOp.equals.apply a b = .error error) ↔ a.Unequatable b) ∧
    (BinaryOp.strictEquals.apply a b = .ok (.boolean true) →
      BinaryOp.equals.apply a b = .ok (.boolean true)) ∧
    (BinaryOp.equals.apply a b = .ok (.boolean true) → a.IsFinite → b.IsFinite →
      BinaryOp.lessEquals.apply a b = .ok (.boolean true) ∧
        BinaryOp.greaterEquals.apply a b = .ok (.boolean true)) := by
  refine ⟨?_, ?_, fun strict => ?_, fun equal finite finite' => ?_⟩
  · simp only [BinaryOp.apply, a.looseEquals_comm b]
  · simp only [equals_eq_error_iff, Value.looseEquals_eq_error_iff]
  · have equal : a.strictEquals b = true := by simpa [BinaryOp.apply] using strict
    rw [equals_eq_true_iff, Value.looseEquals_of_alike (Value.isBoolean_eq_of_strictEquals equal),
      equal]
  · have related :=
      (Value.compares_of_looseEquals (equals_eq_true_iff.1 equal) finite finite').related
    exact ⟨related.atMost, related.atLeast⟩

/-- The two zeros, which are equal although they differ, and a boolean and a blank text, which are
equal but not strictly so. -/
theorem equality_coherent_zeros :
    let equal (op : BinaryOp) (a b : Value) := op.apply a b = .ok (.boolean true)
    let minusZero : Value := .number (.zero true)
    let plusZero : Value := .number (.zero false)
    (equal .strictEquals minusZero plusZero ∧ equal .equals minusZero plusZero ∧
      minusZero.IsFinite ∧ plusZero.IsFinite ∧
      equal .lessEquals minusZero plusZero ∧ equal .greaterEquals minusZero plusZero) ∧
    (equal .equals (.boolean false) (.text " ") ∧
      (Value.boolean false).IsFinite ∧ (Value.text " ").IsFinite ∧
      equal .lessEquals (.boolean false) (.text " ") ∧
      equal .greaterEquals (.boolean false) (.text " ")) := by
  intro equal minusZero plusZero
  have strict : equal .strictEquals minusZero plusZero := by
    decide +kernel
  have blank : equal .equals (.boolean false) (.text " ") := by
    decide +kernel
  have finite (negative : Bool) : (Value.number (.zero negative)).IsFinite :=
    Value.isFinite_number rfl
  have zeros : equal .equals minusZero plusZero := (equality_coherent _ _).2.2.1 strict
  exact ⟨⟨strict, zeros, finite true, finite false,
      (equality_coherent _ _).2.2.2 zeros (finite true) (finite false)⟩,
    ⟨blank, Value.isFinite_boolean false, Value.isFinite_text " ",
      (equality_coherent _ _).2.2.2 blank (Value.isFinite_boolean false)
        (Value.isFinite_text " ")⟩⟩

/-- An infinity equals itself, but has no place in the order. -/
example :
    BinaryOp.equals.apply (.number (.infinite false)) (.number (.infinite false)) =
        .ok (.boolean true) ∧
      BinaryOp.lessEquals.apply (.number (.infinite false)) (.number (.infinite false)) =
        .error (.notNumeric (.number (.infinite false))) := by
  decide +kernel

end FieldFormula
