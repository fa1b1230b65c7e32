import FieldFormula.Proofs.Number.Order
import FieldFormula.Proofs.Operators
import FieldFormula.Proofs.Text.CodePointOrder
import Mathlib.Data.List.Basic

/-!
# The relational operators

The four relational operators are four questions about one comparison. Two texts compare by their
code points, and all other values by the numbers that they are read as; `Value.Compares` says so of
the values themselves. As every reading is finite, any two readings compare.

Which of the two comparisons is made depends on both values, so a text may compare with another text
in one way and with a number in the other way. Less is transitive as long as three values do not mix
the two, that is, unless exactly two of them are texts.

## Main result

`relational_coherent`: how the results of the four operators fit together.
-/

namespace FieldFormula

namespace Value

def isText : Value → Bool
  | .text _ => true
  | _ => false

@[simp] theorem isText_text (text : String) : (Value.text text).isText = true :=
  rfl

/-! ### Readings -/

theorem asNumber_of_read {value : Value} {n : Binary64} (read : value.toNumber? = some n) :
    value.asNumber = .ok n := by
  rw [asNumber, read]

theorem asNumber_of_unread {value : Value} (noReading : value.toNumber? = none) :
    value.asNumber = .error (.notNumeric value) := by
  rw [asNumber, noReading]

/-! ### How values compare -/

/-- The order of two values, if they have one. -/
inductive Compares : Value → Value → Ordering → Prop
  | texts {left right : String} {order : Ordering}
    (ordered : compare (Text.codePoints left.toList) (Text.codePoints right.toList) = order) :
    Compares (.text left) (.text right) order
  | numbers {left right : Value} {x y : Binary64} {order : Ordering}
    (notTexts : (left.isText && right.isText) = false) (readLeft : left.toNumber? = some x)
    (readRight : right.toNumber? = some y)
    (ordered : compare x.signedUnits y.signedUnits = order) :
    Compares left right order

/-- Values that are not both texts compare as numbers, the left one being read first. -/
theorem order_of_notTexts {left right : Value} (notTexts : (left.isText && right.isText) = false) :
    left.order right = do
      let x ← left.asNumber
      let y ← right.asNumber
      return (x.compare? y).getD .eq := by
  cases left with
  | text s =>
    cases right with
    | text t => cases notTexts
    | _ => rfl
  | _ => rfl

theorem Compares.order_eq {left right : Value} {order : Ordering}
    (compares : Compares left right order) : left.order right = .ok order := by
  cases compares with
  | texts ordered =>
    rw [Value.order, Text.compareTexts_eq_codePoints, ordered]
  | numbers notTexts readLeft readRight ordered =>
    have total := Binary64.compare?_of_isFinite (isFinite_of_toNumber? readLeft)
      (isFinite_of_toNumber? readRight)
    rw [order_of_notTexts notTexts, asNumber_of_read readLeft, asNumber_of_read readRight]
    simp [bind, Except.bind, pure, Except.pure, total, ordered]

/-- Two values do not compare because one of them, when numbers are needed, is none. -/
structure Incomparable (left right : Value) (error : EvaluationError) : Prop where
  notTexts : (left.isText && right.isText) = false
  unread : left.toNumber? = none ∨ right.toNumber? = none
  failed : left.order right = .error error

theorem compares_or_incomparable (left right : Value) :
    (∃ order, Compares left right order) ∨ ∃ error, Incomparable left right error := by
  cases notTexts : left.isText && right.isText with
  | true =>
    cases left with
    | text s =>
      cases right with
      | text t => exact .inl ⟨_, .texts rfl⟩
      | _ => cases notTexts
    | _ => cases notTexts
  | false =>
    have asNumbers := order_of_notTexts notTexts
    cases readLeft : left.toNumber? with
    | none =>
      rw [asNumber_of_unread readLeft] at asNumbers
      exact .inr ⟨_, notTexts, .inl readLeft, asNumbers⟩
    | some x =>
      cases readRight : right.toNumber? with
      | none =>
        rw [asNumber_of_read readLeft, asNumber_of_unread readRight] at asNumbers
        exact .inr ⟨_, notTexts, .inr readRight, asNumbers⟩
      | some y => exact .inl ⟨_, .numbers notTexts readLeft readRight rfl⟩

theorem order_eq_ok_iff {left right : Value} {order : Ordering} :
    left.order right = .ok order ↔ Compares left right order := by
  refine ⟨fun ordered => ?_, Compares.order_eq⟩
  rcases compares_or_incomparable left right with ⟨other, compares⟩ | ⟨error, fails⟩
  · have same := compares.order_eq
    rw [ordered] at same
    cases same
    exact compares
  · have failed := fails.failed
    rw [ordered] at failed
    cases failed

namespace Compares

variable {a b c : Value} {order : Ordering}

theorem swap (compares : Compares a b order) : Compares b a order.swap := by
  cases compares with
  | texts ordered => exact .texts (by rw [Std.OrientedOrd.eq_swap, ordered])
  | numbers notTexts readLeft readRight ordered =>
    exact .numbers (by rw [Bool.and_comm, notTexts]) readRight readLeft
      (by rw [Std.OrientedOrd.eq_swap, ordered])

/-- Less is transitive if all values are texts or no two are. -/
theorem trans (first : Compares a b .lt) (second : Compares b c .lt)
    (unmixed : [a, b, c].countP isText ≠ 2) : Compares a c .lt := by
  cases first with
  | texts ordered =>
    cases second with
    | texts ordered' => exact .texts (Std.TransCmp.lt_trans ordered ordered')
    | numbers notTexts _ _ _ =>
      -- The third value is no text, and the other two are.
      have last : c.isText = false := notTexts
      exact absurd (by simp [List.countP_cons, last]) unmixed
  | numbers notTexts readLeft readMiddle ordered =>
    cases second with
    | texts ordered' =>
      have outer : a.isText = false := by simpa using notTexts
      exact absurd (by simp [List.countP_cons, outer]) unmixed
    | numbers notTexts' readMiddle' readRight ordered' =>
      obtain rfl := Option.some.inj (readMiddle.symm.trans readMiddle')
      refine .numbers ?_ readLeft readRight (Std.TransCmp.lt_trans ordered ordered')
      cases outer : a.isText with
      | false => rfl
      | true =>
        cases last : c.isText with
        | false => rfl
        | true =>
          have inner : b.isText = false := by simpa [outer] using notTexts
          exact absurd (by simp [outer, inner, last]) unmixed

end Compares

end Value

/-! ### The operators -/

/-- The relational operators. -/
def BinaryOp.relational : List BinaryOp :=
  [.less, .greater, .lessEquals, .greaterEquals]

/-- The relational operators yield these truth values. -/
structure Value.Related (left right : Value) (less greater atMost atLeast : Bool) : Prop where
  less : BinaryOp.less.apply left right = .ok (.boolean less)
  greater : BinaryOp.greater.apply left right = .ok (.boolean greater)
  atMost : BinaryOp.lessEquals.apply left right = .ok (.boolean atMost)
  atLeast : BinaryOp.greaterEquals.apply left right = .ok (.boolean atLeast)

theorem Value.Compares.related {left right : Value} {order : Ordering}
    (compares : Compares left right order) :
    Related left right (order == .lt) (order == .gt) (order != .gt) (order != .lt) := by
  constructor <;> rw [BinaryOp.apply, compares.order_eq] <;> rfl

theorem Value.Incomparable.apply_eq {left right : Value} {error : EvaluationError}
    (fails : Incomparable left right error) :
    ∀ op ∈ BinaryOp.relational, op.apply left right = .error error := by
  simp [BinaryOp.relational, BinaryOp.apply, fails.failed, bind, Except.bind]

theorem less_eq_true_iff {left right : Value} :
    BinaryOp.less.apply left right = .ok (.boolean true) ↔ left.Compares right .lt := by
  rw [← Value.order_eq_ok_iff, BinaryOp.apply]
  cases left.order right with
  | ok order => cases order <;> simp [bind, Except.bind, pure, Except.pure]
  | error error => simp [bind, Except.bind]

/-- **The relational operators are one comparison.** On two values they all fail with the same error,
because the values are not both texts and one of them is no number, or they all yield truth values. In
that case exactly one of less, greater and both of the others holds, `<=` denies `>`, `>=` denies `<`,
and on the exchanged values they yield the mirrored results. Two texts compare by their code points,
which is also the order of their bytes in UTF-8. And less is transitive, unless exactly two of the
three values are texts. -/
theorem relational_coherent (a b c : Value) :
    ((∃ error, (∀ op ∈ BinaryOp.relational, op.apply a b = .error error) ∧
        (a.isText && b.isText) = false ∧ (a.toNumber? = none ∨ b.toNumber? = none)) ∨
      ∃ less greater atMost atLeast, a.Related b less greater atMost atLeast ∧
        [less, greater, atMost && atLeast].count true = 1 ∧
        atMost = !greater ∧ atLeast = !less ∧ b.Related a greater less atLeast atMost) ∧
    (∀ s t : String, ∃ order, (Value.text s).Related (.text t) (order == .lt) (order == .gt)
        (order != .gt) (order != .lt) ∧
      order = compare (Text.codePoints s.toList) (Text.codePoints t.toList) ∧
      order = compare (Text.utf8 s) (Text.utf8 t)) ∧
    ([a, b, c].countP Value.isText ≠ 2 →
      BinaryOp.less.apply a b = .ok (.boolean true) →
      BinaryOp.less.apply b c = .ok (.boolean true) →
      BinaryOp.less.apply a c = .ok (.boolean true)) := by
  refine ⟨?_, fun s t => ?_, fun unmixed first second => ?_⟩
  · rcases Value.compares_or_incomparable a b with ⟨order, compares⟩ | ⟨error, fails⟩
    · refine .inr ⟨_, _, _, _, compares.related, ?_, ?_, ?_, ?_⟩
      · cases order <;> rfl
      · cases order <;> rfl
      · cases order <;> rfl
      · have mirrored := compares.swap.related
        cases order <;> exact mirrored
    · exact .inl ⟨error, fails.apply_eq, fails.notTexts, fails.unread⟩
  · exact ⟨_, (Value.Compares.texts rfl).related, rfl, (Text.compare_utf8 s t).symm⟩
  · rw [less_eq_true_iff] at first second ⊢
    exact first.trans second unmixed

/-- One text among values that compare as numbers, and three texts, one of which has a character of
four bytes. -/
theorem relational_coherent_unmixed :
    let less (a b : Value) := BinaryOp.less.apply a b = .ok (.boolean true)
    ([.null, .boolean true, .text " 2 "].countP Value.isText ≠ 2 ∧
      less .null (.boolean true) ∧ less (.boolean true) (.text " 2 ") ∧ less .null (.text " 2 ")) ∧
    ([.text "10", .text "9", .text "😀"].countP Value.isText ≠ 2 ∧
      less (.text "10") (.text "9") ∧ less (.text "9") (.text "😀") ∧
      less (.text "10") (.text "😀")) := by
  intro less
  have numbers : less .null (.boolean true) ∧ less (.boolean true) (.text " 2 ") := by
    decide +kernel
  have texts : less (.text "10") (.text "9") ∧ less (.text "9") (.text "😀") := by
    decide +kernel
  exact ⟨⟨by decide, numbers.1, numbers.2,
      (relational_coherent _ _ _).2.2 (by decide) numbers.1 numbers.2⟩,
    ⟨by decide, texts.1, texts.2, (relational_coherent _ _ _).2.2 (by decide) texts.1 texts.2⟩⟩

/-- With exactly two texts the outer two may compare in the other way than the inner ones. -/
example :
    BinaryOp.less.apply (.text "10") (.text "9") = .ok (.boolean true) ∧
      BinaryOp.less.apply (.text "9") (.number (.ofInt 10)) = .ok (.boolean true) ∧
      BinaryOp.less.apply (.text "10") (.number (.ofInt 10)) = .ok (.boolean false) := by
  decide +kernel

end FieldFormula
