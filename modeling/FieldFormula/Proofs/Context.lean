import FieldFormula.Proofs.Outcome

/-!
# Places in a formula

A `Formula.Context` is a formula with a hole: the operators on the way from the root to the hole, each
with its other operands. What it makes of the part in its hole is a function of the outcome of the
part alone, and each operator on the way is such a function too.

An operator either needs the operand in question, and then passes on its error, or has its outcome
without it. The same holds of a whole context, since it holds of compositions.

## Main result

`startingAt_fill_of_error`: a part that fails makes the whole formula fail by the same error, or does
not matter at all.
-/

namespace FieldFormula

/-! ### Failing closed -/

/-- What depends on a result passes on its error, or is the same for every result. -/
def FailsClosed (outcomeOn : Except EvaluationError Value → Except EvaluationError Value) : Prop :=
  ∀ error, outcomeOn (.error error) = .error error ∨
    ∀ result, outcomeOn result = outcomeOn (.error error)

namespace FailsClosed

theorem hole : FailsClosed fun result => result :=
  fun _ => .inl rfl

theorem const (outcome : Except EvaluationError Value) : FailsClosed fun _ => outcome :=
  fun _ => .inr fun _ => rfl

theorem bind (next : Value → Except EvaluationError Value) :
    FailsClosed fun result => result >>= next :=
  fun _ => .inl rfl

theorem comp {outer inner : Except EvaluationError Value → Except EvaluationError Value}
    (above : FailsClosed outer) (below : FailsClosed inner) :
    FailsClosed fun result => outer (inner result) := by
  intro error
  rcases below error with passed | unread
  · rcases above error with passedOn | ignored
    · left
      calc outer (inner (.error error)) = outer (.error error) := by rw [passed]
        _ = .error error := passedOn
    · right
      intro result
      calc outer (inner result) = outer (.error error) := ignored (inner result)
        _ = outer (inner (.error error)) := by rw [passed]
  · right
    intro result
    exact congrArg outer (unread result)

/-- The result may be looked at only after another one is known, if at all. -/
theorem after {first : Except EvaluationError Value}
    {next : Value → Except EvaluationError Value → Except EvaluationError Value}
    (later : ∀ value, FailsClosed (next value)) :
    FailsClosed fun result => first >>= fun value => next value result := by
  cases first with
  | ok value => exact later value
  | error error => exact const (.error error)

theorem ite {condition : Prop} [Decidable condition]
    {holds fails : Except EvaluationError Value → Except EvaluationError Value}
    (here : FailsClosed holds) (there : FailsClosed fails) :
    FailsClosed fun result => if condition then holds result else fails result := by
  by_cases decided : condition
  · simpa only [decided, if_true] using here
  · simpa only [decided, if_false] using there

end FailsClosed

namespace Formula

variable {σ : Type} [Scope σ] {maxDepth : Nat} {scope : σ}

/-! ### Frames and contexts -/

/-- An operator with all its operands but one. -/
inductive Frame where
  | unary (op : PrefixOp)
  | binaryLeft (op : BinaryOp) (right : Formula)
  | binaryRight (op : BinaryOp) (left : Formula)
  | logicalLeft (op : LogicalOp) (right : Formula)
  | logicalRight (op : LogicalOp) (left : Formula)
  | conditionalTest (consequent alternate : Formula)
  | conditionalConsequent (test alternate : Formula)
  | conditionalAlternate (test consequent : Formula)
  deriving DecidableEq

def Frame.fill : Frame → Formula → Formula
  | .unary op, part => .unary op part
  | .binaryLeft op right, part => .binary op part right
  | .binaryRight op left, part => .binary op left part
  | .logicalLeft op right, part => .logical op part right
  | .logicalRight op left, part => .logical op left part
  | .conditionalTest consequent alternate, part => .conditional part consequent alternate
  | .conditionalConsequent test alternate, part => .conditional test part alternate
  | .conditionalAlternate test consequent, part => .conditional test consequent part

/-- A formula with a hole: the frames from the root to the hole, one for each ancestor of the hole. -/
abbrev Context := List Frame

def Context.fill (context : Context) (part : Formula) : Formula :=
  context.foldr Frame.fill part

@[simp] theorem Context.fill_nil (part : Formula) : Context.fill [] part = part :=
  rfl

@[simp] theorem Context.fill_cons (frame : Frame) (context : Context) (part : Formula) :
    Context.fill (frame :: context) part = frame.fill (context.fill part) :=
  rfl

/-- The children of a formula are the parts that a frame can be put around to give the formula. -/
theorem mem_children_iff_exists_frame {part formula : Formula} :
    part ∈ formula.children ↔ ∃ frame : Frame, frame.fill part = formula := by
  constructor
  · intro member
    cases formula with
    | literal value => simp [children] at member
    | identifier name => simp [children] at member
    | unary op operand =>
      obtain rfl : part = operand := by simpa [children] using member
      exact ⟨.unary op, rfl⟩
    | binary op left right =>
      rcases (by simpa [children] using member : part = left ∨ part = right) with rfl | rfl
      · exact ⟨.binaryLeft op right, rfl⟩
      · exact ⟨.binaryRight op left, rfl⟩
    | logical op left right =>
      rcases (by simpa [children] using member : part = left ∨ part = right) with rfl | rfl
      · exact ⟨.logicalLeft op right, rfl⟩
      · exact ⟨.logicalRight op left, rfl⟩
    | conditional test consequent alternate =>
      rcases (by simpa [children] using member :
        part = test ∨ part = consequent ∨ part = alternate) with rfl | rfl | rfl
      · exact ⟨.conditionalTest consequent alternate, rfl⟩
      · exact ⟨.conditionalConsequent test alternate, rfl⟩
      · exact ⟨.conditionalAlternate test consequent, rfl⟩
  · rintro ⟨frame, rfl⟩
    cases frame <;> simp [Frame.fill, children]

theorem exists_context_of_mem_walk {part formula : Formula} (member : part ∈ formula.walk) :
    ∃ context : Context, context.fill part = formula := by
  rw [walk_eq, List.mem_cons, List.mem_flatMap] at member
  rcases member with rfl | ⟨child, childMember, below⟩
  · exact ⟨[], rfl⟩
  · obtain ⟨context, rfl⟩ := exists_context_of_mem_walk below
    obtain ⟨frame, rfl⟩ := mem_children_iff_exists_frame.1 childMember
    exact ⟨frame :: context, rfl⟩
termination_by formula.depth
decreasing_by exact depth_lt_of_mem_children childMember

/-- Contexts reach every place: the walk of a formula meets just the parts that have one around
them. -/
theorem mem_walk_iff_exists_context {part formula : Formula} :
    part ∈ formula.walk ↔ ∃ context : Context, context.fill part = formula := by
  constructor
  · exact exists_context_of_mem_walk
  · rintro ⟨context, rfl⟩
    induction context with
    | nil => exact mem_walk_self part
    | cons frame context ih =>
      apply walk_subset_of_mem_children
      · exact mem_children_iff_exists_frame.2 ⟨frame, rfl⟩
      · exact ih

/-! ### Outcomes in a frame -/

/-- The outcome of the formula around a part with the given outcome. -/
def Frame.outcome (maxDepth : Nat) (scope : σ) (nesting : Nat) (frame : Frame)
    (part : Except EvaluationError Value) : Except EvaluationError Value :=
  if maxDepth ≤ nesting then
    .error (.depthExceeded maxDepth)
  else
    match frame with
    | .unary op => part >>= op.apply
    | .binaryLeft op right =>
      part >>= fun leftValue =>
        right.outcome maxDepth scope (nesting + 1) >>= op.apply leftValue
    | .binaryRight op left =>
      left.outcome maxDepth scope (nesting + 1) >>= fun leftValue => part >>= op.apply leftValue
    | .logicalLeft op right =>
      part >>= fun leftValue =>
        if op.isDecidedBy leftValue then .ok leftValue
        else right.outcome maxDepth scope (nesting + 1)
    | .logicalRight op left =>
      left.outcome maxDepth scope (nesting + 1) >>= fun leftValue =>
        if op.isDecidedBy leftValue then .ok leftValue else part
    | .conditionalTest consequent alternate =>
      part >>= fun testValue =>
        if testValue.isTruthy then consequent.outcome maxDepth scope (nesting + 1)
        else alternate.outcome maxDepth scope (nesting + 1)
    | .conditionalConsequent test alternate =>
      test.outcome maxDepth scope (nesting + 1) >>= fun testValue =>
        if testValue.isTruthy then part else alternate.outcome maxDepth scope (nesting + 1)
    | .conditionalAlternate test consequent =>
      test.outcome maxDepth scope (nesting + 1) >>= fun testValue =>
        if testValue.isTruthy then consequent.outcome maxDepth scope (nesting + 1) else part

theorem Frame.outcome_fill (frame : Frame) (part : Formula) (nesting : Nat) :
    (frame.fill part).outcome maxDepth scope nesting =
      frame.outcome maxDepth scope nesting (part.outcome maxDepth scope (nesting + 1)) := by
  cases frame <;> exact outcomeOfNode_of_children (by simp [children])

theorem Frame.failsClosed_outcome (maxDepth : Nat) (scope : σ) (nesting : Nat) (frame : Frame) :
    FailsClosed (frame.outcome maxDepth scope nesting) := by
  refine .ite (.const _) ?_
  cases frame with
  | unary op => exact .bind _
  | binaryLeft op right => exact .bind _
  | binaryRight op left => exact .after fun _ => .bind _
  | logicalLeft op right => exact .bind _
  | logicalRight op left => exact .after fun _ => .ite (.const _) .hole
  | conditionalTest consequent alternate => exact .bind _
  | conditionalConsequent test alternate => exact .after fun _ => .ite .hole (.const _)
  | conditionalAlternate test consequent => exact .after fun _ => .ite (.const _) .hole

/-! ### Outcomes in a context -/

/-- The outcome of the formula around a part with the given outcome. -/
def Context.outcome (maxDepth : Nat) (scope : σ) :
    (nesting : Nat) → Context → Except EvaluationError Value → Except EvaluationError Value
  | _, [], part => part
  | nesting, frame :: context, part =>
    frame.outcome maxDepth scope nesting
      (Context.outcome maxDepth scope (nesting + 1) context part)

/-- The part starts with its ancestors counted, and its outcome is all that the formula around it
sees of it. -/
theorem Context.outcome_fill (context : Context) (part : Formula) (nesting : Nat) :
    (context.fill part).outcome maxDepth scope nesting =
      context.outcome maxDepth scope nesting
        (part.outcome maxDepth scope (nesting + context.length)) := by
  induction context generalizing nesting with
  | nil => rfl
  | cons frame context ih =>
    have levels : nesting + (frame :: context).length = nesting + 1 + context.length := by
      simp only [List.length_cons]
      omega
    rw [Context.fill_cons, frame.outcome_fill, ih, levels, Context.outcome]

theorem Context.failsClosed_outcome (maxDepth : Nat) (scope : σ) (nesting : Nat)
    (context : Context) :
    FailsClosed (context.outcome maxDepth scope nesting) := by
  induction context generalizing nesting with
  | nil => exact .hole
  | cons frame context ih =>
    exact (frame.failsClosed_outcome maxDepth scope nesting).comp (ih (nesting + 1))

/-- **A failing part fails the whole or does not matter.** Let a part of a formula end in an error,
evaluated where it stands: with the count raised by one for each of its ancestors. Then the formula ends
in the same error, or its evaluation is the same with anything else in place of the part: in value, in
the count and in the log. -/
theorem startingAt_fill_of_error {context : Context} {part : Formula} {nesting : Nat}
    {error : EvaluationError}
    (fails : ((part.eval maxDepth scope).startingAt (nesting + context.length)).value.1 =
      .error error) :
    (((context.fill part).eval maxDepth scope).startingAt nesting).value.1 = .error error ∨
      ∀ other : Formula, ((context.fill other).eval maxDepth scope).startingAt nesting =
        ((context.fill part).eval maxDepth scope).startingAt nesting := by
  simp only [startingAt_eval_eq, context.outcome_fill] at fails ⊢
  rw [fails]
  rcases context.failsClosed_outcome maxDepth scope nesting error with passed | unread
  · exact .inl passed
  · exact .inr fun other => by rw [unread]

/-- A name that no formula may have, behind an operand that decides without it. -/
theorem startingAt_fill_of_error_skipped :
    let context : Context :=
      [.conditionalTest (.literal (.text "yes")) (.literal (.text "no")),
        .logicalRight .and (.identifier "ready"), .unary .not]
    let part : Formula := .identifier "not a name"
    let scope : List (String × Value) := [("ready", .boolean false)]
    ((part.eval 9 scope).startingAt (0 + context.length)).value.1 =
        .error (.disallowed ⟨.identifier, .invalidName "not a name"⟩) ∧
      (((context.fill part).eval 9 scope).startingAt 0).value.1 = .ok (.text "no") ∧
      ∀ other : Formula, ((context.fill other).eval 9 scope).startingAt 0 =
        ((context.fill part).eval 9 scope).startingAt 0 := by
  intro context part scope
  have refused : part.refusal? = some ⟨.identifier, .invalidName "not a name"⟩ := by
    decide +kernel
  have fails : ((part.eval 9 scope).startingAt (0 + context.length)).value.1 =
      .error (.disallowed ⟨.identifier, .invalidName "not a name"⟩) := by
    rw [startingAt_eval_eq, outcome_of_refused (by decide) refused]
  have succeeds : (((context.fill part).eval 9 scope).startingAt 0).value.1 = .ok (.text "no") := by
    rfl
  refine ⟨fails, succeeds, (startingAt_fill_of_error fails).resolve_left ?_⟩
  simp [succeeds]

end Formula

end FieldFormula
