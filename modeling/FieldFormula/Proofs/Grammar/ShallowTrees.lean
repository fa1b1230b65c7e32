import FieldFormula.Proofs.Grammar.BuiltNodes

/-!
# No tree is too deep while it is read

The limit bounds the guard, and it bounds the trees that infix operators build. Prefix operators and
choices add to a tree without a check of its depth, but not without the guard. A phrase that starts
when the guard is at `guard` therefore becomes a tree of depth at most `2 * maxDepth - guard + 1`.
Every tree on the way keeps to that bound, also when the reading fails in the end.

An operation keeps to a bound that is one less (`Phrase.operationBound`), which leaves room for the
choice that it is the test of. Nothing here depends on which token is in front: the bounds hold for
any tokens, also for those that do not end in the end of the input.

## Main result

- `Phrase.staysShallow`: the bound on answers and on all that is built, for each of the readers.
-/

namespace FieldFormula

/-- The formula joins two others by an infix operator. -/
def Formula.IsInfixed : Formula → Prop
  | .binary .. => True
  | .logical .. => True
  | _ => False

/-- What holds of an event in a phrase that started when the guard was at `start`. -/
def Event.Shallow (maxDepth start : Nat) : Event → Prop
  | .continues left depth => depth = left.depth
  | .builds formula =>
    formula.depth ≤ 2 * maxDepth - start + 1 ∧ (formula.IsInfixed → formula.depth ≤ maxDepth)
  | _ => True

namespace Phrase

variable {maxDepth start : Nat}

/-- The guard is where it was, and the formula is no deeper than the bound. -/
structure Returns (guard bound : Nat) (formula : Formula) (after : Cursor) : Prop where
  guard_eq : after.guard = guard
  depth_le : formula.depth ≤ bound

/-- Started with the guard anywhere between `start` and the limit, the reader builds nothing that is
too deep, and its answer keeps to a bound that depends on the guard. -/
def Confines (maxDepth start : Nat) (bound : Nat → Nat) (reader : Reader Formula) : Prop :=
  ∀ cursor : Cursor, start ≤ cursor.guard → cursor.guard ≤ maxDepth →
    reader.Keeps (Event.Shallow maxDepth start) cursor (Returns cursor.guard (bound cursor.guard))

/-- The depth that an operation has at most if it starts with the guard at `guard`. -/
def operationBound (maxDepth guard : Nat) : Nat :=
  max 1 (2 * maxDepth - guard)

/-- The depth that a phrase has at most if it starts with the guard at `guard`. -/
def depthBound (maxDepth : Nat) : Phrase → (guard : Nat) → Nat
  | .expression, guard => 2 * maxDepth - guard + 1
  | .operation _, guard => operationBound maxDepth guard
  | .unary, guard => operationBound maxDepth guard

theorem confines_leaf {formula : Formula} (flat : formula.depth = 1)
    (noInfix : ¬formula.IsInfixed) :
    Confines maxDepth start (operationBound maxDepth) (Reader.build formula) := by
  intro cursor started limited
  refine .build ⟨by omega, fun infixed => absurd infixed noInfix⟩ ⟨rfl, ?_⟩
  rw [flat]
  exact Nat.le_max_left ..

section

variable {deeper : Phrase → Reader Formula}
  (below : ∀ phrase, Confines maxDepth start (depthBound maxDepth phrase) (deeper phrase))

include below

/-- One level further down there is less room for the formula. -/
theorem keepsShallow_nested (phrase : Phrase) (span : Span) {cursor : Cursor}
    (started : start ≤ cursor.guard) :
    (Reader.nested maxDepth span (deeper phrase)).Keeps (Event.Shallow maxDepth start) cursor
      fun formula after => cursor.guard < maxDepth ∧
        Returns cursor.guard (depthBound maxDepth phrase (cursor.guard + 1)) formula after := by
  refine .nested (fun _ => trivial) fun room => ?_
  refine (below phrase cursor.enter (Nat.le_succ_of_le started) room).mono ?_
  rintro formula after ⟨guard, depth⟩
  exact ⟨trivial, room, by simp [guard], depth⟩

theorem confines_readOperandAt (token : Token) :
    Confines maxDepth start (operationBound maxDepth) (readOperandAt maxDepth deeper token) := by
  intro cursor started limited
  unfold readOperandAt
  cases token.kind with
  | number value => exact confines_leaf (by simp) id cursor started limited
  | text value => exact confines_leaf (by simp) id cursor started limited
  | boolean value => exact confines_leaf (by simp) id cursor started limited
  | identifier name => exact confines_leaf (by simp) id cursor started limited
  | openParen =>
    -- The level that the parentheses take makes up for the looser bound of what they enclose.
    refine .nested (fun _ => trivial) fun room => .bind
      (below .expression cursor.enter (Nat.le_succ_of_le started) room) ?_
    rintro inner after ⟨guard, depth⟩
    refine .bind (.expect trivial trivial trivial fun _ => trivial) ?_
    rintro - _ ⟨-, rfl⟩
    refine .pure ⟨trivial, by simp [guard], ?_⟩
    simp only [depthBound, operationBound, Cursor.guard_enter] at depth ⊢
    omega
  | operator | closeParen | question | colon | endOfInput => exact .unexpected trivial

theorem confines_readPrimary :
    Confines maxDepth start (operationBound maxDepth) (readPrimary maxDepth deeper) := by
  intro cursor started limited
  refine .bind (.next trivial trivial) ?_
  rintro _ _ ⟨rfl, rfl⟩
  have operand := confines_readOperandAt below cursor.front cursor.advance
  rw [Cursor.guard_advance] at operand
  refine .bind (operand started limited) fun formula after confined => ?_
  refine .bind (keeps_refuseCall trivial fun _ => trivial) ?_
  rintro - _ ⟨-, rfl⟩
  exact .pure confined

theorem confines_readUnary :
    Confines maxDepth start (operationBound maxDepth) (readUnary maxDepth deeper) := by
  intro cursor started limited
  refine .bind (.peek trivial) ?_
  rintro _ cursor ⟨rfl, rfl⟩
  cases prefixAhead? cursor.front with
  | some entry =>
    refine .bind (.next trivial trivial) ?_
    rintro - _ ⟨-, rfl⟩
    rw [← Cursor.guard_advance cursor] at started ⊢
    refine .bind (keepsShallow_nested below .unary _ started) ?_
    rintro operand after ⟨room, guard, depth⟩
    -- The node of the operator is paid for by the level that it takes.
    have bounded : (Formula.unary entry.op operand).depth ≤
        operationBound maxDepth cursor.advance.guard := by
      simp only [depthBound, operationBound, Formula.depth_unary] at depth ⊢
      omega
    refine .build ⟨?_, False.elim⟩ ⟨guard, bounded⟩
    rw [operationBound] at bounded
    omega
  | none => exact confines_readPrimary below cursor started limited

theorem keepsShallow_readLinks (minPrecedence links : Nat) {left : Chain} {cursor : Cursor}
    (started : start ≤ cursor.guard) (limited : cursor.guard ≤ maxDepth)
    (bounded : left.depth ≤ operationBound maxDepth cursor.guard) :
    (readLinks maxDepth deeper minPrecedence links left).Keeps (Event.Shallow maxDepth start) cursor
      (Returns cursor.guard (operationBound maxDepth cursor.guard)) := by
  induction links generalizing left cursor with
  | zero => exact .pure ⟨rfl, left.measured ▸ bounded⟩
  | succ links ih =>
    refine .noted left.measured (.bind (.peek trivial) ?_)
    rintro _ cursor ⟨rfl, rfl⟩
    cases infixAhead? minPrecedence cursor.front with
    | some entry =>
      refine .bind (.next trivial trivial) ?_
      rintro - _ ⟨-, rfl⟩
      rw [← Cursor.guard_advance cursor] at started limited bounded ⊢
      refine .bind (keepsShallow_nested below _ _ started) ?_
      rintro right after ⟨-, guard, -⟩
      rw [← guard] at started limited ⊢
      -- However deep the right operand is, the limit is checked before there is a longer chain.
      refine .bind (Chain.keeps_link (fun _ => trivial) fun shallow => ?_) ?_
      · rw [left.measured, ← Formula.depth_ofInfix entry.op] at shallow
        exact ⟨by omega, fun _ => shallow⟩
      · rintro _ _ ⟨rfl, shallow, rfl⟩
        refine ih started limited (Nat.le_trans shallow ?_)
        rw [operationBound]
        omega
    | none => exact .pure ⟨rfl, left.measured ▸ bounded⟩

theorem confines_readOperation (minPrecedence : Nat) :
    Confines maxDepth start (operationBound maxDepth)
      (readOperation maxDepth deeper minPrecedence) := by
  intro cursor started limited
  refine .bind (confines_readUnary below cursor started limited) ?_
  rintro first after ⟨guard, bounded⟩
  rw [← guard] at started limited bounded ⊢
  refine .bind .here ?_
  rintro _ _ ⟨rfl, rfl⟩
  exact keepsShallow_readLinks below minPrecedence _ started limited bounded

theorem keepsShallow_readBranches (span : Span) {cursor : Cursor} (started : start ≤ cursor.guard) :
    (Reader.nested maxDepth span (readBranches deeper)).Keeps (Event.Shallow maxDepth start) cursor
      fun branches after => after.guard = cursor.guard ∧ cursor.guard < maxDepth ∧
        max branches.1.depth branches.2.depth ≤ 2 * maxDepth - cursor.guard := by
  refine .nested (fun _ => trivial) fun room => ?_
  have started := Nat.le_succ_of_le started
  refine .bind (below .expression cursor.enter started room) ?_
  rintro consequent chosen ⟨guard, consequentDepth⟩
  refine .bind (.expect trivial trivial trivial fun _ => trivial) ?_
  rintro - _ ⟨-, rfl⟩
  have inside : chosen.advance.guard = cursor.guard + 1 := (Cursor.guard_advance chosen).trans guard
  refine .bind (below .expression chosen.advance (inside ▸ started) (inside ▸ room)) ?_
  rintro alternate after ⟨same, alternateDepth⟩
  refine .pure ⟨trivial, by simp [same, guard], room, ?_⟩
  simp only [depthBound, Cursor.guard_enter, inside] at consequentDepth alternateDepth ⊢
  omega

theorem confines_readExpression :
    Confines maxDepth start (depthBound maxDepth .expression) (readExpression maxDepth deeper) := by
  intro cursor started limited
  refine .bind (confines_readOperation below 0 cursor started limited) ?_
  rintro test tested ⟨guard, bounded⟩
  rw [← guard] at started limited bounded ⊢
  refine .bind (.peek trivial) ?_
  rintro _ tested ⟨rfl, rfl⟩
  split
  case isTrue question =>
    refine .bind (.next trivial trivial) ?_
    rintro - _ ⟨-, rfl⟩
    rw [← Cursor.guard_advance tested] at started bounded ⊢
    refine .bind (keepsShallow_readBranches below _ started) ?_
    rintro ⟨consequent, alternate⟩ after ⟨guard, room, branches⟩
    -- The test has been read on this level, but an operation is one less deep than an expression.
    simp only [operationBound] at bounded branches
    have depth : (Formula.conditional test consequent alternate).depth ≤
        2 * maxDepth - tested.advance.guard + 1 := by
      rw [Formula.depth_conditional]
      omega
    exact .build ⟨by omega, False.elim⟩ ⟨guard, depth⟩
  case isFalse =>
    refine .pure ⟨rfl, ?_⟩
    simp only [depthBound, operationBound] at bounded ⊢
    omega

theorem confines_readers (phrase : Phrase) :
    Confines maxDepth start (depthBound maxDepth phrase) (readers maxDepth deeper phrase) := by
  cases phrase with
  | expression => exact confines_readExpression below
  | operation minPrecedence => exact confines_readOperation below minPrecedence
  | unary => exact confines_readUnary below

end

theorem confines_refuseDeeper (phrase : Phrase) :
    Confines maxDepth start (depthBound maxDepth phrase) (refuseDeeper maxDepth phrase) :=
  fun _ _ _ => .bind (.peek trivial) fun _ _ _ => .fail trivial

theorem confines_readersBelow (levels : Nat) (phrase : Phrase) :
    Confines maxDepth start (depthBound maxDepth phrase) (readersBelow maxDepth levels phrase) :=
  readersBelow_induction
    (motive := fun phrase => Confines maxDepth start (depthBound maxDepth phrase))
    confines_refuseDeeper (fun _ => confines_readers) levels phrase

/-! ### Whole readings -/

/-- What the reader answers at the cursor and what it builds on the way is shallow. -/
structure StaysShallow (maxDepth : Nat) (reader : Reader Formula) (cursor : Cursor) : Prop where
  guard_eq : ∀ formula after, reader.on cursor = (.ok formula, after) → after.guard = cursor.guard
  depth_le : ∀ formula after, reader.on cursor = (.ok formula, after) →
    formula.depth ≤ 2 * maxDepth - cursor.guard + 1
  -- The record misses no part of the answer.
  recorded : ∀ formula after, reader.on cursor = (.ok formula, after) →
    ∀ node ∈ formula.walk, .builds node ∈ reader.events cursor
  -- The depth that is carried along is that of the chain so far.
  measured : ∀ left depth, .continues left depth ∈ reader.events cursor → depth = left.depth
  -- Nothing deeper has been built, however the reading ends.
  built_le : ∀ formula, .builds formula ∈ reader.events cursor →
    formula.depth ≤ 2 * maxDepth - cursor.guard + 1
  infixed_le : ∀ formula, .builds formula ∈ reader.events cursor → formula.IsInfixed →
    formula.depth ≤ maxDepth

theorem staysShallow_of_confines {reader : Reader Formula} {cursor : Cursor} {bound : Nat → Nat}
    (confines : Confines maxDepth cursor.guard bound reader) (records : reader.RecordsNodes)
    (limited : cursor.guard ≤ maxDepth)
    (tight : bound cursor.guard ≤ 2 * maxDepth - cursor.guard + 1) :
    StaysShallow maxDepth reader cursor := by
  have keeps := confines cursor (Nat.le_refl _) limited
  exact {
    guard_eq formula after answers := (keeps.of_on_ok answers).guard_eq
    depth_le formula after answers := Nat.le_trans (keeps.of_on_ok answers).depth_le tight
    recorded formula after answers := records.builds_mem answers
    measured left depth found := keeps.good_of_mem _ found
    built_le formula found := (keeps.good_of_mem _ found).1
    infixed_le formula found := (keeps.good_of_mem _ found).2 }

/-- **No phrase becomes too deep a tree, and none is built on the way**, whatever tokens are ahead and
whatever the last one is, on whichever level the phrase is read and whether it is read to its end or
not. -/
theorem staysShallow (maxDepth levels : Nat) (cursor : Cursor) (limited : cursor.guard ≤ maxDepth) :
    StaysShallow maxDepth (readExpression maxDepth (readersBelow maxDepth levels)) cursor ∧
      (∀ minPrecedence, StaysShallow maxDepth
        (readOperation maxDepth (readersBelow maxDepth levels) minPrecedence) cursor) ∧
      StaysShallow maxDepth (readUnary maxDepth (readersBelow maxDepth levels)) cursor ∧
      StaysShallow maxDepth (readPrimary maxDepth (readersBelow maxDepth levels)) cursor := by
  have confined phrase : Confines maxDepth cursor.guard (depthBound maxDepth phrase)
      (readersBelow maxDepth levels phrase) := confines_readersBelow levels phrase
  have recorded phrase : (readersBelow maxDepth levels phrase).RecordsNodes :=
    recordsNodes_readersBelow levels phrase
  have tight : operationBound maxDepth cursor.guard ≤ 2 * maxDepth - cursor.guard + 1 := by
    rw [operationBound]
    omega
  refine ⟨?expression, fun minPrecedence => ?operation, ?unary, ?primary⟩
  case expression =>
    exact staysShallow_of_confines (confines_readExpression confined)
      (recordsNodes_readExpression recorded) limited (Nat.le_refl _)
  case operation =>
    exact staysShallow_of_confines (confines_readOperation confined minPrecedence)
      (recordsNodes_readOperation recorded minPrecedence) limited tight
  case unary =>
    exact staysShallow_of_confines (confines_readUnary confined)
      (recordsNodes_readUnary recorded) limited tight
  case primary =>
    exact staysShallow_of_confines (confines_readPrimary confined)
      (recordsNodes_readPrimary recorded) limited tight

/-- The chain `a + b + c` has been built up to `a + b` when its last operator is refused. -/
theorem staysShallow_chain :
    let tokens : List Token := [⟨.identifier "a", ⟨0, 1⟩⟩, ⟨.operator "+", ⟨2, 3⟩⟩,
      ⟨.identifier "b", ⟨4, 5⟩⟩, ⟨.operator "+", ⟨6, 7⟩⟩, ⟨.identifier "c", ⟨8, 9⟩⟩,
      ⟨.endOfInput, ⟨9, 9⟩⟩]
    let reader := readExpression 2 (readersBelow 2 2)
    .builds (.binary .add (.identifier "a") (.identifier "b")) ∈ reader.events (.start tokens) ∧
      .fails ⟨.chainTooDeep 2, ⟨6, 7⟩⟩ ∈ reader.events (.start tokens) ∧
      StaysShallow 2 reader (.start tokens) := by
  intro tokens reader
  exact ⟨by decide +kernel, by decide +kernel, (staysShallow 2 2 (.start tokens) (by decide)).1⟩

-- In `((a)` without an end of the input, the last parenthesis is met again and closes both groups.
example :
    let tokens : List Token := [⟨.openParen, ⟨0, 1⟩⟩, ⟨.openParen, ⟨1, 2⟩⟩,
      ⟨.identifier "a", ⟨2, 3⟩⟩, ⟨.closeParen, ⟨3, 4⟩⟩]
    let ended := (readExpression 2 (readersBelow 2 2)).on (.start tokens)
    ended.1.toOption = some (.identifier "a") ∧ ended.2 = ⟨[], ⟨.closeParen, ⟨3, 4⟩⟩, 0⟩ := by
  decide +kernel

end Phrase

end FieldFormula
