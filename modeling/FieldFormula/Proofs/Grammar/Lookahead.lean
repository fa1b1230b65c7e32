import FieldFormula.Proofs.Grammar.Blame

/-!
# What the grammar looks at

A reading looks at the kinds of the tokens up to the one where it stops, and at nothing else. So two
token lists that agree so far are read alike, whatever their spans are and whatever follows. The same
holds of a reading that fails: the token that it blames is the last one it looks at.

## Main results

- `ofTokens_of_kinds_eq`: tokens of the same kinds are read as the same formula.
- `ofTokens_failsAt`: tokens that agree up to the blamed one are rejected for the same cause.
-/

namespace FieldFormula

/-! ### Cursors in parallel -/

theorem Cursor.Within.self {tokens : List Token} {cursor : Cursor} (within : cursor.Within tokens) :
    cursor.Within cursor.rest :=
  ⟨List.suffix_rfl, within.ended⟩

/-- Ahead of the two cursors are tokens of the same kinds, and behind them these endings, which begin
alike. One of the tokens ahead is the end of the input. -/
structure Cursor.Parallel (ending otherEnding : List Token.Kind) (cursor other : Cursor) : Prop where
  guard_eq : other.guard = cursor.guard
  kinds_eq : ∃ common, cursor.kinds = common ++ ending ∧ other.kinds = common ++ otherEnding
  begin_alike : otherEnding.head? = ending.head?
  ended : cursor.EndAhead

namespace Cursor

theorem length_kinds (cursor : Cursor) : cursor.kinds.length = cursor.rest.length :=
  List.length_map _

theorem EndAhead.head?_kinds {cursor : Cursor} (ended : cursor.EndAhead) :
    cursor.kinds.head? = some cursor.front.kind := by
  obtain ⟨others, ahead⟩ := ended.rest_eq_cons
  rw [kinds, ahead, List.map_cons, List.head?_cons]

theorem front_kind_of_head? {cursor : Cursor} {kind : Token.Kind}
    (first : cursor.kinds.head? = some kind) : cursor.front.kind = kind := by
  rw [kinds, List.head?_map, Option.map_eq_some_iff] at first
  obtain ⟨token, ahead, rfl⟩ := first
  rw [front, List.headD_eq_head?_getD, ahead, Option.getD_some]

namespace Parallel

variable {ending otherEnding : List Token.Kind} {cursor other : Cursor}

theorem front_kind (parallel : cursor.Parallel ending otherEnding other) :
    other.front.kind = cursor.front.kind := by
  obtain ⟨common, spelled, spelledOther⟩ := parallel.kinds_eq
  refine front_kind_of_head? ?_
  rw [← parallel.ended.head?_kinds, spelled, spelledOther, List.head?_append, List.head?_append,
    parallel.begin_alike]

theorem enter (parallel : cursor.Parallel ending otherEnding other) :
    cursor.enter.Parallel ending otherEnding other.enter :=
  ⟨congrArg (· + 1) parallel.guard_eq, parallel.kinds_eq, parallel.begin_alike, parallel.ended⟩

theorem leave (parallel : cursor.Parallel ending otherEnding other) :
    cursor.leave.Parallel ending otherEnding other.leave :=
  ⟨congrArg (· - 1) parallel.guard_eq, parallel.kinds_eq, parallel.begin_alike, parallel.ended⟩

/-- A token is consumed on both sides unless the endings begin with it. -/
theorem advance (parallel : cursor.Parallel ending otherEnding other)
    (before : ending.length ≤ cursor.advance.rest.length) :
    cursor.advance.Parallel ending otherEnding other.advance := by
  have same := parallel.front_kind
  by_cases present : cursor.front.kind = .endOfInput
  · rwa [advance_of_endOfInput present, advance_of_endOfInput (same.trans present)]
  · obtain ⟨common, spelled, spelledOther⟩ := parallel.kinds_eq
    refine ⟨by simp [parallel.guard_eq], ?_, parallel.begin_alike, parallel.ended.advance⟩
    rw [kinds_advance present, kinds_advance (same ▸ present), spelled, spelledOther]
    cases common with
    | nil =>
      -- The token would be the first one of the ending, and the ending lies behind it.
      have consumed := parallel.ended.length_advance_lt present
      rw [← length_kinds cursor, spelled, List.nil_append] at consumed
      omega
    | cons kind common => exact ⟨common, rfl, rfl⟩

end Parallel

/-- Token lists of the same kinds are parallel to their ends. -/
theorem parallel_of_kinds_eq {tokens others : List Token}
    (same : others.map Token.kind = tokens.map Token.kind)
    (ended : .endOfInput ∈ tokens.map Token.kind) :
    (start tokens).Parallel [] [] (start others) :=
  ⟨rfl, ⟨tokens.map Token.kind, by simp [kinds], by simp [kinds, same]⟩, rfl, ended⟩

end Cursor

namespace Phrase

theorem prefixAhead?_congr {token other : Token} (same : other.kind = token.kind) :
    prefixAhead? other = prefixAhead? token := by
  rw [prefixAhead?, prefixAhead?, same]

theorem infixAhead?_congr {token other : Token} (minPrecedence : Nat)
    (same : other.kind = token.kind) :
    infixAhead? minPrecedence other = infixAhead? minPrecedence token := by
  rw [infixAhead?, infixAhead?, same]

variable {maxDepth : Nat} {task : Task} {cursor after other : Cursor}
  {ending otherEnding : List Token.Kind}

/-! ### Readings in parallel -/

/-- **What is read does not depend on what follows**, nor on where the tokens stand. -/
theorem Reads.parallel {formula : Formula} (reads : Reads maxDepth task cursor formula after)
    (parallel : cursor.Parallel ending otherEnding other)
    (before : ending.length ≤ after.rest.length) :
    ∃ otherAfter, Reads maxDepth task other formula otherAfter ∧
      after.Parallel ending otherEnding otherAfter := by
  -- Where a part of the phrase ends, the ending lies ahead, as it does where the phrase ends.
  induction reads generalizing other with
  | unconditional _ noQuestion ih =>
    obtain ⟨otherAfter, test, stops⟩ := ih parallel before
    exact ⟨otherAfter, .unconditional test (stops.front_kind ▸ noQuestion), stops⟩
  | @conditional _ _ tested _ chosen _ _ _ question room consequentRead colon alternateRead iht ihc
      iha =>
    have beforeAlternate := alternateRead.length_le
    have beforeColon := chosen.length_advance_le
    have beforeConsequent := consequentRead.length_le
    have beforeQuestion := tested.length_advance_le
    simp only [Cursor.rest_enter, Cursor.rest_leave] at *
    obtain ⟨otherTested, test, stopsTest⟩ := iht parallel (by omega)
    obtain ⟨otherChosen, consequent, stopsConsequent⟩ :=
      ihc (stopsTest.advance (by omega)).enter (by omega)
    obtain ⟨otherAfter, alternate, stops⟩ := iha (stopsConsequent.advance (by omega)) before
    exact ⟨otherAfter.leave, .conditional test (stopsTest.front_kind.trans question)
      (stopsTest.guard_eq ▸ room) consequent (stopsConsequent.front_kind.trans colon) alternate,
      stops.leave⟩
  | chain _ linksRead ihf ihl =>
    obtain ⟨otherStart, first, stopsFirst⟩ := ihf parallel (Nat.le_trans before linksRead.length_le)
    obtain ⟨otherAfter, links, stops⟩ := ihl stopsFirst before
    exact ⟨otherAfter, .chain first links, stops⟩
  | chainEnds noOperator =>
    rw [← infixAhead?_congr _ parallel.front_kind] at noOperator
    exact ⟨other, .chainEnds noOperator, parallel⟩
  | @link _ _ cursor _ _ _ _ _ operator room rightRead shallow linksRead ihr ihl =>
    have beforeLinks := linksRead.length_le
    have beforeRight := rightRead.length_le
    simp only [Cursor.rest_enter, Cursor.rest_leave] at *
    obtain ⟨otherOperated, right, stopsRight⟩ :=
      ihr (parallel.advance (by omega)).enter (by omega)
    obtain ⟨otherAfter, links, stops⟩ := ihl stopsRight.leave before
    rw [← infixAhead?_congr _ parallel.front_kind] at operator
    exact ⟨otherAfter, .link operator (parallel.guard_eq ▸ room) right shallow links, stops⟩
  | prefixed operator room operandRead ih =>
    have beforeOperand := operandRead.length_le
    simp only [Cursor.rest_enter, Cursor.rest_leave] at *
    obtain ⟨otherAfter, operand, stops⟩ := ih (parallel.advance (by omega)).enter before
    rw [← prefixAhead?_congr parallel.front_kind] at operator
    exact ⟨otherAfter.leave, .prefixed operator (parallel.guard_eq ▸ room) operand, stops.leave⟩
  | unprefixed noOperator _ ih =>
    obtain ⟨otherAfter, primary, stops⟩ := ih parallel before
    rw [← prefixAhead?_congr parallel.front_kind] at noOperator
    exact ⟨otherAfter, .unprefixed noOperator primary, stops⟩
  | uncalled _ noCall ih =>
    obtain ⟨otherAfter, operand, stops⟩ := ih parallel before
    exact ⟨otherAfter, .uncalled operand (stops.front_kind ▸ noCall), stops⟩
  | leaf stands =>
    -- The token itself is not part of the ending, or there would be nothing left of it.
    exact ⟨other.advance, .leaf (parallel.front_kind ▸ stands), parallel.advance before⟩
  | @group _ _ after opened room innerRead closed ih =>
    have beforeInner := innerRead.length_le
    have beforeClosing := after.length_advance_le
    simp only [Cursor.rest_enter, Cursor.rest_leave] at *
    obtain ⟨otherAfter, inner, stops⟩ := ih (parallel.advance (by omega)).enter (by omega)
    exact ⟨otherAfter.advance.leave, .group (parallel.front_kind.trans opened)
      (parallel.guard_eq ▸ room) inner (stops.front_kind.trans closed), (stops.advance before).leave⟩

/-! ### Failures in parallel -/

/-- The reading fails at the token in front of `reached`, which it blames unless a limit is exceeded,
and looks no further. -/
structure FailsAt (maxDepth : Nat) (task : Task) (cursor : Cursor) (error : SyntaxError)
    (reached : Cursor) : Prop where
  within : reached.Within cursor.rest
  blamed : error.kind ≠ .limitExceeded → reached.front.span = error.span
  parallel : ∀ {ending otherEnding other}, cursor.Parallel ending otherEnding other →
    ending.length ≤ reached.rest.length →
      ∃ otherError otherAfter, Fails maxDepth task other otherError otherAfter ∧
        otherError.cause = error.cause

/-- A phrase fails where its part fails, if what precedes the part is read in parallel. -/
theorem FailsAt.outward {innerTask : Task} {inner reached : Cursor} {error : SyntaxError}
    (failsAt : FailsAt maxDepth innerTask inner error reached) (within : inner.Within cursor.rest)
    (leads : ∀ {ending otherEnding other}, cursor.Parallel ending otherEnding other →
      ending.length ≤ inner.rest.length →
        ∃ otherInner, inner.Parallel ending otherEnding otherInner ∧
          ∀ {otherError otherAfter}, Fails maxDepth innerTask otherInner otherError otherAfter →
            Fails maxDepth task other otherError otherAfter) :
    FailsAt maxDepth task cursor error reached := by
  have remains := failsAt.within.remains
  refine ⟨⟨remains.trans within.remains, failsAt.within.ended⟩, failsAt.blamed, ?_⟩
  intro ending otherEnding other parallel before
  obtain ⟨otherInner, innerParallel, passes⟩ :=
    leads parallel (Nat.le_trans before remains.length_le)
  obtain ⟨otherError, otherAfter, fails, same⟩ := failsAt.parallel innerParallel before
  exact ⟨otherError, otherAfter, passes fails, same⟩

/-- **A reading that fails looks no further than the token that it blames.** -/
theorem Fails.failsAt {error : SyntaxError} (fails : Fails maxDepth task cursor error after)
    (within : cursor.Within cursor.rest) :
    ∃ reached, FailsAt maxDepth task cursor error reached := by
  -- The parts that are read before the failing one take the other cursor along to where it starts.
  induction fails with
  | test _ ih =>
    obtain ⟨reached, failsAt⟩ := ih within
    exact ⟨reached, failsAt.outward within fun parallel _ => ⟨_, parallel, .test⟩⟩
  | @branchesTooDeep _ _ tested testRead question full =>
    refine ⟨tested, testRead.within within, absurd rfl, fun parallel before => ?_⟩
    obtain ⟨otherTested, test, stops⟩ := testRead.parallel parallel before
    exact ⟨_, _, .branchesTooDeep test (stops.front_kind.trans question) (stops.guard_eq ▸ full),
      rfl⟩
  | @consequent _ _ tested _ _ testRead question room _ ih =>
    have inside := (testRead.within within).advance.enter
    obtain ⟨reached, failsAt⟩ := ih inside.self
    refine ⟨reached, failsAt.outward inside fun parallel before => ?_⟩
    obtain ⟨otherTested, test, stops⟩ :=
      testRead.parallel parallel (Nat.le_trans before tested.length_advance_le)
    exact ⟨_, (stops.advance before).enter,
      .consequent test (stops.front_kind.trans question) (stops.guard_eq ▸ room)⟩
  | @colonMissing _ _ tested _ chosen testRead question room consequentRead noColon =>
    have chosenWithin := consequentRead.within (testRead.within within).advance.enter
    refine ⟨chosen, chosenWithin, fun _ => rfl, fun parallel before => ?_⟩
    have beforeConsequent : _ ≤ tested.advance.rest.length := consequentRead.length_le
    have beforeQuestion := tested.length_advance_le
    obtain ⟨otherTested, test, stopsTest⟩ := testRead.parallel parallel (by omega)
    obtain ⟨otherChosen, consequent, stops⟩ :=
      consequentRead.parallel (stopsTest.advance (by omega)).enter before
    refine ⟨_, _, .colonMissing test (stopsTest.front_kind.trans question)
      (stopsTest.guard_eq ▸ room) consequent (stops.front_kind ▸ noColon), ?_⟩
    rw [stops.front_kind]
  | @alternate _ _ tested _ chosen _ _ testRead question room consequentRead colon _ ih =>
    have alternateWithin :=
      (consequentRead.within (testRead.within within).advance.enter).advance
    obtain ⟨reached, failsAt⟩ := ih alternateWithin.self
    refine ⟨reached, failsAt.outward alternateWithin fun parallel before => ?_⟩
    have beforeColon := chosen.length_advance_le
    have beforeConsequent : _ ≤ tested.advance.rest.length := consequentRead.length_le
    have beforeQuestion := tested.length_advance_le
    obtain ⟨otherTested, test, stopsTest⟩ := testRead.parallel parallel (by omega)
    obtain ⟨otherChosen, consequent, stops⟩ :=
      consequentRead.parallel (stopsTest.advance (by omega)).enter (by omega)
    exact ⟨_, stops.advance before, .alternate test (stopsTest.front_kind.trans question)
      (stopsTest.guard_eq ▸ room) consequent (stops.front_kind.trans colon)⟩
  | first _ ih =>
    obtain ⟨reached, failsAt⟩ := ih within
    exact ⟨reached, failsAt.outward within fun parallel _ => ⟨_, parallel, .first⟩⟩
  | chain firstRead _ ih =>
    have behind := firstRead.within within
    obtain ⟨reached, failsAt⟩ := ih behind.self
    refine ⟨reached, failsAt.outward behind fun parallel before => ?_⟩
    obtain ⟨otherStart, first, stops⟩ := firstRead.parallel parallel before
    exact ⟨otherStart, stops, .chain first⟩
  | @rightTooDeep _ _ cursor _ operator full =>
    refine ⟨cursor, within, absurd rfl, fun parallel _ => ?_⟩
    rw [← infixAhead?_congr _ parallel.front_kind] at operator
    exact ⟨_, _, .rightTooDeep operator (parallel.guard_eq ▸ full), rfl⟩
  | right operator room _ ih =>
    have inside := within.advance.enter
    obtain ⟨reached, failsAt⟩ := ih inside.self
    refine ⟨reached, failsAt.outward inside fun parallel before => ?_⟩
    rw [← infixAhead?_congr _ parallel.front_kind] at operator
    exact ⟨_, (parallel.advance before).enter, .right operator (parallel.guard_eq ▸ room)⟩
  | @chainTooDeep _ _ cursor _ _ operated operator room rightRead deep =>
    have behind := rightRead.within within.advance.enter
    refine ⟨operated, behind, absurd rfl, fun parallel before => ?_⟩
    -- The operator is blamed, but for a depth that is known only behind its right operand.
    have beforeRight : _ ≤ cursor.advance.rest.length := rightRead.length_le
    obtain ⟨otherOperated, right, stops⟩ :=
      rightRead.parallel (parallel.advance (by omega)).enter before
    rw [← infixAhead?_congr _ parallel.front_kind] at operator
    exact ⟨_, _, .chainTooDeep operator (parallel.guard_eq ▸ room) right deep, rfl⟩
  | @link _ _ cursor _ _ operated _ _ operator room rightRead shallow _ ih =>
    have behind := (rightRead.within within.advance.enter).leave
    obtain ⟨reached, failsAt⟩ := ih behind.self
    refine ⟨reached, failsAt.outward behind fun parallel before => ?_⟩
    have beforeRight : _ ≤ cursor.advance.rest.length := rightRead.length_le
    simp only [Cursor.rest_leave] at before
    obtain ⟨otherOperated, right, stops⟩ :=
      rightRead.parallel (parallel.advance (by omega)).enter before
    rw [← infixAhead?_congr _ parallel.front_kind] at operator
    exact ⟨_, stops.leave, .link operator (parallel.guard_eq ▸ room) right shallow⟩
  | @prefixTooDeep cursor _ operator full =>
    refine ⟨cursor, within, absurd rfl, fun parallel _ => ?_⟩
    rw [← prefixAhead?_congr parallel.front_kind] at operator
    exact ⟨_, _, .prefixTooDeep operator (parallel.guard_eq ▸ full), rfl⟩
  | prefixed operator room _ ih =>
    have inside := within.advance.enter
    obtain ⟨reached, failsAt⟩ := ih inside.self
    refine ⟨reached, failsAt.outward inside fun parallel before => ?_⟩
    rw [← prefixAhead?_congr parallel.front_kind] at operator
    exact ⟨_, (parallel.advance before).enter, .prefixed operator (parallel.guard_eq ▸ room)⟩
  | unprefixed noOperator _ ih =>
    obtain ⟨reached, failsAt⟩ := ih within
    refine ⟨reached, failsAt.outward within fun parallel _ => ⟨_, parallel, .unprefixed ?_⟩⟩
    rwa [prefixAhead?_congr parallel.front_kind]
  | operand _ ih =>
    obtain ⟨reached, failsAt⟩ := ih within
    exact ⟨reached, failsAt.outward within fun parallel _ => ⟨_, parallel, .operand⟩⟩
  | @called _ _ after operandRead call =>
    refine ⟨after, operandRead.within within, fun _ => rfl, fun parallel before => ?_⟩
    obtain ⟨otherAfter, operand, stops⟩ := operandRead.parallel parallel before
    exact ⟨_, _, .called operand (stops.front_kind.trans call), rfl⟩
  | @noOperand cursor noLeaf notOpened =>
    refine ⟨cursor, within, fun _ => rfl, fun parallel _ => ?_⟩
    rw [← parallel.front_kind] at noLeaf notOpened ⊢
    exact ⟨_, _, .noOperand noLeaf notOpened, rfl⟩
  | @groupTooDeep cursor opened full =>
    refine ⟨cursor, within, absurd rfl, fun parallel _ => ?_⟩
    exact ⟨_, _, .groupTooDeep (parallel.front_kind.trans opened) (parallel.guard_eq ▸ full), rfl⟩
  | inner opened room _ ih =>
    have inside := within.advance.enter
    obtain ⟨reached, failsAt⟩ := ih inside.self
    exact ⟨reached, failsAt.outward inside fun parallel before =>
      ⟨_, (parallel.advance before).enter,
        .inner (parallel.front_kind.trans opened) (parallel.guard_eq ▸ room)⟩⟩
  | @unclosed cursor _ after opened room innerRead notClosed =>
    refine ⟨after, innerRead.within within.advance.enter, fun _ => rfl, fun parallel before => ?_⟩
    have beforeInner : _ ≤ cursor.advance.rest.length := innerRead.length_le
    obtain ⟨otherAfter, inner, stops⟩ :=
      innerRead.parallel (parallel.advance (by omega)).enter before
    rw [← stops.front_kind] at notClosed ⊢
    exact ⟨_, _, .unclosed (parallel.front_kind.trans opened) (parallel.guard_eq ▸ room) inner
      notClosed, rfl⟩

theorem span_endError (token : Token) : (endError token).span = token.span := by
  unfold endError
  split <;> rfl

theorem endError_cause_congr {token other : Token} (same : other.kind = token.kind) :
    (endError other).cause = (endError token).cause := by
  unfold endError
  rw [same]
  split <;> rfl

end Phrase

/-! ### Whole token lists -/

namespace Formula

variable {maxDepth : Nat} {tokens others : List Token}

/-- **Tokens of the same kinds are read as the same formula.** -/
theorem ofTokens_of_kinds_eq {formula : Formula} (read : ofTokens maxDepth tokens = .ok formula)
    (same : others.map Token.kind = tokens.map Token.kind)
    (ended : .endOfInput ∈ tokens.map Token.kind) :
    ofTokens maxDepth others = .ok formula := by
  obtain ⟨after, reads, nothingElse⟩ := ofTokens_eq_ok_iff.1 read
  obtain ⟨otherAfter, otherReads, stops⟩ :=
    reads.parallel (Cursor.parallel_of_kinds_eq same ended) (Nat.zero_le _)
  exact ofTokens_eq_ok_iff.2 ⟨otherAfter, otherReads, stops.front_kind.trans nothingElse⟩

/-- **Tokens are rejected for what they are up to the blamed one**, unless a limit is exceeded. -/
theorem ofTokens_failsAt {error : SyntaxError} (unread : ofTokens maxDepth tokens = .error error)
    (ended : .endOfInput ∈ tokens.map Token.kind) :
    ∃ reached : Cursor, reached.Within tokens ∧
      (error.kind ≠ .limitExceeded → reached.front.span = error.span) ∧
      ∀ {ending otherEnding others},
        Cursor.Parallel ending otherEnding (.start tokens) (.start others) →
          ending.length ≤ reached.rest.length →
            ∃ otherError, ofTokens maxDepth others = .error otherError ∧
              otherError.cause = error.cause := by
  have within := Cursor.Within.start ended
  rcases ofTokens_eq_error_iff.1 unread with ⟨after, fails⟩ | ⟨formula, after, reads, more, rfl⟩
  · obtain ⟨reached, failsAt⟩ := fails.failsAt within
    refine ⟨reached, failsAt.within, failsAt.blamed, fun parallel before => ?_⟩
    obtain ⟨otherError, otherAfter, otherFails, same⟩ := failsAt.parallel parallel before
    exact ⟨otherError, ofTokens_eq_error_iff.2 (.inl ⟨otherAfter, otherFails⟩), same⟩
  · refine ⟨after, reads.within within, fun _ => (Phrase.span_endError _).symm, ?_⟩
    intro ending otherEnding others parallel before
    obtain ⟨otherAfter, otherReads, stops⟩ := reads.parallel parallel before
    refine ⟨_, ofTokens_eq_error_iff.2 (.inr ⟨formula, otherAfter, otherReads, ?_, rfl⟩),
      Phrase.endError_cause_congr stops.front_kind⟩
    rwa [stops.front_kind]

end Formula

end FieldFormula
