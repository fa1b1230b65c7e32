import FieldFormula.Proofs.Grammar.Derivation
import FieldFormula.Proofs.Grammar.Events
import FieldFormula.Proofs.Grammar.Parentheses

/-!
# Parentheses that have been matched before

Once the parentheses of all tokens match, the grammar has no trouble with them of its own. The
tokens still ahead match the parentheses that are open at the cursor (`Cursor.Balanced`). So while
one is open the end of the input is not in front, and while none is open no closing one is. Behind
an operand there is no opening one either, because a call has just been ruled out
(`Cursor.BehindOperand`). The token for the end of the input stays ahead to the last.

## Main result

- `Formula.readsSettled_of_checkParentheses`: what the reader of all tokens meets and what it does
  not meet.
-/

namespace FieldFormula

/-! ### The tokens ahead -/

/-- The tokens end in the token for the end of the input and have no other one. -/
def EndsOnce (tokens : List Token) : Prop :=
  ∃ own ending, tokens = own ++ [ending] ∧ ending.kind = .endOfInput ∧
    ∀ token ∈ own, token.kind ≠ .endOfInput

/-- The tokens ahead are the last ones of all, with the end of the input. -/
structure Cursor.Inside (tokens : List Token) (cursor : Cursor) : Prop where
  suffix : cursor.rest <:+ tokens
  endsOnce : EndsOnce cursor.rest

/-- In the tokens ahead the parentheses match those that are open at the cursor. -/
structure Cursor.Balanced (limit : Nat) (tokens : List Token) (opened : List Span)
    (cursor : Cursor) : Prop extends cursor.Inside tokens where
  balanced : Token.matchParentheses limit opened cursor.rest = .ok ()

namespace Cursor

variable {limit : Nat} {tokens : List Token} {opened : List Span} {cursor : Cursor}

theorem Inside.endAhead (inside : cursor.Inside tokens) : cursor.EndAhead := by
  obtain ⟨own, ending, rest, ended, -⟩ := inside.endsOnce
  simp [EndAhead, kinds, rest, ended]

theorem Inside.rest_ne_nil (inside : cursor.Inside tokens) : cursor.rest ≠ [] := by
  obtain ⟨others, ahead⟩ := inside.endAhead.rest_eq_cons
  simp [ahead]

theorem Inside.eq_singleton (inside : cursor.Inside tokens)
    (ended : cursor.front.kind = .endOfInput) : cursor.rest = [cursor.front] := by
  obtain ⟨own, ending, rest, -, only⟩ := inside.endsOnce
  cases own with
  | nil => simp [front, rest]
  | cons token own =>
    rw [front, rest] at ended
    exact absurd ended (only token (.head _))

theorem Inside.advance (inside : cursor.Inside tokens) : cursor.advance.Inside tokens := by
  by_cases ended : cursor.front.kind = .endOfInput
  · rwa [advance_of_endOfInput ended]
  · have consumed := inside.endAhead.rest_eq_cons_advance ended
    refine ⟨.trans ⟨[cursor.front], consumed.symm⟩ inside.suffix, ?_⟩
    obtain ⟨own, ending, rest, last, only⟩ := inside.endsOnce
    rw [consumed] at rest
    cases own with
    | nil =>
      obtain ⟨same, -⟩ := List.cons.inj rest
      exact absurd (same ▸ last) ended
    | cons token own =>
      obtain ⟨-, rest⟩ := List.cons.inj rest
      exact ⟨own, ending, rest, last, fun token found => only token (.tail _ found)⟩

namespace Balanced

theorem enter (ahead : cursor.Balanced limit tokens opened) :
    cursor.enter.Balanced limit tokens opened :=
  { ahead with }

theorem leave (ahead : cursor.Balanced limit tokens opened) :
    cursor.leave.Balanced limit tokens opened :=
  { ahead with }

theorem not_ended {innermost : Span} (ahead : cursor.Balanced limit tokens (innermost :: opened)) :
    cursor.front.kind ≠ .endOfInput := by
  intro ended
  have unclosed := ahead.balanced
  rw [ahead.eq_singleton ended, Token.matchParentheses_other (by simp [ended]) (by simp [ended])]
    at unclosed
  cases unclosed

theorem not_closed (ahead : cursor.Balanced limit tokens []) :
    cursor.front.kind ≠ .closeParen := by
  intro closing
  have unmatched := ahead.balanced
  rw [ahead.endAhead.rest_eq_cons_advance (by simp [closing]),
    Token.matchParentheses_closeParen_unmatched closing] at unmatched
  cases unmatched

theorem passes (ahead : cursor.Balanced limit tokens opened)
    (noOpening : cursor.front.kind ≠ .openParen) (noClosing : cursor.front.kind ≠ .closeParen) :
    cursor.advance.Balanced limit tokens opened := by
  refine { ahead.advance with balanced := ?_ }
  by_cases ended : cursor.front.kind = .endOfInput
  · rw [advance_of_endOfInput ended, ahead.balanced]
  · rw [← ahead.balanced, ahead.endAhead.rest_eq_cons_advance ended,
      Token.matchParentheses_other noOpening noClosing]

theorem opens (ahead : cursor.Balanced limit tokens opened)
    (opening : cursor.front.kind = .openParen) :
    cursor.advance.Balanced limit tokens (cursor.front.span :: opened) := by
  refine { ahead.advance with balanced := ?_ }
  have matched := ahead.balanced
  rw [ahead.endAhead.rest_eq_cons_advance (by simp [opening])] at matched
  by_cases room : opened.length < limit
  · rwa [Token.matchParentheses_openParen opening room] at matched
  · rw [Token.matchParentheses_openParen_full opening (Nat.le_of_not_lt room)] at matched
    cases matched

theorem closes {innermost : Span} (ahead : cursor.Balanced limit tokens (innermost :: opened))
    (closing : cursor.front.kind = .closeParen) : cursor.advance.Balanced limit tokens opened := by
  refine { ahead.advance with balanced := ?_ }
  have matched := ahead.balanced
  rwa [ahead.endAhead.rest_eq_cons_advance ahead.not_ended,
    Token.matchParentheses_closeParen closing] at matched

end Balanced

/-- The cursor is behind an operand: the parentheses inside it are closed, the guard is where it
was, and no call follows. -/
structure BehindOperand (limit : Nat) (tokens : List Token) (opened : List Span) (guard : Nat)
    (cursor : Cursor) : Prop extends cursor.Balanced limit tokens opened where
  guard_eq : cursor.guard = guard
  noCall : cursor.front.kind ≠ .openParen

end Cursor

/-! ### What the readers meet -/

/-- What holds of an event while tokens are read whose parentheses have been matched. -/
def Event.Settled (tokens : List Token) : Event → Prop
  | .looks cursor => cursor.rest ≠ [] ∧ cursor.rest <:+ tokens
  | .moves cursor => cursor.rest ≠ [] ∧ cursor.rest <:+ tokens
  | .leaves cursor => 0 < cursor.guard
  | .expects .closeParen found => found.kind ≠ .endOfInput
  | .expects .endOfInput found => found.kind ≠ .openParen ∧ found.kind ≠ .closeParen
  | .fails error => error.cause ≠ .unexpected .endOfInput .closeParen ∧
    error.cause ≠ .unexpected .closeParen .operatorOrEnd
  | _ => True

namespace Phrase

variable {limit maxDepth : Nat} {tokens : List Token} {opened : List Span} {cursor : Cursor}

theorem keepsSettled_peek (inside : cursor.Inside tokens) :
    Reader.peek.Keeps (Event.Settled tokens) cursor fun token after =>
      token = cursor.front ∧ after = cursor :=
  .peek ⟨inside.rest_ne_nil, inside.suffix⟩

theorem keepsSettled_next (inside : cursor.Inside tokens) :
    Reader.next.Keeps (Event.Settled tokens) cursor fun token after =>
      token = cursor.front ∧ after = cursor.advance :=
  .next ⟨inside.rest_ne_nil, inside.suffix⟩ ⟨inside.advance.rest_ne_nil, inside.advance.suffix⟩

theorem keepsSettled_expect {kind : Token.Kind} {wanted : SyntaxError.Wanted}
    (inside : cursor.Inside tokens) (expects : Event.Settled tokens (.expects kind cursor.front))
    (missing : cursor.front.kind ≠ kind → Event.Settled tokens
      (.fails ⟨.unexpected cursor.front.kind wanted, cursor.front.span⟩)) :
    (Reader.expect kind wanted).Keeps (Event.Settled tokens) cursor fun _ after =>
      cursor.front.kind = kind ∧ after = cursor.advance :=
  .expect ⟨inside.rest_ne_nil, inside.suffix⟩ ⟨inside.advance.rest_ne_nil, inside.advance.suffix⟩
    expects missing

/-- Wherever the reader starts, it stops behind an operand. -/
def SettlesParentheses {α : Type} (limit : Nat) (tokens : List Token) (reader : Reader α) : Prop :=
  ∀ opened (cursor : Cursor), cursor.Balanced limit tokens opened →
    reader.Keeps (Event.Settled tokens) cursor fun _ after =>
      after.BehindOperand limit tokens opened cursor.guard

theorem settlesParentheses_nested {α : Type} {phrase : Reader α}
    (settles : SettlesParentheses limit tokens phrase) (span : Span) :
    SettlesParentheses limit tokens (Reader.nested maxDepth span phrase) := by
  intro opened cursor ahead
  refine .nested (fun _ => by simp [Event.Settled]) fun _ => ?_
  refine (settles opened cursor.enter ahead.enter).mono fun value after behind => ⟨?_, ?_⟩
  · rw [Event.Settled, behind.guard_eq]
    exact Nat.succ_pos _
  · exact ⟨behind.leave, by simp [behind.guard_eq], behind.noCall⟩

section

variable {deeper : Phrase → Reader Formula}
  (below : ∀ phrase, SettlesParentheses limit tokens (deeper phrase))

include below

/-- Behind the operand that the next token starts, a call may still follow. -/
theorem keepsSettled_readOperandAt (ahead : cursor.Balanced limit tokens opened) :
    (readOperandAt maxDepth deeper cursor.front).Keeps (Event.Settled tokens) cursor.advance
      fun _ after => after.Balanced limit tokens opened ∧ after.guard = cursor.guard := by
  have leaf formula (noOpening : cursor.front.kind ≠ .openParen)
      (noClosing : cursor.front.kind ≠ .closeParen) :
      (Reader.build formula).Keeps (Event.Settled tokens) cursor.advance
        fun _ after => after.Balanced limit tokens opened ∧ after.guard = cursor.guard :=
    .build trivial ⟨ahead.passes noOpening noClosing, Cursor.guard_advance cursor⟩
  unfold readOperandAt
  cases kind : cursor.front.kind with
  | number value => exact leaf _ (by simp [kind]) (by simp [kind])
  | text value => exact leaf _ (by simp [kind]) (by simp [kind])
  | boolean value => exact leaf _ (by simp [kind]) (by simp [kind])
  | identifier name => exact leaf _ (by simp [kind]) (by simp [kind])
  | openParen =>
    refine .nested (fun _ => by simp [Event.Settled]) fun _ => ?_
    refine .bind (below .expression _ cursor.advance.enter (ahead.opens kind).enter) ?_
    intro inner after behind
    -- The parenthesis is still open, so there is a token that may close it.
    refine .bind (keepsSettled_expect behind.toInside behind.not_ended fun _ => ?_) ?_
    · simp [Event.Settled, behind.not_ended]
    · rintro - _ ⟨closing, rfl⟩
      have guard : after.guard = cursor.guard + 1 := by simp [behind.guard_eq]
      refine .pure ⟨?_, (behind.closes closing).leave, by simp [guard]⟩
      simp [Event.Settled, guard]
  | operator | closeParen | question | colon | endOfInput =>
    exact .unexpected (by simp [Event.Settled])

theorem settlesParentheses_readPrimary :
    SettlesParentheses limit tokens (readPrimary maxDepth deeper) := by
  intro opened cursor ahead
  refine .bind (keepsSettled_next ahead.toInside) ?_
  rintro _ _ ⟨rfl, rfl⟩
  refine .bind (keepsSettled_readOperandAt below ahead) ?_
  rintro operand after ⟨behind, guard⟩
  refine .bind (keeps_refuseCall ⟨behind.rest_ne_nil, behind.suffix⟩ fun _ => ?_) ?_
  · simp [Event.Settled]
  · rintro - _ ⟨noCall, rfl⟩
    exact .pure ⟨behind, guard, noCall⟩

theorem settlesParentheses_readUnary :
    SettlesParentheses limit tokens (readUnary maxDepth deeper) := by
  intro opened cursor ahead
  refine .bind (keepsSettled_peek ahead.toInside) ?_
  rintro _ cursor ⟨rfl, rfl⟩
  cases operator : prefixAhead? cursor.front with
  | some entry =>
    refine .bind (keepsSettled_next ahead.toInside) ?_
    rintro - _ ⟨-, rfl⟩
    have kind := (mem_of_prefixAhead? operator).1
    have passed := ahead.passes (by simp [kind]) (by simp [kind])
    refine .bind (settlesParentheses_nested (below .unary) _ opened _ passed) ?_
    intro operand after behind
    rw [Cursor.guard_advance] at behind
    exact .build trivial behind
  | none => exact settlesParentheses_readPrimary below opened cursor ahead

theorem keepsSettled_readLinks (minPrecedence links : Nat) {left : Chain} {guard : Nat}
    (behind : cursor.BehindOperand limit tokens opened guard) :
    (readLinks maxDepth deeper minPrecedence links left).Keeps (Event.Settled tokens) cursor
      fun _ after => after.BehindOperand limit tokens opened guard := by
  induction links generalizing left cursor with
  | zero => exact .pure behind
  | succ links ih =>
    refine .noted trivial (.bind (keepsSettled_peek behind.toInside) ?_)
    rintro _ cursor ⟨rfl, rfl⟩
    cases operator : infixAhead? minPrecedence cursor.front with
    | some entry =>
      refine .bind (keepsSettled_next behind.toInside) ?_
      rintro - _ ⟨-, rfl⟩
      have kind := (mem_of_infixAhead? operator).1
      have passed := behind.passes behind.noCall (by simp [kind])
      refine .bind (settlesParentheses_nested (below _) _ opened _ passed) ?_
      intro right after behindRight
      refine .bind (Chain.keeps_link (fun _ => by simp [Event.Settled]) fun _ => trivial) ?_
      rintro longer _ ⟨-, -, rfl⟩
      rw [Cursor.guard_advance, behind.guard_eq] at behindRight
      exact ih behindRight
    | none => exact .pure behind

theorem settlesParentheses_readOperation (minPrecedence : Nat) :
    SettlesParentheses limit tokens (readOperation maxDepth deeper minPrecedence) := by
  intro opened cursor ahead
  refine .bind (settlesParentheses_readUnary below opened cursor ahead) fun first after behind => ?_
  refine .bind .here ?_
  rintro _ _ ⟨rfl, rfl⟩
  exact keepsSettled_readLinks below minPrecedence _ behind

theorem settlesParentheses_readBranches :
    SettlesParentheses limit tokens (readBranches deeper) := by
  intro opened cursor ahead
  refine .bind (below .expression opened cursor ahead) fun consequent chosen between => ?_
  refine .bind (keepsSettled_expect between.toInside trivial fun _ => by simp [Event.Settled]) ?_
  rintro - _ ⟨colon, rfl⟩
  have passed := between.passes between.noCall (by simp [colon])
  refine .bind (below .expression opened _ passed) fun alternate after behind => ?_
  rw [Cursor.guard_advance, between.guard_eq] at behind
  exact .pure behind

theorem settlesParentheses_readExpression :
    SettlesParentheses limit tokens (readExpression maxDepth deeper) := by
  intro opened cursor ahead
  refine .bind (settlesParentheses_readOperation below 0 opened cursor ahead) ?_
  intro test tested behindTest
  refine .bind (keepsSettled_peek behindTest.toInside) ?_
  rintro _ tested ⟨rfl, rfl⟩
  split
  case isTrue question =>
    refine .bind (keepsSettled_next behindTest.toInside) ?_
    rintro - _ ⟨-, rfl⟩
    have passed := behindTest.passes behindTest.noCall (by simp [question])
    refine .bind
      (settlesParentheses_nested (settlesParentheses_readBranches below) _ opened _ passed) ?_
    intro branches after behind
    rw [Cursor.guard_advance, behindTest.guard_eq] at behind
    exact .build trivial behind
  case isFalse => exact .pure behindTest

theorem settlesParentheses_readers (phrase : Phrase) :
    SettlesParentheses limit tokens (readers maxDepth deeper phrase) := by
  cases phrase with
  | expression => exact settlesParentheses_readExpression below
  | operation minPrecedence => exact settlesParentheses_readOperation below minPrecedence
  | unary => exact settlesParentheses_readUnary below

end

theorem settlesParentheses_refuseDeeper (phrase : Phrase) :
    SettlesParentheses limit tokens (refuseDeeper maxDepth phrase) := by
  intro opened cursor ahead
  refine .bind (keepsSettled_peek ahead.toInside) ?_
  rintro _ _ ⟨rfl, rfl⟩
  exact .fail (by simp [Event.Settled])

theorem settlesParentheses_read (levels : Nat) (phrase : Phrase) :
    SettlesParentheses limit tokens (read maxDepth levels phrase) :=
  readersBelow_induction (motive := fun _ => SettlesParentheses limit tokens)
    settlesParentheses_refuseDeeper (fun _ => settlesParentheses_readers) (levels + 1) phrase

/-- At the end of the reading nothing is open, and the call that could be seen there has been
refused before. -/
theorem keepsSettled_readEnd {guard : Nat}
    (behind : cursor.BehindOperand limit tokens [] guard) :
    readEnd.Keeps (Event.Settled tokens) cursor fun _ _ => True := by
  refine .bind (keepsSettled_next behind.toInside) ?_
  rintro _ _ ⟨rfl, rfl⟩
  refine .noted ⟨behind.noCall, behind.not_closed⟩ ?_
  split
  case h_1 => exact .pure trivial
  case h_2 call => exact absurd call behind.noCall
  case h_3 => exact .unexpected (by simp [Event.Settled, behind.not_closed])

theorem keepsSettled_readFormula (ahead : cursor.Balanced limit tokens []) :
    (readFormula maxDepth).Keeps (Event.Settled tokens) cursor fun _ _ => True :=
  .bind (settlesParentheses_read maxDepth .expression [] cursor ahead) fun _ _ behind =>
    .bind (keepsSettled_readEnd behind) fun _ _ _ => .pure trivial

end Phrase

namespace Formula

/-- What happens when the tokens are read, and what does not, if their parentheses match. -/
structure ReadsSettled (maxDepth : Nat) (tokens : List Token) : Prop where
  -- Wherever the reader looks there is a token ahead, so the last one is not met a second time.
  looks : ∀ cursor, .looks cursor ∈ (Phrase.readFormula maxDepth).events (.start tokens) →
    cursor.rest ≠ [] ∧ cursor.rest <:+ tokens
  moves : ∀ cursor, .moves cursor ∈ (Phrase.readFormula maxDepth).events (.start tokens) →
    cursor.rest ≠ [] ∧ cursor.rest <:+ tokens
  -- The guard is never lowered from zero.
  leaves : ∀ cursor, .leaves cursor ∈ (Phrase.readFormula maxDepth).events (.start tokens) →
    0 < cursor.guard
  closing : ∀ found,
    .expects .closeParen found ∈ (Phrase.readFormula maxDepth).events (.start tokens) →
      found.kind ≠ .endOfInput
  ending : ∀ found,
    .expects .endOfInput found ∈ (Phrase.readFormula maxDepth).events (.start tokens) →
      found.kind ≠ .openParen ∧ found.kind ≠ .closeParen
  cause : ∀ error, ofTokens maxDepth tokens = .error error →
    error.cause ≠ .unexpected .endOfInput .closeParen ∧
      error.cause ≠ .unexpected .closeParen .operatorOrEnd

/-- **Tokens whose parentheses match are read without an error about a parenthesis**, whatever else
the reader finds wrong with them. The limit that the parentheses kept to may be another one. -/
theorem readsSettled_of_checkParentheses {limit : Nat} {tokens : List Token} (maxDepth : Nat)
    (ends : EndsOnce tokens) (checked : Token.checkParentheses limit tokens = .ok ()) :
    ReadsSettled maxDepth tokens := by
  have start : (Cursor.start tokens).Balanced limit tokens [] :=
    { suffix := List.suffix_refl tokens, endsOnce := ends, balanced := checked }
  have keeps : (Phrase.readFormula maxDepth).Keeps (Event.Settled tokens) (.start tokens)
      fun _ _ => True :=
    Phrase.keepsSettled_readFormula start
  exact {
    looks cursor found := keeps.good_of_mem _ found
    moves cursor found := keeps.good_of_mem _ found
    leaves cursor found := keeps.good_of_mem _ found
    closing token found := keeps.good_of_mem _ found
    ending token found := keeps.good_of_mem _ found
    cause error refused := keeps.of_on_error (Prod.ext refused rfl) }

/-- In `(a) b` the reader meets the `b` where the input could have ended, behind the parentheses. -/
theorem readsSettled_of_checkParentheses_group :
    let tokens : List Token := [⟨.openParen, ⟨0, 1⟩⟩, ⟨.identifier "a", ⟨1, 2⟩⟩,
      ⟨.closeParen, ⟨2, 3⟩⟩, ⟨.identifier "b", ⟨4, 5⟩⟩, ⟨.endOfInput, ⟨5, 5⟩⟩]
    EndsOnce tokens ∧ Token.checkParentheses 1 tokens = .ok () ∧
      .expects .endOfInput ⟨.identifier "b", ⟨4, 5⟩⟩ ∈
        (Phrase.readFormula 1).events (.start tokens) ∧ ReadsSettled 1 tokens := by
  intro tokens
  have ends : EndsOnce tokens := ⟨tokens.dropLast, ⟨.endOfInput, ⟨5, 5⟩⟩, rfl, rfl, by decide⟩
  have checked : Token.checkParentheses 1 tokens = .ok () := rfl
  exact ⟨ends, checked, by decide +kernel, readsSettled_of_checkParentheses 1 ends checked⟩

end Formula

end FieldFormula
