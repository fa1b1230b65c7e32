import FieldFormula.Formula.OfTokens

/-!
# How the tokens are read

The readers of a level are programs in a monad. Here their behaviour is written down as rules:
`Reads` says which formula a reader takes from the tokens and where it stops, `Fails` where and why
it gives up. `on_eq_ok_iff` and `on_eq_error_iff` show that the rules say all that the readers do,
so that other proofs go by induction on the rules and never open a reader.

A reader may be asked for more than the phrases of the grammar: `Task.links` continues a chain that
has been read so far, and `Task.operand` takes an operand before a call is looked for.
-/

namespace FieldFormula

/-! ### The end of the input -/

namespace Cursor

/-- What the tokens not yet consumed are. -/
def kinds (cursor : Cursor) : List Token.Kind :=
  cursor.rest.map Token.kind

/-- The end of the input is among the tokens ahead. It is never consumed, so there is always a token
ahead then. -/
def EndAhead (cursor : Cursor) : Prop :=
  .endOfInput ∈ cursor.kinds

variable {cursor : Cursor}

@[simp] theorem kinds_enter (cursor : Cursor) : cursor.enter.kinds = cursor.kinds := rfl

@[simp] theorem kinds_leave (cursor : Cursor) : cursor.leave.kinds = cursor.kinds := rfl

theorem kinds_advance (present : cursor.front.kind ≠ .endOfInput) :
    cursor.advance.kinds = cursor.kinds.tail := by
  rw [kinds, rest_advance present, List.map_tail, kinds]

namespace EndAhead

theorem enter (ended : cursor.EndAhead) : cursor.enter.EndAhead := ended

theorem leave (ended : cursor.EndAhead) : cursor.leave.EndAhead := ended

theorem rest_eq_cons (ended : cursor.EndAhead) : ∃ others, cursor.rest = cursor.front :: others := by
  cases ahead : cursor.rest with
  | nil => simp [EndAhead, kinds, ahead] at ended
  | cons token others => exact ⟨others, by simp [front, ahead]⟩

theorem rest_eq_cons_advance (ended : cursor.EndAhead)
    (present : cursor.front.kind ≠ .endOfInput) :
    cursor.rest = cursor.front :: cursor.advance.rest := by
  obtain ⟨others, ahead⟩ := ended.rest_eq_cons
  rw [rest_advance present, ahead, List.tail_cons]

theorem kinds_eq_cons {kind : Token.Kind} (ended : cursor.EndAhead)
    (ahead : cursor.front.kind = kind) (present : kind ≠ .endOfInput) :
    cursor.kinds = kind :: cursor.advance.kinds := by
  subst ahead
  rw [kinds, ended.rest_eq_cons_advance present]
  rfl

theorem advance (ended : cursor.EndAhead) : cursor.advance.EndAhead := by
  by_cases present : cursor.front.kind = .endOfInput
  · rwa [advance_of_endOfInput present]
  · -- Some other token is consumed, so the end of the input stands behind it.
    have spelled := ended.kinds_eq_cons rfl present
    unfold EndAhead at ended
    rcases List.mem_cons.1 (spelled ▸ ended) with front | behind
    · exact absurd front.symm present
    · exact behind

theorem length_advance_lt (ended : cursor.EndAhead) (present : cursor.front.kind ≠ .endOfInput) :
    cursor.advance.rest.length < cursor.rest.length := by
  rw [ended.rest_eq_cons_advance present]
  exact Nat.lt_succ_self _

theorem length_advance_lt_of_kind {kind : Token.Kind} (ended : cursor.EndAhead)
    (ahead : cursor.front.kind = kind) (present : kind ≠ .endOfInput) :
    cursor.advance.rest.length < cursor.rest.length :=
  ended.length_advance_lt (ahead ▸ present)

end EndAhead

end Cursor

namespace Phrase

/-! ### The rules -/

/-- What a reader is asked for. -/
inductive Task where
  | expression
  | operation (minPrecedence : Nat)
  -- The operators that bind tightly enough to go on with a chain, and their right operands.
  | links (minPrecedence : Nat) (left : Chain)
  | unary
  | primary
  -- An operand, whatever follows it.
  | operand

def task : Phrase → Task
  | .expression => .expression
  | .operation minPrecedence => .operation minPrecedence
  | .unary => .unary

/-- The formula that a single token stands for, if it does for one. -/
def leaf? : Token.Kind → Option Formula
  | .number value => some (.literal (.number value))
  | .text value => some (.literal (.text value))
  | .boolean value => some (.literal (.boolean value))
  | .identifier name => some (.identifier name)
  | _ => none

variable (maxDepth : Nat)

/-- The task reads a formula from the tokens behind the first cursor and stops at the second. -/
inductive Reads : Task → Cursor → Formula → Cursor → Prop
  -- Only a question mark makes an operation the test of a choice.
  | unconditional {cursor formula after} (test : Reads (.operation 0) cursor formula after)
    (noQuestion : after.front.kind ≠ .question) : Reads .expression cursor formula after
  | conditional {cursor test tested consequent chosen alternate after}
    (testRead : Reads (.operation 0) cursor test tested)
    (question : tested.front.kind = .question) (room : tested.guard < maxDepth)
    (consequentRead : Reads .expression tested.advance.enter consequent chosen)
    (colon : chosen.front.kind = .colon)
    (alternateRead : Reads .expression chosen.advance alternate after) :
    Reads .expression cursor (.conditional test consequent alternate) after.leave
  | chain {minPrecedence cursor first start formula after} (firstRead : Reads .unary cursor first start)
    (linksRead : Reads (.links minPrecedence (.ofOperand first)) start formula after) :
    Reads (.operation minPrecedence) cursor formula after
  -- A chain ends before an operator that binds too loosely, as before anything else.
  | chainEnds {minPrecedence left cursor}
    (noOperator : infixAhead? minPrecedence cursor.front = none) :
    Reads (.links minPrecedence left) cursor left.formula cursor
  | link {minPrecedence left cursor entry right operated formula after}
    (operator : infixAhead? minPrecedence cursor.front = some entry)
    (room : cursor.guard < maxDepth)
    (rightRead : Reads (.operation (entry.precedence + 1)) cursor.advance.enter right operated)
    (shallow : 1 + max left.depth right.depth ≤ maxDepth)
    (linksRead : Reads (.links minPrecedence (left.extend entry.op right)) operated.leave formula
      after) :
    Reads (.links minPrecedence left) cursor formula after
  | prefixed {cursor entry operand after} (operator : prefixAhead? cursor.front = some entry)
    (room : cursor.guard < maxDepth)
    (operandRead : Reads .unary cursor.advance.enter operand after) :
    Reads .unary cursor (.unary entry.op operand) after.leave
  | unprefixed {cursor formula after} (noOperator : prefixAhead? cursor.front = none)
    (primaryRead : Reads .primary cursor formula after) : Reads .unary cursor formula after
  | uncalled {cursor formula after} (operandRead : Reads .operand cursor formula after)
    (noCall : after.front.kind ≠ .openParen) : Reads .primary cursor formula after
  | leaf {cursor formula} (stands : leaf? cursor.front.kind = some formula) :
    Reads .operand cursor formula cursor.advance
  | group {cursor formula after} (opened : cursor.front.kind = .openParen)
    (room : cursor.guard < maxDepth)
    (innerRead : Reads .expression cursor.advance.enter formula after)
    (closed : after.front.kind = .closeParen) :
    Reads .operand cursor formula after.advance.leave

/-- The task fails with an error and leaves the second cursor behind. -/
inductive Fails : Task → Cursor → SyntaxError → Cursor → Prop
  -- Each rule of a reading fails at one of its premises, after the ones before it have been met.
  | test {cursor error after} (fails : Fails (.operation 0) cursor error after) :
    Fails .expression cursor error after
  | branchesTooDeep {cursor test tested} (testRead : Reads maxDepth (.operation 0) cursor test tested)
    (question : tested.front.kind = .question) (full : maxDepth ≤ tested.guard) :
    Fails .expression cursor ⟨.nestingTooDeep maxDepth, tested.front.span⟩ tested.advance
  | consequent {cursor test tested error after}
    (testRead : Reads maxDepth (.operation 0) cursor test tested)
    (question : tested.front.kind = .question) (room : tested.guard < maxDepth)
    (fails : Fails .expression tested.advance.enter error after) :
    Fails .expression cursor error after
  | colonMissing {cursor test tested consequent chosen}
    (testRead : Reads maxDepth (.operation 0) cursor test tested)
    (question : tested.front.kind = .question) (room : tested.guard < maxDepth)
    (consequentRead : Reads maxDepth .expression tested.advance.enter consequent chosen)
    (noColon : chosen.front.kind ≠ .colon) :
    Fails .expression cursor ⟨.unexpected chosen.front.kind .colon, chosen.front.span⟩
      chosen.advance
  | alternate {cursor test tested consequent chosen error after}
    (testRead : Reads maxDepth (.operation 0) cursor test tested)
    (question : tested.front.kind = .question) (room : tested.guard < maxDepth)
    (consequentRead : Reads maxDepth .expression tested.advance.enter consequent chosen)
    (colon : chosen.front.kind = .colon)
    (fails : Fails .expression chosen.advance error after) :
    Fails .expression cursor error after
  | first {minPrecedence cursor error after} (fails : Fails .unary cursor error after) :
    Fails (.operation minPrecedence) cursor error after
  | chain {minPrecedence cursor first start error after}
    (firstRead : Reads maxDepth .unary cursor first start)
    (fails : Fails (.links minPrecedence (.ofOperand first)) start error after) :
    Fails (.operation minPrecedence) cursor error after
  | rightTooDeep {minPrecedence left cursor entry}
    (operator : infixAhead? minPrecedence cursor.front = some entry)
    (full : maxDepth ≤ cursor.guard) :
    Fails (.links minPrecedence left) cursor ⟨.nestingTooDeep maxDepth, cursor.front.span⟩
      cursor.advance
  | right {minPrecedence left cursor entry error after}
    (operator : infixAhead? minPrecedence cursor.front = some entry)
    (room : cursor.guard < maxDepth)
    (fails : Fails (.operation (entry.precedence + 1)) cursor.advance.enter error after) :
    Fails (.links minPrecedence left) cursor error after
  | chainTooDeep {minPrecedence left cursor entry right operated}
    (operator : infixAhead? minPrecedence cursor.front = some entry)
    (room : cursor.guard < maxDepth)
    (rightRead : Reads maxDepth (.operation (entry.precedence + 1)) cursor.advance.enter right
      operated)
    (deep : maxDepth < 1 + max left.depth right.depth) :
    Fails (.links minPrecedence left) cursor ⟨.chainTooDeep maxDepth, cursor.front.span⟩
      operated.leave
  | link {minPrecedence left cursor entry right operated error after}
    (operator : infixAhead? minPrecedence cursor.front = some entry)
    (room : cursor.guard < maxDepth)
    (rightRead : Reads maxDepth (.operation (entry.precedence + 1)) cursor.advance.enter right
      operated)
    (shallow : 1 + max left.depth right.depth ≤ maxDepth)
    (fails : Fails (.links minPrecedence (left.extend entry.op right)) operated.leave error after) :
    Fails (.links minPrecedence left) cursor error after
  | prefixTooDeep {cursor entry} (operator : prefixAhead? cursor.front = some entry)
    (full : maxDepth ≤ cursor.guard) :
    Fails .unary cursor ⟨.nestingTooDeep maxDepth, cursor.front.span⟩ cursor.advance
  | prefixed {cursor entry error after} (operator : prefixAhead? cursor.front = some entry)
    (room : cursor.guard < maxDepth) (fails : Fails .unary cursor.advance.enter error after) :
    Fails .unary cursor error after
  | unprefixed {cursor error after} (noOperator : prefixAhead? cursor.front = none)
    (fails : Fails .primary cursor error after) : Fails .unary cursor error after
  | operand {cursor error after} (fails : Fails .operand cursor error after) :
    Fails .primary cursor error after
  | called {cursor formula after} (operandRead : Reads maxDepth .operand cursor formula after)
    (call : after.front.kind = .openParen) :
    Fails .primary cursor ⟨.call formula.identifier?, after.front.span⟩ after
  | noOperand {cursor} (noLeaf : leaf? cursor.front.kind = none)
    (notOpened : cursor.front.kind ≠ .openParen) :
    Fails .operand cursor ⟨.unexpected cursor.front.kind .operand, cursor.front.span⟩ cursor.advance
  | groupTooDeep {cursor} (opened : cursor.front.kind = .openParen)
    (full : maxDepth ≤ cursor.guard) :
    Fails .operand cursor ⟨.nestingTooDeep maxDepth, cursor.front.span⟩ cursor.advance
  | inner {cursor error after} (opened : cursor.front.kind = .openParen)
    (room : cursor.guard < maxDepth)
    (fails : Fails .expression cursor.advance.enter error after) :
    Fails .operand cursor error after
  | unclosed {cursor formula after} (opened : cursor.front.kind = .openParen)
    (room : cursor.guard < maxDepth)
    (innerRead : Reads maxDepth .expression cursor.advance.enter formula after)
    (notClosed : after.front.kind ≠ .closeParen) :
    Fails .operand cursor ⟨.unexpected after.front.kind .closeParen, after.front.span⟩
      after.advance

variable {maxDepth}

/-! ### Where a reading stops -/

/-- A formula leaves the guard as it was. -/
theorem Reads.guard_eq {task : Task} {cursor after : Cursor} {formula : Formula}
    (reads : Reads maxDepth task cursor formula after) : after.guard = cursor.guard := by
  -- Every rule that enters a nested phrase also leaves it.
  induction reads with
  | unconditional _ _ ih => exact ih
  | conditional _ _ _ _ _ _ iht ihc iha => simp_all
  | chain _ _ ihf ihl => exact ihl.trans ihf
  | chainEnds _ => rfl
  | link _ _ _ _ _ ihr ihl => simp_all
  | prefixed _ _ _ ih => simp_all
  | unprefixed _ _ ih => exact ih
  | uncalled _ _ ih => exact ih
  | leaf _ => exact Cursor.guard_advance _
  | group _ _ _ _ ih => simp_all

theorem endOfInput_of_leaf? {kind : Token.Kind} {formula : Formula}
    (stands : leaf? kind = some formula) : kind ≠ .endOfInput := by
  rintro rfl
  cases stands

theorem endOfInput_of_prefixAhead? {token : Token} {entry : PrefixEntry}
    (operator : prefixAhead? token = some entry) : token.kind ≠ .endOfInput := by
  intro ended
  simp [prefixAhead?, ended] at operator

theorem endOfInput_of_infixAhead? {minPrecedence : Nat} {token : Token} {entry : InfixEntry}
    (operator : infixAhead? minPrecedence token = some entry) : token.kind ≠ .endOfInput := by
  intro ended
  simp [infixAhead?, ended] at operator

theorem leaf?_of_infixAhead? {minPrecedence : Nat} {token : Token} {entry : InfixEntry}
    (operator : infixAhead? minPrecedence token = some entry) : leaf? token.kind = none := by
  cases kind : token.kind <;> simp [infixAhead?, kind] at operator
  rfl

/-- The end of the input stays ahead. -/
theorem Reads.endAhead {task : Task} {cursor after : Cursor} {formula : Formula}
    (reads : Reads maxDepth task cursor formula after) (ended : cursor.EndAhead) :
    after.EndAhead := by
  induction reads with
  | unconditional _ _ test => exact test ended
  | conditional _ _ _ _ _ _ test consequent alternate =>
    exact (alternate (consequent (test ended).advance.enter).advance).leave
  | chain _ _ first links => exact links (first ended)
  | chainEnds _ => exact ended
  | link _ _ _ _ _ right links => exact links (right ended.advance.enter).leave
  | prefixed _ _ _ operand => exact (operand ended.advance.enter).leave
  | unprefixed _ _ primary => exact primary ended
  | uncalled _ _ operand => exact operand ended
  | leaf _ => exact ended.advance
  | group _ _ _ _ inner => exact (inner ended.advance.enter).advance.leave

/-- A reading never goes back. -/
theorem Reads.length_le {task : Task} {cursor after : Cursor} {formula : Formula}
    (reads : Reads maxDepth task cursor formula after) :
    after.rest.length ≤ cursor.rest.length := by
  induction reads with
  | unconditional _ _ ih => exact ih
  | @conditional _ _ tested _ chosen _ _ _ _ _ _ _ _ iht ihc iha =>
    have question := tested.length_advance_le
    have colon := chosen.length_advance_le
    simp only [Cursor.rest_enter, Cursor.rest_leave] at *
    omega
  | chain _ _ ihf ihl => exact Nat.le_trans ihl ihf
  | chainEnds _ => exact Nat.le_refl _
  | @link _ _ cursor _ _ _ _ _ _ _ _ _ _ ihr ihl =>
    exact Nat.le_trans ihl (Nat.le_trans ihr cursor.length_advance_le)
  | @prefixed cursor _ _ _ _ _ _ ih => exact Nat.le_trans ih cursor.length_advance_le
  | unprefixed _ _ ih => exact ih
  | uncalled _ _ ih => exact ih
  | @leaf cursor _ _ => exact cursor.length_advance_le
  | @group cursor _ after _ _ _ _ ih =>
    exact Nat.le_trans after.length_advance_le (Nat.le_trans ih cursor.length_advance_le)

/-- The task goes on with a chain, so that it may end without an operand. -/
def Task.IsLinks : Task → Prop
  | .links .. => True
  | _ => False

/-- Once all tokens are consumed only the last one is met, over and over. What it lets be read starts
with an operand. -/
theorem Reads.leaf?_of_rest_eq_nil {task : Task} {cursor after : Cursor} {formula : Formula}
    (reads : Reads maxDepth task cursor formula after) (consumed : cursor.rest = [])
    (starts : ¬task.IsLinks) : leaf? cursor.front.kind ≠ none := by
  have again {cursor : Cursor} (consumed : cursor.rest = []) :=
    Cursor.front_advance_of_rest_eq_nil consumed
  induction reads with
  | unconditional _ _ test => exact test consumed id
  | conditional _ _ _ _ _ _ test => exact test consumed id
  | chain _ _ first => exact first consumed id
  | chainEnds _ => exact absurd trivial starts
  | link => exact absurd trivial starts
  | prefixed _ _ _ operand => exact (again consumed).2 ▸ operand (again consumed).1 id
  | unprefixed _ _ primary => exact primary consumed id
  | uncalled _ _ operand => exact operand consumed id
  | leaf stands => simp [stands]
  | group _ _ _ _ inner => exact (again consumed).2 ▸ inner (again consumed).1 id

/-- An operator and its right operand take up a token, since the last token is not both. -/
theorem Reads.length_lt_of_operator {minPrecedence precedence : Nat} {cursor operated : Cursor}
    {entry : InfixEntry} {right : Formula}
    (rightRead : Reads maxDepth (.operation precedence) cursor.advance.enter right operated)
    (operator : infixAhead? minPrecedence cursor.front = some entry) :
    operated.rest.length < cursor.rest.length := by
  by_cases consumed : cursor.rest = []
  · obtain ⟨stays, same⟩ := Cursor.front_advance_of_rest_eq_nil consumed
    have operand := rightRead.leaf?_of_rest_eq_nil stays id
    rw [Cursor.front_enter, same] at operand
    exact absurd (leaf?_of_infixAhead? operator) operand
  · have shorter := rightRead.length_le
    have present := List.length_pos_iff.2 consumed
    rw [Cursor.rest_enter, Cursor.rest_advance (endOfInput_of_infixAhead? operator),
      List.length_tail] at shorter
    omega

/-! ### The readers obey the rules -/

/-- The readers of the phrases one level below a level that has `levels` levels below it. -/
def readersBelow (maxDepth : Nat) : (levels : Nat) → Phrase → Reader Formula
  | 0 => refuseDeeper maxDepth
  | levels + 1 => read maxDepth levels

/-- The reader for a task on a level, where a chain may go on for so many links. -/
def Task.reader (maxDepth levels links : Nat) : Task → Reader Formula
  | .expression => readExpression maxDepth (readersBelow maxDepth levels)
  | .operation minPrecedence =>
    readOperation maxDepth (readersBelow maxDepth levels) minPrecedence
  | .links minPrecedence left =>
    readLinks maxDepth (readersBelow maxDepth levels) minPrecedence links left
  | .unary => readUnary maxDepth (readersBelow maxDepth levels)
  | .primary => readPrimary maxDepth (readersBelow maxDepth levels)
  | .operand => do
    let token ← Reader.next
    readOperandAt maxDepth (readersBelow maxDepth levels) token

theorem read_eq_reader (maxDepth levels links : Nat) (phrase : Phrase) :
    read maxDepth levels phrase = phrase.task.reader maxDepth levels links := by
  cases levels <;> cases phrase <;> rfl

theorem on_link (left : Chain) (span : Span) (op : InfixOp) (right : Formula) (cursor : Cursor) :
    Reader.on (left.link maxDepth span op right) cursor =
      if maxDepth < 1 + max left.depth right.depth then
        (.error ⟨.chainTooDeep maxDepth, span⟩, cursor)
      else
        (.ok (left.extend op right), cursor) := by
  by_cases deep : maxDepth < 1 + max left.depth right.depth <;> simp [Chain.link, deep]

theorem on_refuseCall (operand : Formula) (cursor : Cursor) :
    Reader.on (refuseCall operand) cursor =
      if cursor.front.kind = .openParen then
        (.error ⟨.call operand.identifier?, cursor.front.span⟩, cursor)
      else
        (.ok (), cursor) := by
  by_cases call : cursor.front.kind = .openParen <;> simp [refuseCall, call]

theorem on_readOperandAt (deeper : Phrase → Reader Formula) (token : Token) (cursor : Cursor) :
    Reader.on (readOperandAt maxDepth deeper token) cursor =
      match leaf? token.kind with
      | some formula => (.ok formula, cursor)
      | none =>
        if token.kind = .openParen then
          Reader.on (Reader.nested maxDepth token.span (readParenthesized deeper)) cursor
        else
          (.error ⟨.unexpected token.kind .operand, token.span⟩, cursor) := by
  unfold readOperandAt
  cases kind : token.kind <;> simp [leaf?, kind]

theorem on_nested_of_room {α : Type} (span : Span) (phrase : Reader α) {cursor : Cursor}
    (room : cursor.guard < maxDepth) :
    Reader.on (Reader.nested maxDepth span phrase) cursor =
      match Reader.on phrase cursor.enter with
      | (.ok result, after) => (.ok result, after.leave)
      | (.error error, after) => (.error error, after) :=
  (Reader.on_nested ..).trans (if_neg (Nat.not_le_of_lt room))

theorem on_nested_of_full {α : Type} (span : Span) (phrase : Reader α) {cursor : Cursor}
    (full : maxDepth ≤ cursor.guard) :
    Reader.on (Reader.nested maxDepth span phrase) cursor =
      (.error ⟨.nestingTooDeep maxDepth, span⟩, cursor) := by
  rw [Reader.on_nested, if_pos full]

/-- With enough levels below and more links than tokens ahead, the reader for the task has this
outcome. -/
def Answers (maxDepth : Nat) (task : Task) (cursor : Cursor)
    (outcome : Except SyntaxError Formula × Cursor) : Prop :=
  ∀ levels links, maxDepth ≤ cursor.guard + levels → cursor.rest.length < links →
    Reader.on (task.reader maxDepth levels links) cursor = outcome

/-- Inside a nested phrase there is one level less below, which is still enough. -/
theorem Answers.below (phrase : Phrase) (levels : Nat) {inner : Cursor}
    {outcome : Except SyntaxError Formula × Cursor}
    (answers : Answers maxDepth phrase.task inner outcome) (nested : inner.guard ≤ maxDepth)
    (enough : maxDepth < inner.guard + levels) :
    Reader.on (readersBelow maxDepth levels phrase) inner = outcome := by
  cases levels with
  | zero =>
    -- Without a level below, the guard would be past the limit already.
    omega
  | succ levels =>
    rw [readersBelow, read_eq_reader maxDepth levels (inner.rest.length + 1)]
    exact answers levels _ (by omega) (Nat.lt_succ_self _)

theorem Reads.answers {task : Task} {cursor after : Cursor} {formula : Formula}
    (reads : Reads maxDepth task cursor formula after) :
    Answers maxDepth task cursor (.ok formula, after) := by
  -- Each case runs the reader up to its parts and replaces those by what the induction says of
  -- them; the guard after a part shows that the levels suffice for the next one.
  induction reads with
  | unconditional _ noQuestion ih =>
    intro levels links enough fits
    have test := ih levels links enough fits
    simp only [Task.reader] at test
    simp [Task.reader, readExpression, test, noQuestion]
  | conditional testRead question room consequentRead colon alternateRead iht ihc iha =>
    intro levels links enough fits
    have same := testRead.guard_eq
    have sameInside := consequentRead.guard_eq
    simp only [Cursor.guard_enter, Cursor.guard_advance] at sameInside
    have test := iht levels links enough fits
    have consequent := ihc.below .expression levels
      (by simp; omega) (by simp; omega)
    have alternate := iha.below .expression levels
      (by simp; omega) (by simp; omega)
    simp only [Task.reader] at test
    simp [Task.reader, readExpression, readBranches, test, question, on_nested_of_room, room,
      consequent, Reader.on_expect, colon, alternate]
  | chain firstRead linksRead ihf ihl =>
    intro levels links enough fits
    have same := firstRead.guard_eq
    have first := ihf levels links enough fits
    have links := ihl levels _ (by omega) (Nat.lt_succ_self _)
    simp only [Task.reader] at first links
    simp [Task.reader, readOperation, first, links]
  | chainEnds noOperator =>
    intro levels links enough fits
    cases links with
    | zero => rfl
    | succ links => simp [Task.reader, readLinks, noOperator]
  | @link _ _ cursor _ _ operated _ _ operator room rightRead shallow _ ihr ihl =>
    intro levels links enough fits
    have shorter := rightRead.length_lt_of_operator operator
    have same := rightRead.guard_eq
    simp only [Cursor.guard_enter, Cursor.guard_advance] at same
    have right := ihr.below (.operation _) levels
      (by simp; omega) (by simp; omega)
    cases links with
    | zero => omega
    | succ links =>
      have later := ihl levels links (by simp; omega) (by simp; omega)
      simp only [Task.reader] at later
      simp [Task.reader, readLinks, operator, on_nested_of_room, room, right, on_link,
        Nat.not_lt_of_le shallow, later]
  | prefixed operator room operandRead ih =>
    intro levels links enough fits
    have operand := ih.below .unary levels
      (by simp; omega) (by simp; omega)
    simp [Task.reader, readUnary, operator, on_nested_of_room, room, operand]
  | unprefixed noOperator _ ih =>
    intro levels links enough fits
    have primary := ih levels links enough fits
    simp only [Task.reader] at primary
    simp [Task.reader, readUnary, noOperator, primary]
  | uncalled _ noCall ih =>
    intro levels links enough fits
    have operand := ih levels links enough fits
    simp only [Task.reader, Reader.on_bind, Reader.on_next] at operand
    simp [Task.reader, readPrimary, operand, on_refuseCall, noCall]
  | leaf stands =>
    intro levels links enough fits
    simp [Task.reader, on_readOperandAt, stands]
  | group opened room innerRead closed ih =>
    intro levels links enough fits
    have same := innerRead.guard_eq
    have inner := ih.below .expression levels
      (by simp; omega) (by simp; omega)
    simp [Task.reader, on_readOperandAt, opened, leaf?, on_nested_of_room, room, readParenthesized,
      inner, Reader.on_expect, closed]

theorem Fails.answers {task : Task} {cursor after : Cursor} {error : SyntaxError}
    (fails : Fails maxDepth task cursor error after) :
    Answers maxDepth task cursor (.error error, after) := by
  -- The parts that are read before the failing one are known from `Reads.answers`.
  induction fails with
  | test _ ih =>
    intro levels links enough fits
    have test := ih levels links enough fits
    simp only [Task.reader] at test
    simp [Task.reader, readExpression, test]
  | branchesTooDeep testRead question full =>
    intro levels links enough fits
    have test := testRead.answers levels links enough fits
    simp only [Task.reader] at test
    simp [Task.reader, readExpression, test, question, on_nested_of_full, full]
  | consequent testRead question room _ ih =>
    intro levels links enough fits
    have same := testRead.guard_eq
    have test := testRead.answers levels links enough fits
    have consequent := ih.below .expression levels
      (by simp; omega) (by simp; omega)
    simp only [Task.reader] at test
    simp [Task.reader, readExpression, readBranches, test, question, on_nested_of_room, room,
      consequent]
  | colonMissing testRead question room consequentRead noColon =>
    intro levels links enough fits
    have same := testRead.guard_eq
    have test := testRead.answers levels links enough fits
    have consequent := consequentRead.answers.below .expression levels
      (by simp; omega) (by simp; omega)
    simp only [Task.reader] at test
    simp [Task.reader, readExpression, readBranches, test, question, on_nested_of_room, room,
      consequent, Reader.on_expect, noColon]
  | alternate testRead question room consequentRead colon _ ih =>
    intro levels links enough fits
    have same := testRead.guard_eq
    have sameInside := consequentRead.guard_eq
    simp only [Cursor.guard_enter, Cursor.guard_advance] at sameInside
    have test := testRead.answers levels links enough fits
    have consequent := consequentRead.answers.below .expression levels
      (by simp; omega) (by simp; omega)
    have alternate := ih.below .expression levels
      (by simp; omega) (by simp; omega)
    simp only [Task.reader] at test
    simp [Task.reader, readExpression, readBranches, test, question, on_nested_of_room, room,
      consequent, Reader.on_expect, colon, alternate]
  | first _ ih =>
    intro levels links enough fits
    have first := ih levels links enough fits
    simp only [Task.reader] at first
    simp [Task.reader, readOperation, first]
  | chain firstRead _ ih =>
    intro levels links enough fits
    have same := firstRead.guard_eq
    have first := firstRead.answers levels links enough fits
    have links := ih levels _ (by omega) (Nat.lt_succ_self _)
    simp only [Task.reader] at first links
    simp [Task.reader, readOperation, first, links]
  | rightTooDeep operator full =>
    intro levels links enough fits
    cases links with
    | zero => omega
    | succ links => simp [Task.reader, readLinks, operator, on_nested_of_full, full]
  | right operator room _ ih =>
    intro levels links enough fits
    have right := ih.below (.operation _) levels
      (by simp; omega) (by simp; omega)
    cases links with
    | zero => omega
    | succ links => simp [Task.reader, readLinks, operator, on_nested_of_room, room, right]
  | chainTooDeep operator room rightRead deep =>
    intro levels links enough fits
    have right := rightRead.answers.below (.operation _) levels
      (by simp; omega) (by simp; omega)
    cases links with
    | zero => omega
    | succ links =>
      simp [Task.reader, readLinks, operator, on_nested_of_room, room, right, on_link, deep]
  | link operator room rightRead shallow _ ih =>
    intro levels links enough fits
    have shorter := rightRead.length_lt_of_operator operator
    have same := rightRead.guard_eq
    simp only [Cursor.guard_enter, Cursor.guard_advance] at same
    have right := rightRead.answers.below (.operation _) levels
      (by simp; omega) (by simp; omega)
    cases links with
    | zero => omega
    | succ links =>
      have later := ih levels links (by simp; omega) (by simp; omega)
      simp only [Task.reader] at later
      simp [Task.reader, readLinks, operator, on_nested_of_room, room, right, on_link,
        Nat.not_lt_of_le shallow, later]
  | prefixTooDeep operator full =>
    intro levels links enough fits
    simp [Task.reader, readUnary, operator, on_nested_of_full, full]
  | prefixed operator room _ ih =>
    intro levels links enough fits
    have operand := ih.below .unary levels
      (by simp; omega) (by simp; omega)
    simp [Task.reader, readUnary, operator, on_nested_of_room, room, operand]
  | unprefixed noOperator _ ih =>
    intro levels links enough fits
    have primary := ih levels links enough fits
    simp only [Task.reader] at primary
    simp [Task.reader, readUnary, noOperator, primary]
  | operand _ ih =>
    intro levels links enough fits
    have operand := ih levels links enough fits
    simp only [Task.reader, Reader.on_bind, Reader.on_next] at operand
    simp [Task.reader, readPrimary, operand]
  | called operandRead call =>
    intro levels links enough fits
    have operand := operandRead.answers levels links enough fits
    simp only [Task.reader, Reader.on_bind, Reader.on_next] at operand
    simp [Task.reader, readPrimary, operand, on_refuseCall, call]
  | noOperand noLeaf notOpened =>
    intro levels links enough fits
    simp [Task.reader, on_readOperandAt, noLeaf, notOpened]
  | groupTooDeep opened full =>
    intro levels links enough fits
    simp [Task.reader, on_readOperandAt, opened, leaf?, on_nested_of_full, full]
  | inner opened room _ ih =>
    intro levels links enough fits
    have inner := ih.below .expression levels
      (by simp; omega) (by simp; omega)
    simp [Task.reader, on_readOperandAt, opened, leaf?, on_nested_of_room, room, readParenthesized,
      inner]
  | unclosed opened room innerRead notClosed =>
    intro levels links enough fits
    have inner := innerRead.answers.below .expression levels
      (by simp; omega) (by simp; omega)
    simp [Task.reader, on_readOperandAt, opened, leaf?, on_nested_of_room, room, readParenthesized,
      inner, Reader.on_expect, notClosed]

/-! ### The rules cover all runs -/

def Settles (maxDepth : Nat) (task : Task) (cursor : Cursor) : Prop :=
  (∃ formula after, Reads maxDepth task cursor formula after) ∨
    ∃ error after, Fails maxDepth task cursor error after

/-- Every task settles inside a phrase that may be entered where the guard is at `guard`. -/
def SettlesInside (maxDepth guard : Nat) : Prop :=
  guard < maxDepth → ∀ task inner, inner.guard = guard + 1 → Settles maxDepth task inner

theorem settles_operand {cursor : Cursor} (inside : SettlesInside maxDepth cursor.guard) :
    Settles maxDepth .operand cursor := by
  cases stands : leaf? cursor.front.kind with
  | some formula => exact .inl ⟨_, _, .leaf stands⟩
  | none =>
    by_cases opened : cursor.front.kind = .openParen
    · by_cases room : cursor.guard < maxDepth
      · rcases inside room .expression cursor.advance.enter (by simp) with
          ⟨formula, after, inner⟩ | ⟨error, after, inner⟩
        · by_cases closed : after.front.kind = .closeParen
          · exact .inl ⟨_, _, .group opened room inner closed⟩
          · exact .inr ⟨_, _, .unclosed opened room inner closed⟩
        · exact .inr ⟨_, _, .inner opened room inner⟩
      · exact .inr ⟨_, _, .groupTooDeep opened (Nat.le_of_not_lt room)⟩
    · exact .inr ⟨_, _, .noOperand stands opened⟩

theorem settles_primary {cursor : Cursor} (inside : SettlesInside maxDepth cursor.guard) :
    Settles maxDepth .primary cursor := by
  rcases settles_operand inside with ⟨formula, after, operand⟩ | ⟨error, after, operand⟩
  · by_cases call : after.front.kind = .openParen
    · exact .inr ⟨_, _, .called operand call⟩
    · exact .inl ⟨_, _, .uncalled operand call⟩
  · exact .inr ⟨_, _, .operand operand⟩

theorem settles_unary {cursor : Cursor} (inside : SettlesInside maxDepth cursor.guard) :
    Settles maxDepth .unary cursor := by
  cases ahead : prefixAhead? cursor.front with
  | none =>
    rcases settles_primary inside with ⟨formula, after, primary⟩ | ⟨error, after, primary⟩
    · exact .inl ⟨_, _, .unprefixed ahead primary⟩
    · exact .inr ⟨_, _, .unprefixed ahead primary⟩
  | some entry =>
    by_cases room : cursor.guard < maxDepth
    · rcases inside room .unary cursor.advance.enter (by simp) with
        ⟨formula, after, operand⟩ | ⟨error, after, operand⟩
      · exact .inl ⟨_, _, .prefixed ahead room operand⟩
      · exact .inr ⟨_, _, .prefixed ahead room operand⟩
    · exact .inr ⟨_, _, .prefixTooDeep ahead (Nat.le_of_not_lt room)⟩

theorem settles_links (minPrecedence : Nat) (left : Chain) {cursor : Cursor}
    (inside : SettlesInside maxDepth cursor.guard) :
    Settles maxDepth (.links minPrecedence left) cursor := by
  -- Each link of a chain takes up a token.
  induction ahead : cursor.rest.length using Nat.strongRecOn generalizing left cursor with
  | _ count ih =>
    subst ahead
    cases ahead : infixAhead? minPrecedence cursor.front with
    | none => exact .inl ⟨_, _, .chainEnds ahead⟩
    | some entry =>
      by_cases room : cursor.guard < maxDepth
      · rcases inside room (.operation (entry.precedence + 1)) cursor.advance.enter (by simp) with
          ⟨right, operated, rightRead⟩ | ⟨error, after, rightFails⟩
        · by_cases shallow : 1 + max left.depth right.depth ≤ maxDepth
          · have same : operated.leave.guard = cursor.guard := by simp [rightRead.guard_eq]
            rw [← same] at inside
            rcases ih _ (rightRead.length_lt_of_operator ahead) (left.extend entry.op right) inside
                rfl with ⟨formula, after, later⟩ | ⟨error, after, later⟩
            · exact .inl ⟨_, _, .link ahead room rightRead shallow later⟩
            · exact .inr ⟨_, _, .link ahead room rightRead shallow later⟩
          · exact .inr ⟨_, _, .chainTooDeep ahead room rightRead (Nat.lt_of_not_le shallow)⟩
        · exact .inr ⟨_, _, .right ahead room rightFails⟩
      · exact .inr ⟨_, _, .rightTooDeep ahead (Nat.le_of_not_lt room)⟩

theorem settles_operation (minPrecedence : Nat) {cursor : Cursor}
    (inside : SettlesInside maxDepth cursor.guard) :
    Settles maxDepth (.operation minPrecedence) cursor := by
  rcases settles_unary inside with ⟨first, start, firstRead⟩ | ⟨error, after, firstFails⟩
  · rw [← firstRead.guard_eq] at inside
    rcases settles_links minPrecedence (.ofOperand first) inside with
      ⟨formula, after, links⟩ | ⟨error, after, links⟩
    · exact .inl ⟨_, _, .chain firstRead links⟩
    · exact .inr ⟨_, _, .chain firstRead links⟩
  · exact .inr ⟨_, _, .first firstFails⟩

theorem settles_expression {cursor : Cursor} (inside : SettlesInside maxDepth cursor.guard) :
    Settles maxDepth .expression cursor := by
  rcases settles_operation 0 inside with ⟨test, tested, testRead⟩ | ⟨error, after, testFails⟩
  · rw [← testRead.guard_eq] at inside
    by_cases question : tested.front.kind = .question
    · by_cases room : tested.guard < maxDepth
      · rcases inside room .expression tested.advance.enter (by simp) with
          ⟨consequent, chosen, consequentRead⟩ | ⟨error, after, consequentFails⟩
        · by_cases colon : chosen.front.kind = .colon
          · rcases inside room .expression chosen.advance (by simp [consequentRead.guard_eq]) with
              ⟨alternate, after, alternateRead⟩ | ⟨error, after, alternateFails⟩
            · exact .inl ⟨_, _, .conditional testRead question room consequentRead colon
                alternateRead⟩
            · exact .inr ⟨_, _, .alternate testRead question room consequentRead colon
                alternateFails⟩
          · exact .inr ⟨_, _, .colonMissing testRead question room consequentRead colon⟩
        · exact .inr ⟨_, _, .consequent testRead question room consequentFails⟩
      · exact .inr ⟨_, _, .branchesTooDeep testRead question (Nat.le_of_not_lt room)⟩
    · exact .inl ⟨_, _, .unconditional testRead question⟩
  · exact .inr ⟨_, _, .test testFails⟩

theorem settles (maxDepth : Nat) (task : Task) (cursor : Cursor) : Settles maxDepth task cursor := by
  -- Tasks for the same cursor ask for each other in one direction only, and for anything else inside
  -- a nested phrase, where the guard leaves less room.
  induction room : maxDepth - cursor.guard using Nat.strongRecOn generalizing task cursor with
  | _ count ih =>
    subst room
    have inside : SettlesInside maxDepth cursor.guard := fun room task inner entered =>
      ih (maxDepth - inner.guard) (by omega) task inner rfl
    cases task with
    | expression => exact settles_expression inside
    | operation minPrecedence => exact settles_operation minPrecedence inside
    | links minPrecedence left => exact settles_links minPrecedence left inside
    | unary => exact settles_unary inside
    | primary => exact settles_primary inside
    | operand => exact settles_operand inside

/-- **A reader succeeds as the rules say**, if the levels suffice. -/
theorem on_eq_ok_iff (phrase : Phrase) {levels : Nat} {cursor after : Cursor} {formula : Formula}
    (enough : maxDepth ≤ cursor.guard + levels) :
    Reader.on (read maxDepth levels phrase) cursor = (.ok formula, after) ↔
      Reads maxDepth phrase.task cursor formula after := by
  rw [read_eq_reader maxDepth levels (cursor.rest.length + 1)]
  constructor
  · intro succeeded
    rcases settles maxDepth phrase.task cursor with ⟨other, stop, reads⟩ | ⟨error, stop, fails⟩
    · have same := reads.answers levels _ enough (Nat.lt_succ_self _)
      rw [succeeded] at same
      cases same
      exact reads
    · have failed := fails.answers levels _ enough (Nat.lt_succ_self _)
      rw [succeeded] at failed
      cases failed
  · intro reads
    exact reads.answers levels _ enough (Nat.lt_succ_self _)

/-- **A reader fails as the rules say**, if the levels suffice. -/
theorem on_eq_error_iff (phrase : Phrase) {levels : Nat} {cursor after : Cursor}
    {error : SyntaxError} (enough : maxDepth ≤ cursor.guard + levels) :
    Reader.on (read maxDepth levels phrase) cursor = (.error error, after) ↔
      Fails maxDepth phrase.task cursor error after := by
  rw [read_eq_reader maxDepth levels (cursor.rest.length + 1)]
  constructor
  · intro failed
    rcases settles maxDepth phrase.task cursor with ⟨formula, stop, reads⟩ | ⟨other, stop, fails⟩
    · have succeeded := reads.answers levels _ enough (Nat.lt_succ_self _)
      rw [failed] at succeeded
      cases succeeded
    · have same := fails.answers levels _ enough (Nat.lt_succ_self _)
      rw [failed] at same
      cases same
      exact fails
  · intro fails
    exact fails.answers levels _ enough (Nat.lt_succ_self _)

/-! ### Errors of the grammar -/

/-- A cause that the grammar gives for not reading on. -/
inductive OfGrammar (maxDepth : Nat) : SyntaxError.Cause → Prop
  | unexpected (found : Token.Kind) (wanted : SyntaxError.Wanted) :
    OfGrammar maxDepth (.unexpected found wanted)
  | call (callee : Option String) : OfGrammar maxDepth (.call callee)
  | nestingTooDeep : OfGrammar maxDepth (.nestingTooDeep maxDepth)
  | chainTooDeep : OfGrammar maxDepth (.chainTooDeep maxDepth)

theorem Fails.ofGrammar {task : Task} {cursor after : Cursor} {error : SyntaxError}
    (fails : Fails maxDepth task cursor error after) : OfGrammar maxDepth error.cause := by
  induction fails with
  | branchesTooDeep => exact .nestingTooDeep
  | colonMissing => exact .unexpected _ _
  | rightTooDeep => exact .nestingTooDeep
  | chainTooDeep => exact .chainTooDeep
  | prefixTooDeep => exact .nestingTooDeep
  | called => exact .call _
  | noOperand => exact .unexpected _ _
  | groupTooDeep => exact .nestingTooDeep
  | unclosed => exact .unexpected _ _
  -- Everywhere else the error comes from a part of the phrase.
  | _ => assumption

/-! ### Reading a whole token list -/

/-- What does not end the input where an operator could stand. -/
def endError (found : Token) : SyntaxError :=
  if found.kind = .openParen then
    ⟨.call none, found.span⟩
  else
    ⟨.unexpected found.kind .operatorOrEnd, found.span⟩

theorem on_readEnd (cursor : Cursor) :
    Reader.on readEnd cursor =
      if cursor.front.kind = .endOfInput then
        (.ok (), cursor.advance)
      else
        (.error (endError cursor.front), cursor.advance) := by
  cases kind : cursor.front.kind <;> simp [readEnd, kind, endError]

end Phrase

/-- The tokens spell a formula if the reading of it stops at the end of the input. -/
theorem Formula.ofTokens_eq_ok_iff {maxDepth : Nat} {tokens : List Token} {formula : Formula} :
    ofTokens maxDepth tokens = .ok formula ↔
      ∃ after, Phrase.Reads maxDepth .expression (.start tokens) formula after ∧
        after.front.kind = .endOfInput := by
  have settled := Phrase.settles maxDepth .expression (.start tokens)
  -- The guard starts at zero, so the limit itself is the number of levels that suffices.
  have enough : maxDepth ≤ (Cursor.start tokens).guard + maxDepth := Nat.le_add_left _ _
  rw [ofTokens, Phrase.readFormula]
  constructor
  · intro succeeded
    rcases settled with ⟨read, after, reads⟩ | ⟨error, after, fails⟩
    · rw [Reader.on_bind, (Phrase.on_eq_ok_iff .expression enough).2 reads] at succeeded
      by_cases ended : after.front.kind = .endOfInput
      · simp [Phrase.on_readEnd, ended] at succeeded
        exact ⟨after, succeeded ▸ reads, ended⟩
      · simp [Phrase.on_readEnd, ended] at succeeded
    · rw [Reader.on_bind, (Phrase.on_eq_error_iff .expression enough).2 fails]
        at succeeded
      simp at succeeded
  · rintro ⟨after, reads, ended⟩
    rw [Reader.on_bind, (Phrase.on_eq_ok_iff .expression enough).2 reads]
    simp [Phrase.on_readEnd, ended]

/-- The tokens spell no formula if none can be read, or if it ends too early. -/
theorem Formula.ofTokens_eq_error_iff {maxDepth : Nat} {tokens : List Token}
    {error : SyntaxError} :
    ofTokens maxDepth tokens = .error error ↔
      (∃ after, Phrase.Fails maxDepth .expression (.start tokens) error after) ∨
        ∃ formula after, Phrase.Reads maxDepth .expression (.start tokens) formula after ∧
          after.front.kind ≠ .endOfInput ∧ error = Phrase.endError after.front := by
  have settled := Phrase.settles maxDepth .expression (.start tokens)
  have enough : maxDepth ≤ (Cursor.start tokens).guard + maxDepth := Nat.le_add_left _ _
  rw [ofTokens, Phrase.readFormula]
  constructor
  · intro failed
    rcases settled with ⟨read, after, reads⟩ | ⟨other, after, fails⟩
    · rw [Reader.on_bind, (Phrase.on_eq_ok_iff .expression enough).2 reads] at failed
      by_cases ended : after.front.kind = .endOfInput
      · simp [Phrase.on_readEnd, ended] at failed
      · simp [Phrase.on_readEnd, ended] at failed
        exact .inr ⟨read, after, reads, ended, failed.symm⟩
    · rw [Reader.on_bind, (Phrase.on_eq_error_iff .expression enough).2 fails] at failed
      simp at failed
      exact .inl ⟨after, failed ▸ fails⟩
  · rintro (⟨after, fails⟩ | ⟨read, after, reads, ended, rfl⟩)
    · rw [Reader.on_bind, (Phrase.on_eq_error_iff .expression enough).2 fails]
    · rw [Reader.on_bind, (Phrase.on_eq_ok_iff .expression enough).2 reads]
      simp [Phrase.on_readEnd, ended]

theorem Formula.ofTokens_error {maxDepth : Nat} {tokens : List Token} {error : SyntaxError}
    (failed : ofTokens maxDepth tokens = .error error) : Phrase.OfGrammar maxDepth error.cause := by
  rcases ofTokens_eq_error_iff.1 failed with ⟨after, fails⟩ | ⟨formula, after, _, _, rfl⟩
  · exact fails.ofGrammar
  · unfold Phrase.endError
    split
    · exact .call _
    · exact .unexpected _ _

end FieldFormula
