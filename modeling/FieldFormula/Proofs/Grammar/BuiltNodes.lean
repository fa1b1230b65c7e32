import FieldFormula.Proofs.Grammar.Events
import FieldFormula.Proofs.Traversal

/-!
# What is read has been built

The record of a reading misses no part of the answer: each node of the formula has been built on the
way. So what holds of all that is built holds of all of the answer.

## Main result

- `Reader.RecordsNodes.builds_mem`, with `Phrase.recordsNodes_readersBelow` for every level.
-/

namespace FieldFormula

namespace Reader

variable {α β : Type} {known : List Formula}

/-- The nodes that come with an answer are known before or get built in the reading. -/
def Accounts (known : List Formula) (reader : Reader α) (nodes : α → List Formula) : Prop :=
  ∀ ⦃cursor value after⦄, reader.on cursor = (.ok value, after) →
    ∀ node ∈ nodes value, node ∈ known ∨ .builds node ∈ reader.events cursor

/-- All nodes of the answer get built. -/
def RecordsNodes (reader : Reader Formula) : Prop :=
  Accounts [] reader Formula.walk

namespace Accounts

theorem pure {value : α} {nodes : α → List Formula} (listed : nodes value ⊆ known) :
    Accounts known (pure value) nodes := by
  rintro cursor _ _ ⟨⟩ node found
  exact .inl (listed found)

theorem fail {error : SyntaxError} {nodes : α → List Formula} :
    Accounts known (fail error) nodes := by
  rintro cursor _ _ ⟨⟩

/-- What is known before is known whatever is read. -/
theorem already {reader : Reader α} : Accounts known reader fun _ => known :=
  fun _ _ _ _ _ found => .inl found

theorem mono {reader : Reader α} {nodes fewer : α → List Formula}
    (accounts : Accounts known reader nodes) (listed : ∀ value, fewer value ⊆ nodes value) :
    Accounts known reader fewer :=
  fun _ value _ answers node found => accounts answers node (listed value found)

theorem bind {first : Reader α} {next : α → Reader β} {nodes : α → List Formula}
    {nextNodes : β → List Formula} (accounts : Accounts known first nodes)
    (rest : ∀ value, Accounts (nodes value) (next value) nextNodes) :
    Accounts known (first >>= next) nextNodes := by
  intro cursor value after answers node found
  rw [on_bind] at answers
  rw [events_bind]
  rcases ended : first.on cursor with ⟨_ | between, stop⟩ <;> rw [ended] at answers
  · cases answers
  · rcases rest between answers node found with before | now
    · exact (accounts ended node before).imp_right (List.mem_append_left _)
    · exact .inr (List.mem_append_right _ now)

theorem builds (formula : Formula) :
    Accounts known (note (.builds formula)) fun _ => formula :: known := by
  rintro cursor _ _ ⟨⟩ node found
  rcases List.mem_cons.1 found with rfl | before
  · exact .inr (by simp)
  · exact .inl before

theorem nested {maxDepth : Nat} {span : Span} {phrase : Reader α} {nodes : α → List Formula}
    (accounts : Accounts known phrase nodes) :
    Accounts known (nested maxDepth span phrase) nodes :=
  .bind already fun _ => .bind accounts fun _ => .bind already fun _ => .pure (List.Subset.refl _)

theorem walk_subset {formula : Formula} (below : formula.children.flatMap Formula.walk ⊆ known) :
    formula.walk ⊆ formula :: known := by
  rw [Formula.walk_eq]
  exact List.cons_subset_cons _ below

/-- A node is built on top of those below it. -/
theorem build {formula : Formula} (below : formula.children.flatMap Formula.walk ⊆ known) :
    Accounts known (build formula) Formula.walk :=
  .bind (builds formula) fun _ => .pure (walk_subset below)

end Accounts

/-- **All nodes of the answer are on record.** -/
theorem RecordsNodes.builds_mem {reader : Reader Formula} {cursor after : Cursor}
    {formula : Formula} (records : RecordsNodes reader)
    (answers : reader.on cursor = (.ok formula, after)) :
    ∀ node ∈ formula.walk, .builds node ∈ reader.events cursor :=
  fun node found => (records answers node found).resolve_left List.not_mem_nil

/-- What is known before is not forgotten in a reading that records its own nodes. -/
theorem RecordsNodes.accounts {reader : Reader Formula} (records : RecordsNodes reader) :
    Accounts known reader fun formula => known ++ formula.walk := by
  intro cursor formula after answers node found
  rcases List.mem_append.1 found with before | own
  · exact .inl before
  · exact .inr (records.builds_mem answers node own)

end Reader

namespace Phrase

open Reader (Accounts RecordsNodes)

theorem Chain.accounts_link {maxDepth : Nat} {left : Chain} {span : Span} {op : InfixOp}
    {right : Formula} :
    Accounts (left.formula.walk ++ right.walk) (left.link maxDepth span op right) fun longer =>
      longer.formula.walk := by
  unfold Chain.link
  split
  · exact .fail
  · have operands : (Formula.ofInfix op left.formula right).children.flatMap Formula.walk ⊆
        left.formula.walk ++ right.walk := by
      cases op <;> simp [Formula.ofInfix, Formula.children]
    exact .bind (.builds _) fun _ => .pure (Accounts.walk_subset operands)

/-! ### The readers of a level -/

section

variable {maxDepth : Nat} {deeper : Phrase → Reader Formula}
  (below : ∀ phrase, RecordsNodes (deeper phrase))

include below

theorem recordsNodes_readOperandAt (token : Token) :
    RecordsNodes (readOperandAt maxDepth deeper token) := by
  unfold readOperandAt
  cases token.kind with
  | number value => exact .build (by simp [Formula.children])
  | text value => exact .build (by simp [Formula.children])
  | boolean value => exact .build (by simp [Formula.children])
  | identifier name => exact .build (by simp [Formula.children])
  | openParen =>
    exact .nested (.bind (below .expression) fun inner => .bind .already fun _ =>
      .pure (List.Subset.refl _))
  | operator | closeParen | question | colon | endOfInput => exact .fail

theorem recordsNodes_readPrimary : RecordsNodes (readPrimary maxDepth deeper) :=
  .bind .already fun token => .bind (recordsNodes_readOperandAt below token) fun _ =>
    .bind .already fun _ => .pure (List.Subset.refl _)

theorem recordsNodes_readUnary : RecordsNodes (readUnary maxDepth deeper) := by
  refine .bind .already fun token => ?_
  cases prefixAhead? token with
  | some entry =>
    refine .bind .already fun _ => .bind (.nested (below .unary)) fun operand => .build ?_
    simp [Formula.children]
  | none => exact recordsNodes_readPrimary below

theorem accounts_readLinks (minPrecedence links : Nat) (left : Chain) :
    Accounts left.formula.walk (readLinks maxDepth deeper minPrecedence links left)
      Formula.walk := by
  induction links generalizing left with
  | zero => exact .pure (List.Subset.refl _)
  | succ links ih =>
    refine .bind .already fun _ => .bind .already fun token => ?_
    cases infixAhead? minPrecedence token with
    | some entry =>
      exact .bind .already fun _ => .bind (.nested (below _).accounts) fun right =>
        .bind Chain.accounts_link fun longer => ih longer
    | none => exact .pure (List.Subset.refl _)

theorem recordsNodes_readOperation (minPrecedence : Nat) :
    RecordsNodes (readOperation maxDepth deeper minPrecedence) :=
  .bind (recordsNodes_readUnary below) fun first => .bind .already fun _ =>
    accounts_readLinks below minPrecedence _ (.ofOperand first)

theorem accounts_readBranches {known : List Formula} :
    Accounts known (readBranches deeper) fun branches =>
      known ++ branches.1.walk ++ branches.2.walk :=
  .bind (below .expression).accounts fun _ => .bind .already fun _ =>
    .bind (below .expression).accounts fun _ => .pure (List.Subset.refl _)

theorem recordsNodes_readExpression : RecordsNodes (readExpression maxDepth deeper) := by
  refine .bind (recordsNodes_readOperation below 0) fun test => .bind .already fun token => ?_
  split
  · refine .bind .already fun _ => .bind (.nested (accounts_readBranches below)) fun branches => ?_
    refine .build ?_
    simp [Formula.children]
  · exact .pure (List.Subset.refl _)

theorem recordsNodes_readers (phrase : Phrase) : RecordsNodes (readers maxDepth deeper phrase) := by
  cases phrase with
  | expression => exact recordsNodes_readExpression below
  | operation minPrecedence => exact recordsNodes_readOperation below minPrecedence
  | unary => exact recordsNodes_readUnary below

end

theorem recordsNodes_readersBelow {maxDepth : Nat} (levels : Nat) (phrase : Phrase) :
    RecordsNodes (readersBelow maxDepth levels phrase) :=
  readersBelow_induction (motive := fun _ => RecordsNodes)
    (fun _ => .bind .already fun _ => .fail) (fun _ => recordsNodes_readers) levels phrase

end Phrase

end FieldFormula
