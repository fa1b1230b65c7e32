import FieldFormula.Formula.Traversal
import FieldFormula.Number.Shortest
import FieldFormula.Text.Alphabet
import FieldFormula.Text.Quoted

/-!
# Admissible nodes

A formula that was read from text has only names and constants that text can express. One put
together by hand may hold anything, so evaluation and validation ask `Formula.refusal?` about each
node. The question concerns the node alone, not the nodes below it.
-/

namespace FieldFormula

inductive Refusal.Reason where
  -- The number is NaN or infinite.
  | notFinite (value : Binary64)
  -- The text has a character that no formula may contain.
  | foreignCharacter (c : Char)
  -- The text contains both quote marks, so neither can stand around it.
  | mixedQuotes
  -- The name is not spelled like one, or is a reserved word.
  | invalidName (name : String)
  -- The operator has no entry in the table of its kind.
  | unlistedPrefix (op : PrefixOp)
  | unlistedInfix (op : InfixOp)
  deriving DecidableEq

/-- Why a node is not admitted. -/
structure Refusal where
  kind : Formula.Kind
  reason : Refusal.Reason
  deriving DecidableEq

def Refusal.Reason.message : Refusal.Reason → String
  | .notFinite value => "has non-finite number " ++ value.toText
  | .foreignCharacter c => "contains disallowed character " ++ Text.quoteChar c
  | .mixedQuotes => "mixes both quote characters"
  | .invalidName name => Text.quoteText name ++ " is not a valid identifier"
  | .unlistedPrefix op => "uses unsupported operator '" ++ op.symbol ++ "'"
  | .unlistedInfix op => "uses unsupported operator '" ++ op.symbol ++ "'"

def Refusal.message (refusal : Refusal) : String :=
  refusal.kind.name ++ " node " ++ refusal.reason.message

def Literal.flaw? : Literal → Option Refusal.Reason
  | .number value => if value.isFinite then none else some (.notFinite value)
  | .text value =>
    match value.toList.find? fun c => !Text.isAllowed c with
    | some c => some (.foreignCharacter c)
    | none =>
      if '"' ∈ value.toList ∧ '\'' ∈ value.toList then some .mixedQuotes else none
  | .boolean _ => none

namespace Formula

/-- What is wrong with the root node, if anything. -/
def flaw? : Formula → Option Refusal.Reason
  | .literal value => value.flaw?
  | .identifier name => if Text.isName name then none else some (.invalidName name)
  | .unary op _ => if op.isListed then none else some (.unlistedPrefix op)
  | .binary op _ _ =>
    if (InfixOp.binary op).isListed then none else some (.unlistedInfix (.binary op))
  | .logical op _ _ =>
    if (InfixOp.logical op).isListed then none else some (.unlistedInfix (.logical op))
  | .conditional .. => none

/-- Why the root node is not admitted; none if it is. -/
def refusal? (formula : Formula) : Option Refusal :=
  formula.flaw?.map fun reason => { kind := formula.kind, reason }

/-- The refusals of all nodes, in the order of the traversal. -/
def refusals (formula : Formula) : List Refusal :=
  formula.walk.filterMap refusal?

/-! ### No operator is refused

Each operator has an entry in the table of its kind, so only names and constants can be flawed.
-/

variable {left right operand : Formula}

@[simp] theorem flaw?_unary (op : PrefixOp) : (unary op operand).flaw? = none :=
  if_pos op.isListed_eq_true

@[simp] theorem flaw?_binary (op : BinaryOp) : (binary op left right).flaw? = none :=
  if_pos (InfixOp.isListed_eq_true (.binary op))

@[simp] theorem flaw?_logical (op : LogicalOp) : (logical op left right).flaw? = none :=
  if_pos (InfixOp.isListed_eq_true (.logical op))

/-- **No operator is refused**, with whatever operands. -/
theorem refusal?_of_children {formula : Formula} (operator : formula.children ≠ []) :
    formula.refusal? = none := by
  cases formula with
  | literal | identifier => simp [children] at operator
  | unary | binary | logical => simp [refusal?]
  | conditional => rfl

end Formula

end FieldFormula
