import FieldFormula.Number.Arithmetic
import FieldFormula.Operator

/-!
# Formulas

The tree of a formula. The type is closed: it has no form for access to a property, for indexing
or for a call, so nothing that works on formulas can meet one.
-/

namespace FieldFormula

inductive Literal where
  | number (value : Binary64)
  | text (value : String)
  | boolean (value : Bool)
  deriving DecidableEq

/-- A formula: a constant, the name of a field, or operators applied to formulas. -/
inductive Formula where
  | literal (value : Literal)
  | identifier (name : String)
  | unary (op : PrefixOp) (operand : Formula)
  | binary (op : BinaryOp) (left right : Formula)
  | logical (op : LogicalOp) (left right : Formula)
  | conditional (test consequent alternate : Formula)
  deriving DecidableEq

instance : Inhabited Formula := ⟨.literal (.boolean false)⟩

/-- The form of a formula at its root. -/
inductive Formula.Kind where
  | literal
  | identifier
  | unary
  | binary
  | logical
  | conditional
  deriving DecidableEq, Repr

def Formula.Kind.name : Formula.Kind → String
  | .literal => "Literal"
  | .identifier => "Identifier"
  | .unary => "Unary"
  | .binary => "Binary"
  | .logical => "Logical"
  | .conditional => "Conditional"

namespace Formula

def kind : Formula → Kind
  | .literal _ => .literal
  | .identifier _ => .identifier
  | .unary .. => .unary
  | .binary .. => .binary
  | .logical .. => .logical
  | .conditional .. => .conditional

def children : Formula → List Formula
  | .literal _ => []
  | .identifier _ => []
  | .unary _ operand => [operand]
  | .binary _ left right => [left, right]
  | .logical _ left right => [left, right]
  | .conditional test consequent alternate => [test, consequent, alternate]

/-- The formula of an infix operator between two operands. -/
def ofInfix (op : InfixOp) (left right : Formula) : Formula :=
  match op with
  | .binary op => .binary op left right
  | .logical op => .logical op left right

end Formula

/-! ### Numeric equality of formulas -/

/-- The two constants are equal, numbers as numbers: NaN differs from itself, and the two zeros
are equal. -/
def Literal.same : Literal → Literal → Bool
  | .number x, .number y => x.equals y
  | .text x, .text y => x == y
  | .boolean x, .boolean y => x == y
  | _, _ => false

/-- The two formulas have the same form, the same operators and names, and equal constants. -/
def Formula.same : Formula → Formula → Bool
  | .literal x, .literal y => x.same y
  | .identifier x, .identifier y => x == y
  | .unary op x, .unary op' x' => op == op' && x.same x'
  | .binary op x y, .binary op' x' y' => op == op' && x.same x' && y.same y'
  | .logical op x y, .logical op' x' y' => op == op' && x.same x' && y.same y'
  | .conditional x y z, .conditional x' y' z' => x.same x' && y.same y' && z.same z'
  | _, _ => false

end FieldFormula
