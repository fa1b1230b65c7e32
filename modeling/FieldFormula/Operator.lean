/-!
# Operators

The whole operator vocabulary of formulas. A symbol means an operator only through the two tables
here: `infixTable` for operators between two operands, `prefixTable` for operators before one. A
higher precedence binds tighter, and all infix operators group to the left. The conditional
`? :` is no operator; it binds more loosely than all of them.
-/

namespace FieldFormula

/-- An operator before one operand. -/
inductive PrefixOp where
  | negate
  | plus
  | not
  deriving DecidableEq, Repr

/-- An operator between two operands that are both evaluated. -/
inductive BinaryOp where
  | strictEquals
  | strictNotEquals
  | equals
  | notEquals
  | greater
  | less
  | greaterEquals
  | lessEquals
  | add
  | subtract
  | multiply
  | divide
  | remainder
  deriving DecidableEq, Repr

/-- An operator between two operands of which the second is evaluated only if it decides. -/
inductive LogicalOp where
  | and
  | or
  deriving DecidableEq, Repr

/-- An operator between two operands. -/
inductive InfixOp where
  | binary (op : BinaryOp)
  | logical (op : LogicalOp)
  deriving DecidableEq, Repr

def PrefixOp.all : List PrefixOp :=
  [.negate, .plus, .not]

def BinaryOp.all : List BinaryOp :=
  [.strictEquals, .strictNotEquals, .equals, .notEquals, .greater, .less, .greaterEquals,
    .lessEquals, .add, .subtract, .multiply, .divide, .remainder]

def LogicalOp.all : List LogicalOp :=
  [.and, .or]

/-! ### Symbols and names -/

/-- How the operator is written. -/
def PrefixOp.symbol : PrefixOp → String
  | .negate => "-"
  | .plus => "+"
  | .not => "!"

def BinaryOp.symbol : BinaryOp → String
  | .strictEquals => "==="
  | .strictNotEquals => "!=="
  | .equals => "=="
  | .notEquals => "!="
  | .greater => ">"
  | .less => "<"
  | .greaterEquals => ">="
  | .lessEquals => "<="
  | .add => "+"
  | .subtract => "-"
  | .multiply => "*"
  | .divide => "/"
  | .remainder => "%"

def LogicalOp.symbol : LogicalOp → String
  | .and => "&&"
  | .or => "||"

def InfixOp.symbol : InfixOp → String
  | .binary op => op.symbol
  | .logical op => op.symbol

/-- What the operator is called in descriptions of formulas. -/
def PrefixOp.name : PrefixOp → String
  | .negate => "Negate"
  | .plus => "Plus"
  | .not => "Not"

def BinaryOp.name : BinaryOp → String
  | .strictEquals => "StrictEquals"
  | .strictNotEquals => "StrictNotEquals"
  | .equals => "Equals"
  | .notEquals => "NotEquals"
  | .greater => "Greater"
  | .less => "Less"
  | .greaterEquals => "GreaterEquals"
  | .lessEquals => "LessEquals"
  | .add => "Add"
  | .subtract => "Subtract"
  | .multiply => "Multiply"
  | .divide => "Divide"
  | .remainder => "Remainder"

def LogicalOp.name : LogicalOp → String
  | .and => "And"
  | .or => "Or"

/-! ### The tables -/

/-- An infix operator with its symbol and its binding strength. -/
structure InfixEntry where
  symbol : String
  op : InfixOp
  precedence : Nat
  deriving DecidableEq, Repr

/-- A prefix operator with its symbol and its binding strength. -/
structure PrefixEntry where
  symbol : String
  op : PrefixOp
  precedence : Nat
  deriving DecidableEq, Repr

/-- Prefix operators bind tighter than all infix operators. -/
def prefixPrecedence : Nat := 7

/-- All infix operators, from the loosest to the tightest. -/
def infixTable : List InfixEntry :=
  [⟨"||", .logical .or, 1⟩,
    ⟨"&&", .logical .and, 2⟩,
    ⟨"===", .binary .strictEquals, 3⟩,
    ⟨"!==", .binary .strictNotEquals, 3⟩,
    ⟨"==", .binary .equals, 3⟩,
    ⟨"!=", .binary .notEquals, 3⟩,
    ⟨">", .binary .greater, 4⟩,
    ⟨"<", .binary .less, 4⟩,
    ⟨">=", .binary .greaterEquals, 4⟩,
    ⟨"<=", .binary .lessEquals, 4⟩,
    ⟨"+", .binary .add, 5⟩,
    ⟨"-", .binary .subtract, 5⟩,
    ⟨"*", .binary .multiply, 6⟩,
    ⟨"/", .binary .divide, 6⟩,
    ⟨"%", .binary .remainder, 6⟩]

def prefixTable : List PrefixEntry :=
  [⟨"-", .negate, prefixPrecedence⟩,
    ⟨"+", .plus, prefixPrecedence⟩,
    ⟨"!", .not, prefixPrecedence⟩]

def infixOfSymbol? (symbol : String) : Option InfixEntry :=
  infixTable.find? fun entry => entry.symbol == symbol

def prefixOfSymbol? (symbol : String) : Option PrefixEntry :=
  prefixTable.find? fun entry => entry.symbol == symbol

/-- The operator has an entry in the table. -/
def InfixOp.isListed (op : InfixOp) : Bool :=
  infixTable.any fun entry => entry.op == op

def PrefixOp.isListed (op : PrefixOp) : Bool :=
  prefixTable.any fun entry => entry.op == op

/-- All operator symbols, those of infix operators first. -/
def operatorSymbols : List String :=
  infixTable.map InfixEntry.symbol ++ prefixTable.map PrefixEntry.symbol

def longerSymbol (symbol : String) : Option String → String
  | none => symbol
  | some other => if other.length ≤ symbol.length then symbol else other

/-- The longest operator symbol that the text starts with, so that `!==` is not taken for `!=`. -/
def longestSymbol? (text : List Char) : Option String :=
  (operatorSymbols.filter fun symbol => symbol.toList.isPrefixOf text).foldr
    (fun symbol best => some (longerSymbol symbol best)) none

/-! ### What the tables say -/

theorem infixOfSymbol?_symbol (op : InfixOp) :
    ∃ precedence, infixOfSymbol? op.symbol = some ⟨op.symbol, op, precedence⟩ := by
  rcases op with op | op <;> cases op <;> exact ⟨_, rfl⟩

theorem prefixOfSymbol?_symbol (op : PrefixOp) :
    prefixOfSymbol? op.symbol = some ⟨op.symbol, op, prefixPrecedence⟩ := by
  cases op <;> rfl

theorem InfixOp.isListed_eq_true (op : InfixOp) : op.isListed = true := by
  rcases op with op | op <;> cases op <;> rfl

theorem PrefixOp.isListed_eq_true (op : PrefixOp) : op.isListed = true := by
  cases op <;> rfl

/-- Prefix operators bind tighter than infix operators. -/
theorem precedence_lt_prefixPrecedence {entry : InfixEntry} (member : entry ∈ infixTable) :
    entry.precedence < prefixPrecedence := by
  revert entry
  decide

end FieldFormula
