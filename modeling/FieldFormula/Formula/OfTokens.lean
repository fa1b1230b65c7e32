import FieldFormula.Formula.Reader
import FieldFormula.Formula.Traversal
import FieldFormula.Limits

/-!
# From tokens to a formula

The grammar of formulas, read by precedence climbing:

    expression  :  operation [ ? expression : expression ]
    operation   :  unary { infix operator  unary }          by precedence, to the left
    unary       :  prefix operator  unary  |  primary
    primary     :  number | text | boolean | name | ( expression )

A parenthesis right after an operand would be a call and is refused.

The phrases refer to each other only across an opening token (`?`, an operator or a parenthesis),
which is where the nesting is counted. So the reader of phrases is built level by level: `readers`
makes the readers of one level from `deeper`, the readers of the next.
-/

namespace FieldFormula

/-- The phrases that the grammar is asked for. -/
inductive Phrase where
  -- Anything that can stand in parentheses.
  | expression
  -- Operands joined by infix operators that have at least the given precedence.
  | operation (minPrecedence : Nat)
  -- An operand with its prefix operators.
  | unary
  deriving DecidableEq, Repr

namespace Phrase

/-! ### What the next token can start -/

/-- The prefix operator that the token stands for, if it does for one. -/
def prefixAhead? (token : Token) : Option PrefixEntry :=
  match token.kind with
  | .operator symbol => prefixOfSymbol? symbol
  | _ => none

/-- The infix operator that the token stands for, if it does for one that binds tightly enough. -/
def infixAhead? (minPrecedence : Nat) (token : Token) : Option InfixEntry :=
  match token.kind with
  | .operator symbol =>
    (infixOfSymbol? symbol).filter fun entry => minPrecedence ≤ entry.precedence
  | _ => none

/-! ### The readers of a level -/

variable (maxDepth : Nat) (deeper : Phrase → Reader Formula)

def refuseCall (operand : Formula) : Reader Unit := do
  let token ← Reader.peek
  if token.kind = .openParen then
    Reader.fail ⟨.call operand.identifier?, token.span⟩
  else
    return

/-- An expression and the parenthesis that closes it. -/
def readParenthesized : Reader Formula := do
  let inner ← deeper .expression
  Reader.expect .closeParen .closeParen
  return inner

/-- The operand that the token `token` starts. -/
def readOperandAt (token : Token) : Reader Formula :=
  match token.kind with
  | .number value => Reader.build (.literal (.number value))
  | .text value => Reader.build (.literal (.text value))
  | .boolean value => Reader.build (.literal (.boolean value))
  | .identifier name => Reader.build (.identifier name)
  | .openParen => Reader.nested maxDepth token.span (readParenthesized deeper)
  | _ => Reader.unexpected token .operand

def readPrimary : Reader Formula := do
  let token ← Reader.next
  let operand ← readOperandAt maxDepth deeper token
  refuseCall operand
  return operand

def readUnary : Reader Formula := do
  let token ← Reader.peek
  match prefixAhead? token with
  | some entry => do
    let _ ← Reader.next
    let operand ← Reader.nested maxDepth token.span (deeper .unary)
    Reader.build (.unary entry.op operand)
  | none => readPrimary maxDepth deeper

/-- A chain of operands, and the depth of its formula. -/
structure Chain where
  formula : Formula
  depth : Nat
  measured : depth = formula.depth

def Chain.ofOperand (operand : Formula) : Chain :=
  { formula := operand, depth := operand.depth, measured := rfl }

/-- The chain that an operator and its right operand continue. -/
def Chain.extend (left : Chain) (op : InfixOp) (right : Formula) : Chain :=
  { formula := .ofInfix op left.formula right
    depth := 1 + max left.depth right.depth
    measured := by rw [left.measured, Formula.depth_ofInfix] }

/-- Adds an operator and its right operand to the chain, which the operator at `span` makes
deeper. The chain is built without nesting, so its depth is checked here, before there is a
formula that is too deep. -/
def Chain.link (left : Chain) (span : Span) (op : InfixOp) (right : Formula) : Reader Chain :=
  if maxDepth < 1 + max left.depth right.depth then
    Reader.fail ⟨.chainTooDeep maxDepth, span⟩
  else do
    let longer := left.extend op right
    Reader.note (.builds longer.formula)
    return longer

/-- Adds operators with their right operands to the chain for as long as they bind tightly enough;
at most `links`. -/
def readLinks (minPrecedence : Nat) : (links : Nat) → Chain → Reader Formula
  | 0, left => return left.formula
  | links + 1, left => do
    Reader.note (.continues left.formula left.depth)
    let token ← Reader.peek
    match infixAhead? minPrecedence token with
    | some entry => do
      let _ ← Reader.next
      let right ← Reader.nested maxDepth token.span (deeper (.operation (entry.precedence + 1)))
      let longer ← left.link maxDepth token.span entry.op right
      readLinks minPrecedence links longer
    | none => return left.formula

/-- Operands joined by infix operators. There are no more operators than tokens, and behind these only
the last token can be an operator once more, one without an operand. -/
def readOperation (minPrecedence : Nat) : Reader Formula := do
  let first ← readUnary maxDepth deeper
  let cursor ← Reader.here
  readLinks maxDepth deeper minPrecedence (cursor.rest.length + 1) (.ofOperand first)

def readBranches : Reader (Formula × Formula) := do
  let consequent ← deeper .expression
  Reader.expect .colon .colon
  let alternate ← deeper .expression
  return (consequent, alternate)

/-- An operation, or a choice between two expressions by one. -/
def readExpression : Reader Formula := do
  let test ← readOperation maxDepth deeper 0
  let token ← Reader.peek
  if token.kind = .question then do
    let _ ← Reader.next
    let (consequent, alternate) ← Reader.nested maxDepth token.span (readBranches deeper)
    Reader.build (.conditional test consequent alternate)
  else
    return test

/-- The readers of one level of nesting. -/
def readers : Phrase → Reader Formula
  | .expression => readExpression maxDepth deeper
  | .operation minPrecedence => readOperation maxDepth deeper minPrecedence
  | .unary => readUnary maxDepth deeper

def refuseDeeper : Phrase → Reader Formula := fun _ => do
  let token ← Reader.peek
  Reader.fail ⟨.nestingTooDeep maxDepth, token.span⟩

/-- Reads a phrase that nests at most `levels` deep. With as many levels as the limit leaves,
`Reader.enter` refuses before they run out. -/
def read : (levels : Nat) → Phrase → Reader Formula
  | 0 => readers maxDepth (refuseDeeper maxDepth)
  | levels + 1 => readers maxDepth (read levels)

def readEnd : Reader Unit := do
  let token ← Reader.next
  Reader.note (.expects .endOfInput token)
  match token.kind with
  | .endOfInput => return
  | .openParen => Reader.fail ⟨.call none, token.span⟩
  | _ => Reader.unexpected token .operatorOrEnd

/-- Reads an expression that takes up all tokens. -/
def readFormula : Reader Formula := do
  let formula ← read maxDepth maxDepth .expression
  readEnd
  return formula

end Phrase

/-- The formula that the tokens spell from the first to the last. -/
def Formula.ofTokens (maxDepth : Nat) (tokens : List Token) : Except SyntaxError Formula :=
  ((Phrase.readFormula maxDepth).on (.start tokens)).1

end FieldFormula
