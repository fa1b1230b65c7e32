import FieldFormula.Formula.Basic
import FieldFormula.Number.Shortest

/-!
# The canonical text of a formula

Every operator application stands in parentheses of its own, so the text shows the tree. Formulas
have no escapes inside quoted texts: a text that contains `"` is put between `'`.
-/

namespace FieldFormula

/-- The quote mark to put around a text. -/
def quoteMark (text : List Char) : Char :=
  if '"' ∈ text then '\'' else '"'

def Literal.spelling : Literal → List Char
  | .number value => value.spelling
  | .text value => quoteMark value.toList :: value.toList ++ [quoteMark value.toList]
  | .boolean value => (if value then "true" else "false").toList

namespace Formula

def parenthesized (inner : List Char) : List Char :=
  '(' :: inner ++ [')']

def spellInfix (left : List Char) (symbol : String) (right : List Char) : List Char :=
  parenthesized (left ++ ' ' :: symbol.toList ++ ' ' :: right)

/-- The characters of the canonical text. -/
def spelling : Formula → List Char
  | .literal value => value.spelling
  | .identifier name => name.toList
  | .unary op operand => parenthesized (op.symbol.toList ++ operand.spelling)
  | .binary op left right => spellInfix left.spelling op.symbol right.spelling
  | .logical op left right => spellInfix left.spelling op.symbol right.spelling
  | .conditional test consequent alternate =>
    parenthesized
      (test.spelling ++ [' ', '?', ' '] ++ consequent.spelling ++ [' ', ':', ' ']
        ++ alternate.spelling)

/-- The canonical text. -/
def toText (formula : Formula) : String :=
  String.ofList formula.spelling

end Formula

end FieldFormula
