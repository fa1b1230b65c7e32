import FieldFormula.Formula.OfTokens
import FieldFormula.Token.Parentheses
import FieldFormula.Token.Scan

/-!
# From text to a formula

`Formula.parse` reads a formula under limits. The text is checked in this order: its length, that
it is not blank, its alphabet, its tokens, its parentheses, the grammar, and last the depth of the
finished tree, which the two sides of a conditional can make one level too deep. The first fault
found is the answer.
-/

namespace FieldFormula.Formula

def checkSource (limits : Limits) (text : List Char) : Except SyntaxError Unit :=
  if limits.maxCharacters < text.length then
    .error ⟨.tooManyCharacters limits.maxCharacters text.length, .ofText text⟩
  else if Text.allBlank text then
    .error ⟨.empty, .ofText text⟩
  else
    .ok ()

def checkDepth (limits : Limits) (text : List Char) (formula : Formula) :
    Except SyntaxError Unit :=
  if limits.maxDepth < formula.depth then
    .error ⟨.treeTooDeep limits.maxDepth formula.depth, .ofText text⟩
  else
    .ok ()

def ofChars (limits : Limits) (text : List Char) : Except SyntaxError Formula := do
  checkSource limits text
  let tokens ← Token.scan limits text
  Token.checkParentheses limits.maxDepth tokens
  let formula ← ofTokens limits.maxDepth tokens
  checkDepth limits text formula
  return formula

/-- Reads a formula from its source text. -/
def parse (limits : Limits) (source : String) : Except SyntaxError Formula :=
  ofChars limits source.toList

end FieldFormula.Formula
