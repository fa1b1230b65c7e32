/-!
# Limits on formulas

Formulas come from users, so their text and their nesting are bounded. Whatever exceeds a limit is
refused as a whole; nothing is cut off.
-/

namespace FieldFormula

/-- How large a formula may be. -/
structure Limits where
  -- The most characters that the text may have.
  maxCharacters : Nat := 4096
  -- The most tokens that the text may consist of.
  maxTokens : Nat := 1024
  -- The deepest nesting of parentheses, and the greatest depth of the tree. A chain of infix
  -- operators is as deep as it has operands.
  maxDepth : Nat := 128
  deriving DecidableEq, Repr

instance : Inhabited Limits := ⟨{}⟩

end FieldFormula
