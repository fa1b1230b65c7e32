import FieldFormula.Text.Blank

/-!
# The alphabet of formulas

Which characters a formula may contain at all, and which of them make up names. Names and digits
are ASCII only; blanks are not.
-/

namespace FieldFormula.Text

/-- The signs that a formula may contain beside letters, digits, `_` and blanks. -/
def signs : List Char :=
  ['.', '<', '>', '=', '!', '&', '|', '(', ')', '+', '-', '*', '/', '%', '?', ':', '"', '\'']

/-- A character that a formula may contain, also inside its quoted texts. -/
def isAllowed (c : Char) : Bool :=
  c.isAlphanum || c == '_' || isBlank c || signs.contains c

def isDigit (c : Char) : Bool :=
  c.isDigit

/-- A character that a name may start with: an ASCII letter or `_`. -/
def isNameStart (c : Char) : Bool :=
  c.isAlpha || c == '_'

/-- A character that a name may go on with: an ASCII letter, a digit or `_`. -/
def isNamePart (c : Char) : Bool :=
  c.isAlphanum || c == '_'

/-- The words that stand for the two booleans and so cannot name a field. -/
def reservedWords : List String :=
  ["true", "false"]

/-- The text can name a field: it is spelled like a name and is no reserved word. -/
def isName (text : String) : Bool :=
  match text.toList with
  | [] => false
  | first :: others =>
    isNameStart first && others.all isNamePart && !reservedWords.contains text

/-! ### Names are spelled with allowed characters -/

theorem isNamePart_of_isNameStart {c : Char} (start : isNameStart c = true) :
    isNamePart c = true := by
  simp only [isNameStart, isNamePart, Char.isAlphanum, Bool.or_eq_true] at *
  rcases start with letter | underscore
  · exact .inl (.inl letter)
  · exact .inr underscore

theorem isAllowed_of_isNamePart {c : Char} (part : isNamePart c = true) : isAllowed c = true := by
  simp only [isNamePart, isAllowed, Bool.or_eq_true] at *
  exact .inl (.inl part)

theorem isAllowed_of_isBlank {c : Char} (blank : isBlank c = true) : isAllowed c = true := by
  simp [isAllowed, blank]

end FieldFormula.Text
