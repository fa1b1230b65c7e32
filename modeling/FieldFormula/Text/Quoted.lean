import FieldFormula.Text.Printable

/-!
# Quoted text in messages

Messages and log lines quote the text they speak of between quote marks, with a backslash before
whatever could be mistaken or could break the line. A text stands between `"`, a single character
between `'`, and only the quote mark in use is escaped.
-/

namespace FieldFormula.Text

/-- The code point in lower-case hexadecimal digits, between braces after `\u`. -/
def escapeCodePoint (c : Char) : List Char :=
  ['\\', 'u', '\x7b'] ++ Nat.toDigits 16 c.toNat ++ ['\x7d']

/-- How a character is written between quote marks. -/
def escape (mark : Char) (c : Char) : List Char :=
  if c = '\x00' then ['\\', '0']
  else if c = '\t' then ['\\', 't']
  else if c = '\r' then ['\\', 'r']
  else if c = '\n' then ['\\', 'n']
  else if c = '\\' || c = mark then ['\\', c]
  else if isPrintable c && !isCombining c then [c]
  else escapeCodePoint c

/-- The text between double quote marks. -/
def quoteText (text : String) : String :=
  String.ofList ('"' :: text.toList.flatMap (escape '"') ++ ['"'])

def quoteChar (c : Char) : String :=
  String.ofList ('\'' :: escape '\'' c ++ ['\''])

def quoteList (texts : List String) : String :=
  "[" ++ ", ".intercalate (texts.map quoteText) ++ "]"

end FieldFormula.Text
