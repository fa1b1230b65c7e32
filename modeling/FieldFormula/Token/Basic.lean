import FieldFormula.Number.Shortest
import FieldFormula.Text.Quoted

/-!
# Tokens

A formula's text is a sequence of tokens with blanks between them. Each token knows the bytes of
the UTF-8 text that it was read from, and the sequence ends with a token for the end of the input.
-/

namespace FieldFormula

/-- A range of bytes in the UTF-8 form of a text, from `start` up to but not including `stop`. -/
structure Span where
  start : Nat
  stop : Nat
  deriving DecidableEq, Repr

instance : Inhabited Span := ⟨⟨0, 0⟩⟩

/-- The number of bytes that the characters take in UTF-8. -/
def byteLength : List Char → Nat
  | [] => 0
  | c :: rest => c.utf8Size + byteLength rest

def Span.ofText (text : List Char) : Span :=
  ⟨0, byteLength text⟩

/-- What a token is. -/
inductive Token.Kind where
  | number (value : Binary64)
  | text (value : String)
  | boolean (value : Bool)
  | identifier (name : String)
  -- A symbol of the operator tables.
  | operator (symbol : String)
  | openParen
  | closeParen
  | question
  | colon
  | endOfInput
  deriving DecidableEq

structure Token where
  kind : Token.Kind
  span : Span
  deriving DecidableEq

def Token.Kind.describe : Token.Kind → String
  | .number value => "number " ++ value.toText
  | .text value => "string " ++ Text.quoteText value
  | .boolean value => if value then "'true'" else "'false'"
  | .identifier name => "identifier '" ++ name ++ "'"
  | .operator symbol => "operator '" ++ symbol ++ "'"
  | .openParen => "'('"
  | .closeParen => "')'"
  | .question => "'?'"
  | .colon => "':'"
  | .endOfInput => "end of expression"

theorem byteLength_append (text more : List Char) :
    byteLength (text ++ more) = byteLength text + byteLength more := by
  induction text with
  | nil => simp [byteLength]
  | cons c rest ih => simp [byteLength, ih, Nat.add_assoc]

end FieldFormula
