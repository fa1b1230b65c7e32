import FieldFormula.Token.Basic

/-!
# Syntax errors

Why a text is no formula, and where. Each cause belongs to one kind of error and has one wording.
-/

namespace FieldFormula

namespace SyntaxError

inductive Kind where
  | empty
  | disallowedCharacter
  | unterminatedString
  | invalidNumber
  | unbalancedParentheses
  | unexpectedToken
  | propertyAccess
  | call
  | limitExceeded
  deriving DecidableEq, Repr

def Kind.all : List Kind :=
  [.empty, .disallowedCharacter, .unterminatedString, .invalidNumber, .unbalancedParentheses,
    .unexpectedToken, .propertyAccess, .call, .limitExceeded]

def Kind.name : Kind → String
  | .empty => "Empty"
  | .disallowedCharacter => "DisallowedCharacter"
  | .unterminatedString => "UnterminatedString"
  | .invalidNumber => "InvalidNumber"
  | .unbalancedParentheses => "UnbalancedParentheses"
  | .unexpectedToken => "UnexpectedToken"
  | .propertyAccess => "PropertyAccess"
  | .call => "Call"
  | .limitExceeded => "LimitExceeded"

/-- What is wrong with the spelling of a number. -/
inductive NumberFlaw where
  -- No digit follows the point.
  | missingFraction
  -- A letter follows the digits.
  | letters
  -- The number is past the largest finite one.
  | outOfRange
  deriving DecidableEq, Repr

def NumberFlaw.message : NumberFlaw → String
  | .missingFraction => "expected digits after '.'"
  | .letters => "numbers cannot be followed by letters"
  | .outOfRange => "number is out of range"

/-- What could have stood in the place of an unexpected token. -/
inductive Wanted where
  | operand
  | closeParen
  | colon
  | operatorOrEnd
  deriving DecidableEq, Repr

def Wanted.message : Wanted → String
  | .operand => "expected an operand"
  | .closeParen => "expected ')'"
  | .colon => "expected ':' in conditional expression"
  | .operatorOrEnd => "expected an operator or end of expression"

/-- Why a text is no formula. -/
inductive Cause where
  | tooManyCharacters (limit count : Nat)
  | empty
  | foreignCharacter (c : Char)
  | tooManyTokens (limit : Nat)
  -- A point that is not part of a number.
  | strayPoint
  | assignment
  | unknownCharacter (c : Char)
  | unterminatedText
  | invalidNumber (spelling : String) (flaw : NumberFlaw)
  -- A point right after a complete number, which may be followed by a name.
  | pointAfterNumber (spelling : String) (beforeName : Bool)
  | parenthesesTooDeep (limit : Nat)
  | unmatchedClose
  | unclosedOpen
  -- The text nests more deeply than its reading may go.
  | nestingTooDeep (limit : Nat)
  -- A chain of infix operators makes the tree too deep.
  | chainTooDeep (limit : Nat)
  -- The finished tree is too deep.
  | treeTooDeep (limit depth : Nat)
  | unexpected (found : Token.Kind) (wanted : Wanted)
  -- A parenthesis right after an operand, which may be a name.
  | call (callee : Option String)
  deriving DecidableEq

def Cause.kind : Cause → Kind
  | .tooManyCharacters .. => .limitExceeded
  | .empty => .empty
  | .foreignCharacter _ => .disallowedCharacter
  | .tooManyTokens _ => .limitExceeded
  | .strayPoint => .propertyAccess
  | .assignment => .unexpectedToken
  | .unknownCharacter _ => .unexpectedToken
  | .unterminatedText => .unterminatedString
  | .invalidNumber .. => .invalidNumber
  | .pointAfterNumber _ beforeName => if beforeName then .propertyAccess else .invalidNumber
  | .parenthesesTooDeep _ => .limitExceeded
  | .unmatchedClose => .unbalancedParentheses
  | .unclosedOpen => .unbalancedParentheses
  | .nestingTooDeep _ => .limitExceeded
  | .chainTooDeep _ => .limitExceeded
  | .treeTooDeep .. => .limitExceeded
  | .unexpected .. => .unexpectedToken
  | .call _ => .call

def Cause.message : Cause → String
  | .tooManyCharacters limit count =>
    "expression exceeds the " ++ toString limit ++ "-character limit (got " ++ toString count
      ++ ")"
  | .empty => "expression is empty"
  | .foreignCharacter c => "disallowed character " ++ Text.quoteChar c
  | .tooManyTokens limit => "expression exceeds the " ++ toString limit ++ "-token limit"
  | .strayPoint => "'.' is only allowed inside numbers; property access is not supported"
  | .assignment => "unexpected '='; assignment is not supported (use '==' or '===')"
  | .unknownCharacter c => "unexpected character " ++ Text.quoteChar c
  | .unterminatedText => "unterminated string literal"
  | .invalidNumber spelling flaw =>
    "invalid number " ++ Text.quoteText spelling ++ ": " ++ flaw.message
  | .pointAfterNumber spelling _ => "unexpected '.' after number " ++ Text.quoteText spelling
  | .parenthesesTooDeep limit =>
    "parentheses nest deeper than the " ++ toString limit ++ "-level limit"
  | .unmatchedClose => "unmatched ')'"
  | .unclosedOpen => "unclosed '('"
  | .nestingTooDeep limit =>
    "expression nesting exceeds the " ++ toString limit ++ "-level limit"
  | .chainTooDeep limit =>
    "operator chain exceeds the " ++ toString limit ++ "-level depth limit"
  | .treeTooDeep limit depth =>
    "expression nesting exceeds the " ++ toString limit ++ "-level limit (got " ++ toString depth
      ++ ")"
  | .unexpected found wanted => "unexpected " ++ found.describe ++ "; " ++ wanted.message
  | .call none => "function calls are not allowed"
  | .call (some name) => "function calls are not allowed ('" ++ name ++ "(...)')"

end SyntaxError

/-- Why a text is no formula, and which part of it shows that. -/
structure SyntaxError where
  cause : SyntaxError.Cause
  span : Span
  deriving DecidableEq

namespace SyntaxError

def kind (error : SyntaxError) : Kind :=
  error.cause.kind

/-- A message followed by the place that it is about. -/
def located (message : String) (span : Span) : String :=
  message ++ " (at " ++ toString span.start ++ ".." ++ toString span.stop ++ ")"

/-- The error in words, with its place. -/
def toText (error : SyntaxError) : String :=
  located error.cause.message error.span

end SyntaxError

end FieldFormula
