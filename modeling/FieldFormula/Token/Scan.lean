import FieldFormula.Limits
import FieldFormula.Operator
import FieldFormula.SyntaxError

/-!
# Scanning

`Token.scan` splits a text into tokens. A token is as long as it can be: an operator is the
longest symbol that fits, a name and a number reach to the first character that cannot continue
them. The alphabet is checked before anything else, so a foreign character is reported even inside
a quoted text.
-/

namespace FieldFormula.Token

/-- What stands at the front of a text, with the characters that it takes up: a token, or the
cause why there can be none. -/
abbrev Front := Except SyntaxError.Cause Kind × List Char

/-- A text between two quote marks; the first one has been read. -/
def frontText (mark : Char) (body : List Char) : Front :=
  let inside := body.takeWhile (· != mark)
  match body.dropWhile (· != mark) with
  | [] => (.error .unterminatedText, mark :: inside)
  | _ :: _ => (.ok (.text (String.ofList inside)), mark :: inside ++ [mark])

/-- The number that is spelled, unless what follows cannot follow a number. -/
def numberBefore (spelled rest : List Char) : Front :=
  match rest with
  | '.' :: others =>
    (.error (.pointAfterNumber (String.ofList spelled) (others.head?.any Text.isNameStart)),
      spelled ++ ['.'])
  | _ =>
    let letters := rest.takeWhile Text.isNamePart
    if letters ≠ [] then
      (.error (.invalidNumber (String.ofList (spelled ++ letters)) .letters), spelled ++ letters)
    else
      match ((Decimal.parse? spelled).map Decimal.toBinary64).filter Binary64.isFinite with
      | some value => (.ok (.number value), spelled)
      | none => (.error (.invalidNumber (String.ofList spelled) .outOfRange), spelled)

/-- A number: digits, a point and digits, or both. -/
def frontNumber (text : List Char) : Front :=
  let (whole, rest) := Decimal.splitDigits text
  match rest with
  | '.' :: afterPoint =>
    let (fraction, rest) := Decimal.splitDigits afterPoint
    if fraction = [] then
      (.error (.invalidNumber (String.ofList (whole ++ ['.'])) .missingFraction), whole ++ ['.'])
    else
      numberBefore (whole ++ '.' :: fraction) rest
  | _ => numberBefore whole rest

/-- The token of a word: a boolean if the word is reserved for one, or else a name. -/
def Kind.ofWord (word : String) : Kind :=
  if word = "true" then .boolean true
  else if word = "false" then .boolean false
  else .identifier word

def frontWord (text : List Char) : Front :=
  let word := text.takeWhile Text.isNamePart
  (.ok (.ofWord (String.ofList word)), word)

def frontOperator (c : Char) (rest : List Char) : Front :=
  match longestSymbol? (c :: rest) with
  | some symbol => (.ok (.operator symbol), symbol.toList)
  | none => (.error (if c = '=' then .assignment else .unknownCharacter c), [c])

/-- What stands at the front of a text that starts with the character `c`. -/
def front (c : Char) (rest : List Char) : Front :=
  if c = '(' then (.ok .openParen, [c])
  else if c = ')' then (.ok .closeParen, [c])
  else if c = '?' then (.ok .question, [c])
  else if c = ':' then (.ok .colon, [c])
  else if c = '"' || c = '\'' then frontText c rest
  else if Text.isDigit c then frontNumber (c :: rest)
  else if c = '.' then
    if rest.head?.any Text.isDigit then frontNumber (c :: rest) else (.error .strayPoint, [c])
  else if Text.isNameStart c then frontWord (c :: rest)
  else frontOperator c rest

theorem length_lt_of_dropWhile {skips : Char → Bool} {text rest : List Char} {c : Char}
    (shown : text.dropWhile skips = c :: rest) : rest.length < text.length := by
  have kept := (List.dropWhile_sublist skips (l := text)).length_le
  simp only [shown, List.length_cons] at kept
  omega

/-- The tokens of a text that stands `offset` bytes into the source, when `count` tokens precede
it. The blanks in front of each token are skipped. -/
def scanFrom (maxTokens count offset : Nat) (text : List Char) :
    Except SyntaxError (List Token) :=
  let start := offset + byteLength (text.takeWhile Text.isBlank)
  match shown : text.dropWhile Text.isBlank with
  | [] => .ok [⟨.endOfInput, ⟨start, start⟩⟩]
  | c :: rest =>
    have := length_lt_of_dropWhile shown
    let (found, taken) := front c rest
    let span : Span := ⟨start, start + byteLength taken⟩
    match found with
    | .error cause => .error ⟨cause, span⟩
    | .ok kind =>
      if maxTokens ≤ count then
        .error ⟨.tooManyTokens maxTokens, span⟩
      else do
        let others ← scanFrom maxTokens (count + 1) span.stop (rest.drop (taken.length - 1))
        return ⟨kind, span⟩ :: others
termination_by text.length
decreasing_by
  rw [List.length_drop]
  omega

def checkAlphabet (text : List Char) : Except SyntaxError Unit :=
  match text.dropWhile Text.isAllowed with
  | [] => .ok ()
  | c :: _ =>
    let start := byteLength (text.takeWhile Text.isAllowed)
    .error ⟨.foreignCharacter c, ⟨start, start + c.utf8Size⟩⟩

/-- The tokens of a text, the end of the input last. -/
def scan (limits : Limits) (text : List Char) : Except SyntaxError (List Token) := do
  checkAlphabet text
  scanFrom limits.maxTokens 0 0 text

end FieldFormula.Token
