import FieldFormula.Json
import FieldFormula.Operator
import FieldFormula.Validation

/-!
# JSON forms of settings and answers

Limits, spans, verdicts and syntax errors are records: in JSON an object with a field for each
part, of which others are ignored, or an array with the parts in order. A choice among names is
the name as a string, or an object whose only field has that name and holds null.
-/

namespace FieldFormula

namespace Json

/-- The parts of a record with the given fields; none for a part that is not there. -/
def parts? (names : List String) (json : Json) : Option (List (Option Json)) :=
  match json with
  | .object _ => some (names.map json.field?)
  | .array items =>
    if items.length ≤ names.length then
      some ((List.range names.length).map fun index => items[index]?)
    else
      none
  | _ => none

/-- The count that a part of a record holds, or the default if the part is not there. -/
def countOr (default : Nat) : Option Json → Option Nat
  | none => some default
  | some json => json.count?

/-- The name that a choice among names makes. -/
def choice? : Json → Option String
  | .string name => some name
  | .object [(name, .null)] => some name
  | _ => none

/-- The member of a list that a choice among their names makes. -/
def choose? {α : Type} (members : List α) (name : α → String) (json : Json) : Option α := do
  let chosen ← json.choice?
  members.find? fun member => name member == chosen

end Json

/-! ### Records -/

/-- Reads limits; a part that is not there keeps its default. -/
def Limits.ofJson? (json : Json) : Option Limits := do
  let default : Limits := {}
  match ← json.parts? ["maxChars", "maxTokens", "maxDepth"] with
  | [characters, tokens, depth] =>
    return {
      maxCharacters := ← Json.countOr default.maxCharacters characters
      maxTokens := ← Json.countOr default.maxTokens tokens
      maxDepth := ← Json.countOr default.maxDepth depth }
  | _ => none

def Limits.toJson (limits : Limits) : Json :=
  .object [("maxChars", .integer limits.maxCharacters), ("maxTokens", .integer limits.maxTokens),
    ("maxDepth", .integer limits.maxDepth)]

def Span.ofJson? (json : Json) : Option Span := do
  match ← json.parts? ["start", "end"] with
  | [some start, some stop] => return { start := ← start.count?, stop := ← stop.count? }
  | _ => none

def Span.toJson (span : Span) : Json :=
  .object [("start", .integer span.start), ("end", .integer span.stop)]

def Verdict.ofJson? (json : Json) : Option Verdict := do
  match ← json.parts? ["isValid", "errors"] with
  | [some isValid, some errors] =>
    return { isValid := ← isValid.boolean?, errors := ← (← errors.items?).mapM Json.text? }
  | _ => none

def Verdict.toJson (verdict : Verdict) : Json :=
  .object [("isValid", .boolean verdict.isValid),
    ("errors", .array (verdict.errors.map Json.string))]

/-- A syntax error as it is passed on: its cause is known by kind and message only. -/
structure SyntaxReport where
  kind : SyntaxError.Kind
  message : String
  span : Span
  deriving DecidableEq, Repr

def SyntaxError.report (error : SyntaxError) : SyntaxReport :=
  { kind := error.kind, message := error.cause.message, span := error.span }

namespace SyntaxReport

/-- The report in words, with the place. -/
def toText (report : SyntaxReport) : String :=
  SyntaxError.located report.message report.span

def ofJson? (json : Json) : Option SyntaxReport := do
  match ← json.parts? ["kind", "message", "span"] with
  | [some kind, some message, some span] =>
    return {
      kind := ← kind.choose? SyntaxError.Kind.all SyntaxError.Kind.name
      message := ← message.text?
      span := ← Span.ofJson? span }
  | _ => none

def toJson (report : SyntaxReport) : Json :=
  .object [("kind", .string report.kind.name), ("message", .string report.message),
    ("span", report.span.toJson)]

end SyntaxReport

/-! ### Operators -/

def PrefixOp.ofJson? : Json → Option PrefixOp :=
  Json.choose? PrefixOp.all PrefixOp.name

def BinaryOp.ofJson? : Json → Option BinaryOp :=
  Json.choose? BinaryOp.all BinaryOp.name

def LogicalOp.ofJson? : Json → Option LogicalOp :=
  Json.choose? LogicalOp.all LogicalOp.name

end FieldFormula
