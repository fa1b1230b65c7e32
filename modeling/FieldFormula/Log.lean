import FieldFormula.EvaluationError

/-!
# The log

What the library reports about its work, as entries beside its results. A `Logged` result carries
the entries that were made on the way to it, in order.
-/

namespace FieldFormula

/-- How important a log entry is. -/
inductive LogLevel where
  | trace
  | debug
  | warn
  deriving DecidableEq, Repr

def LogLevel.name : LogLevel → String
  | .trace => "TRACE"
  | .debug => "DEBUG"
  | .warn => "WARN"

/-- Something that happened. -/
inductive LogEntry where
  -- A text that is neither too long nor blank is about to be read.
  | parsing (source : String)
  -- A formula is about to be evaluated.
  | evaluating (kind : Formula.Kind)
  -- A node was not admitted.
  | refused (refusal : Refusal)
  -- An evaluation ended with an error.
  | failed (error : EvaluationError)
  -- A validation ended with findings.
  | rejected (source : String) (findings : List String)
  deriving DecidableEq

namespace LogEntry

def level : LogEntry → LogLevel
  | .parsing _ => .trace
  | .evaluating _ => .trace
  | .refused _ => .warn
  | .failed _ => .debug
  | .rejected .. => .debug

/-- The entry in words. -/
def message : LogEntry → String
  | .parsing source => "parsing formula " ++ Text.quoteText source
  | .evaluating kind => "evaluating formula rooted at a " ++ kind.name ++ " node"
  | .refused refusal => "refusing to evaluate formula node: " ++ refusal.message
  | .failed error => "formula evaluation failed: " ++ error.message
  | .rejected source findings =>
    "formula " ++ Text.quoteText source ++ " rejected with " ++ toString findings.length
      ++ " error(s): " ++ Text.quoteList findings

/-- The entry as a line of the log. -/
def line (entry : LogEntry) : String :=
  entry.level.name ++ " " ++ entry.message

end LogEntry

/-- A result with the log entries that were made on the way to it. -/
structure Logged (α : Type) where
  value : α
  entries : List LogEntry

namespace Logged

protected def pure {α : Type} (value : α) : Logged α :=
  { value, entries := [] }

/-- What follows a result adds its entries behind. -/
protected def bind {α β : Type} (first : Logged α) (next : α → Logged β) : Logged β :=
  { value := (next first.value).value
    entries := first.entries ++ (next first.value).entries }

instance : Monad Logged where
  pure := Logged.pure
  bind := Logged.bind

def logAll (entries : List LogEntry) : Logged Unit :=
  { value := (), entries }

def log (entry : LogEntry) : Logged Unit :=
  logAll [entry]

instance : LawfulMonad Logged :=
  .mk' Logged
    (fun first => by cases first; simp [Functor.map, Logged.bind, Logged.pure])
    (fun value next => by simp [bind, pure, Logged.bind, Logged.pure])
    (fun first next last => by simp [bind, Logged.bind])

end Logged

end FieldFormula
