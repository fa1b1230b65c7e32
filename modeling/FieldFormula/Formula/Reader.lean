import FieldFormula.Formula.Basic
import FieldFormula.SyntaxError
import FieldFormula.Token.Cursor

/-!
# Reading tokens one after another

A `Reader` consumes tokens from the front of those ahead and counts how deeply it is nested.
`Reader.nested` brackets the reading of a nested phrase between `Reader.enter`, which refuses to go
deeper than the limit, and `Reader.leave`.

An answer does not tell all that a reader has done: at which tokens it has looked, which nodes it has
built, and what there was already when it failed. So readers keep a record of these events. They add
to it, but nothing that they do depends on it.

`Reader.on` applies a reader to a cursor, and `Reader.events` is the record of that reading. Each of
the operations has a lemma that says what it answers and where it leaves the cursor.
-/

namespace FieldFormula

/-- Something that happens while tokens are read. -/
inductive Event where
  -- The next token is looked at.
  | looks (cursor : Cursor)
  -- The next token has been consumed, unless it is the end of the input.
  | moves (cursor : Cursor)
  -- A nested phrase is about to be left.
  | leaves (cursor : Cursor)
  -- This token stands where one of the given kind has to stand.
  | expects (kind : Token.Kind) (found : Token)
  -- An operator may continue the chain that has become this formula, which is taken to be so deep.
  | continues (left : Formula) (depth : Nat)
  -- A node has been built.
  | builds (formula : Formula)
  -- The reading is given up.
  | fails (error : SyntaxError)
  deriving DecidableEq

/-- What a reading comes to. Where it has stopped is known even when it has failed. The record is
put together only if somebody asks for it. -/
structure Reading (α : Type) where
  answer : Except SyntaxError α
  stop : Cursor
  events : Thunk (List Event)

/-- Reads something from the tokens. -/
def Reader (α : Type) :=
  Cursor → Reading α

namespace Reader

variable {α β : Type}

/-- What the reader answers at a cursor, and where it stops. -/
def on (reader : Reader α) (cursor : Cursor) : Except SyntaxError α × Cursor :=
  ((reader cursor).answer, (reader cursor).stop)

/-- All that happens in a reading from the cursor, in that order. -/
def events (reader : Reader α) (cursor : Cursor) : List Event :=
  (reader cursor).events.get

/-! ### Operations -/

instance : Monad Reader where
  pure value := fun cursor => ⟨.ok value, cursor, .pure []⟩
  bind first second := fun cursor =>
    let begun := first cursor
    match begun.answer with
    | .ok value =>
      let ended := second value begun.stop
      { ended with events := .mk fun _ => begun.events.get ++ ended.events.get }
    | .error error => ⟨.error error, begun.stop, begun.events⟩

/-- Gives the reading up. -/
def fail (error : SyntaxError) : Reader α :=
  fun cursor => ⟨.error error, cursor, .pure [.fails error]⟩

def note (event : Event) : Reader Unit :=
  fun cursor => ⟨.ok (), cursor, .pure [event]⟩

def here : Reader Cursor :=
  fun cursor => ⟨.ok cursor, cursor, .pure []⟩

def move (change : Cursor → Cursor) : Reader Unit :=
  fun cursor => ⟨.ok (), change cursor, .pure []⟩

def peek : Reader Token := do
  let cursor ← here
  note (.looks cursor)
  return cursor.front

/-- The next token, which is consumed unless it is the end of the input. -/
def next : Reader Token := do
  let token ← peek
  move Cursor.advance
  note (.moves (← here))
  return token

/-- Fails at a token that is not the wanted one. -/
def unexpected (token : Token) (wanted : SyntaxError.Wanted) : Reader α :=
  fail ⟨.unexpected token.kind wanted, token.span⟩

/-- Starts a nested phrase that the token at `span` opens. -/
def enter (maxDepth : Nat) (span : Span) : Reader Unit := do
  let cursor ← here
  if maxDepth ≤ cursor.guard then
    fail ⟨.nestingTooDeep maxDepth, span⟩
  else
    move Cursor.enter

def leave : Reader Unit := do
  note (.leaves (← here))
  move Cursor.leave

def nested (maxDepth : Nat) (span : Span) (phrase : Reader α) : Reader α := do
  enter maxDepth span
  let result ← phrase
  leave
  return result

/-- Consumes a token that has to be of the given kind. -/
def expect (kind : Token.Kind) (wanted : SyntaxError.Wanted) : Reader Unit := do
  let token ← next
  note (.expects kind token)
  if token.kind = kind then
    return
  else
    unexpected token wanted

def build (formula : Formula) : Reader Formula := do
  note (.builds formula)
  return formula

/-! ### What the operations do -/

@[simp] theorem on_pure (value : α) (cursor : Cursor) :
    on (pure value) cursor = (.ok value, cursor) :=
  rfl

@[simp] theorem on_bind (first : Reader α) (second : α → Reader β) (cursor : Cursor) :
    on (first >>= second) cursor =
      match on first cursor with
      | (.ok value, after) => on (second value) after
      | (.error error, after) => (.error error, after) := by
  simp only [on, bind]
  cases (first cursor).answer <;> rfl

@[simp] theorem events_pure (value : α) (cursor : Cursor) :
    events (pure value : Reader α) cursor = [] :=
  rfl

/-- What happens in the first part is followed by what happens in the second one. -/
theorem events_bind (first : Reader α) (second : α → Reader β) (cursor : Cursor) :
    events (first >>= second) cursor =
      match on first cursor with
      | (.ok value, after) => events first cursor ++ events (second value) after
      | (.error _, _) => events first cursor := by
  simp only [on, events, bind]
  cases (first cursor).answer <;> rfl

@[simp] theorem on_fail (error : SyntaxError) (cursor : Cursor) :
    on (fail error : Reader α) cursor = (.error error, cursor) :=
  rfl

@[simp] theorem events_fail (error : SyntaxError) (cursor : Cursor) :
    events (fail error : Reader α) cursor = [.fails error] :=
  rfl

@[simp] theorem on_note (event : Event) (cursor : Cursor) :
    on (note event) cursor = (.ok (), cursor) :=
  rfl

@[simp] theorem events_note (event : Event) (cursor : Cursor) :
    events (note event) cursor = [event] :=
  rfl

@[simp] theorem on_here (cursor : Cursor) : on here cursor = (.ok cursor, cursor) :=
  rfl

@[simp] theorem events_here (cursor : Cursor) : events here cursor = [] :=
  rfl

@[simp] theorem on_move (change : Cursor → Cursor) (cursor : Cursor) :
    on (move change) cursor = (.ok (), change cursor) :=
  rfl

@[simp] theorem events_move (change : Cursor → Cursor) (cursor : Cursor) :
    events (move change) cursor = [] :=
  rfl

@[simp] theorem on_peek (cursor : Cursor) : on peek cursor = (.ok cursor.front, cursor) :=
  rfl

@[simp] theorem on_next (cursor : Cursor) :
    on next cursor = (.ok cursor.front, cursor.advance) :=
  rfl

@[simp] theorem on_unexpected (token : Token) (wanted : SyntaxError.Wanted) (cursor : Cursor) :
    on (unexpected token wanted : Reader α) cursor =
      (.error ⟨.unexpected token.kind wanted, token.span⟩, cursor) :=
  rfl

@[simp] theorem on_enter (maxDepth : Nat) (span : Span) (cursor : Cursor) :
    on (enter maxDepth span) cursor =
      if maxDepth ≤ cursor.guard then
        (.error ⟨.nestingTooDeep maxDepth, span⟩, cursor)
      else
        (.ok (), cursor.enter) := by
  by_cases tooDeep : maxDepth ≤ cursor.guard <;> simp [enter, tooDeep]

@[simp] theorem on_leave (cursor : Cursor) : on leave cursor = (.ok (), cursor.leave) :=
  rfl

/-- A nested phrase is read with the guard one higher, and afterwards the guard is lowered. -/
theorem on_nested (maxDepth : Nat) (span : Span) (phrase : Reader α) (cursor : Cursor) :
    on (nested maxDepth span phrase) cursor =
      if maxDepth ≤ cursor.guard then
        (.error ⟨.nestingTooDeep maxDepth, span⟩, cursor)
      else
        match on phrase cursor.enter with
        | (.ok result, after) => (.ok result, after.leave)
        | (.error error, after) => (.error error, after) := by
  by_cases tooDeep : maxDepth ≤ cursor.guard
  · simp [nested, tooDeep]
  · simp only [nested, on_bind, on_enter, tooDeep, if_false, on_leave, on_pure]

theorem on_expect (kind : Token.Kind) (wanted : SyntaxError.Wanted) (cursor : Cursor) :
    on (expect kind wanted) cursor =
      if cursor.front.kind = kind then
        (.ok (), cursor.advance)
      else
        (.error ⟨.unexpected cursor.front.kind wanted, cursor.front.span⟩, cursor.advance) := by
  by_cases same : cursor.front.kind = kind <;> simp [expect, same]

@[simp] theorem on_build (formula : Formula) (cursor : Cursor) :
    on (build formula) cursor = (.ok formula, cursor) :=
  rfl

end Reader

end FieldFormula
