import FieldFormula.Token.Basic

/-!
# A place among the tokens

A `Cursor` says which tokens are ahead and how many nested phrases are being read. There is always a
token in front: behind the last one it is the last one again. The end of the input is looked at but
never consumed, so where it is the last token nothing is ever looked for behind it.
-/

namespace FieldFormula

/-- The tokens not yet consumed, the last of all tokens, and how many nested phrases are being
read. -/
structure Cursor where
  rest : List Token
  last : Token
  guard : Nat
  deriving DecidableEq

namespace Cursor

/-- The cursor in front of all tokens. A scan finds at least the end of the input. -/
def start (tokens : List Token) : Cursor :=
  { rest := tokens, last := tokens.getLastD ⟨.endOfInput, default⟩, guard := 0 }

/-- The next token, or once more the last one. -/
def front (cursor : Cursor) : Token :=
  cursor.rest.headD cursor.last

/-- The cursor behind the next token; the end of the input stays in front. -/
def advance (cursor : Cursor) : Cursor :=
  if cursor.front.kind = .endOfInput then cursor else { cursor with rest := cursor.rest.tail }

/-- The cursor inside a nested phrase that starts here. -/
def enter (cursor : Cursor) : Cursor :=
  { cursor with guard := cursor.guard + 1 }

/-- The cursor behind a nested phrase that ends here. -/
def leave (cursor : Cursor) : Cursor :=
  { cursor with guard := cursor.guard - 1 }

/-! ### What a move changes -/

@[simp] theorem rest_start (tokens : List Token) : (start tokens).rest = tokens := rfl

@[simp] theorem guard_start (tokens : List Token) : (start tokens).guard = 0 := rfl

variable (cursor : Cursor)

@[simp] theorem rest_enter : cursor.enter.rest = cursor.rest := rfl

@[simp] theorem guard_enter : cursor.enter.guard = cursor.guard + 1 := rfl

@[simp] theorem front_enter : cursor.enter.front = cursor.front := rfl

@[simp] theorem rest_leave : cursor.leave.rest = cursor.rest := rfl

@[simp] theorem guard_leave : cursor.leave.guard = cursor.guard - 1 := rfl

@[simp] theorem last_advance : cursor.advance.last = cursor.last := by
  unfold advance
  split <;> rfl

@[simp] theorem guard_advance : cursor.advance.guard = cursor.guard := by
  unfold advance
  split <;> rfl

theorem advance_of_endOfInput {cursor : Cursor} (ended : cursor.front.kind = .endOfInput) :
    cursor.advance = cursor :=
  if_pos ended

theorem rest_advance {cursor : Cursor} (present : cursor.front.kind ≠ .endOfInput) :
    cursor.advance.rest = cursor.rest.tail := by
  rw [advance, if_neg present]

theorem length_advance_le : cursor.advance.rest.length ≤ cursor.rest.length := by
  by_cases ended : cursor.front.kind = .endOfInput
  · exact Nat.le_of_eq (by rw [advance_of_endOfInput ended])
  · rw [rest_advance ended, List.length_tail]
    exact Nat.sub_le _ _

/-- Behind the last token nothing is left to be consumed, and the last one stays in front. -/
theorem front_advance_of_rest_eq_nil {cursor : Cursor} (consumed : cursor.rest = []) :
    cursor.advance.rest = [] ∧ cursor.advance.front = cursor.front := by
  by_cases ended : cursor.front.kind = .endOfInput
  · rw [advance_of_endOfInput ended]
    exact ⟨consumed, rfl⟩
  · have stays : cursor.advance.rest = [] := by rw [rest_advance ended, consumed, List.tail_nil]
    simp [front, stays, consumed]

end Cursor

end FieldFormula
