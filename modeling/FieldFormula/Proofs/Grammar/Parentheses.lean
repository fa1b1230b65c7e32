import FieldFormula.Token.Parentheses

/-!
# Matching parentheses

The cases of `Token.matchParentheses`, one for each kind of token, and the errors it can end with.
-/

namespace FieldFormula.Token

variable {maxDepth : Nat} {opened : List Span} {token : Token} {rest : List Token}

theorem matchParentheses_openParen (opening : token.kind = .openParen)
    (room : opened.length < maxDepth) :
    matchParentheses maxDepth opened (token :: rest) =
      matchParentheses maxDepth (token.span :: opened) rest := by
  cases opened <;> simp only [matchParentheses, opening, if_neg (Nat.not_le_of_lt room)]

theorem matchParentheses_openParen_full (opening : token.kind = .openParen)
    (full : maxDepth ≤ opened.length) :
    matchParentheses maxDepth opened (token :: rest) =
      .error ⟨.parenthesesTooDeep maxDepth, token.span⟩ := by
  cases opened <;> simp only [matchParentheses, opening, if_pos full]

theorem matchParentheses_closeParen {innermost : Span} (closing : token.kind = .closeParen) :
    matchParentheses maxDepth (innermost :: opened) (token :: rest) =
      matchParentheses maxDepth opened rest := by
  simp [matchParentheses, closing]

theorem matchParentheses_closeParen_unmatched (closing : token.kind = .closeParen) :
    matchParentheses maxDepth [] (token :: rest) = .error ⟨.unmatchedClose, token.span⟩ := by
  simp [matchParentheses, closing]

theorem matchParentheses_other (noOpening : token.kind ≠ .openParen)
    (noClosing : token.kind ≠ .closeParen) :
    matchParentheses maxDepth opened (token :: rest) = matchParentheses maxDepth opened rest := by
  cases kind : token.kind <;> cases opened <;> simp_all [matchParentheses]

/-! ### Errors -/

/-- Why the parentheses of the tokens do not match while these ones are still open. -/
inductive Unmatched (maxDepth : Nat) : (opened : List Span) → List Token → SyntaxError → Prop
  | unclosed {innermost : Span} {outer : List Span} :
    Unmatched maxDepth (innermost :: outer) [] ⟨.unclosedOpen, innermost⟩
  | tooDeep {opened : List Span} {token : Token} {rest : List Token}
    (opening : token.kind = .openParen) (full : maxDepth ≤ opened.length) :
    Unmatched maxDepth opened (token :: rest) ⟨.parenthesesTooDeep maxDepth, token.span⟩
  | unopened {token : Token} {rest : List Token} (closing : token.kind = .closeParen) :
    Unmatched maxDepth [] (token :: rest) ⟨.unmatchedClose, token.span⟩
  -- Otherwise the error lies behind the token.
  | opens {opened : List Span} {token : Token} {rest : List Token} {error : SyntaxError}
    (opening : token.kind = .openParen) (room : opened.length < maxDepth)
    (later : Unmatched maxDepth (token.span :: opened) rest error) :
    Unmatched maxDepth opened (token :: rest) error
  | closes {innermost : Span} {outer : List Span} {token : Token} {rest : List Token}
    {error : SyntaxError} (closing : token.kind = .closeParen)
    (later : Unmatched maxDepth outer rest error) :
    Unmatched maxDepth (innermost :: outer) (token :: rest) error
  | passes {opened : List Span} {token : Token} {rest : List Token} {error : SyntaxError}
    (noOpening : token.kind ≠ .openParen) (noClosing : token.kind ≠ .closeParen)
    (later : Unmatched maxDepth opened rest error) :
    Unmatched maxDepth opened (token :: rest) error

theorem unmatched_of_matchParentheses {tokens : List Token} {error : SyntaxError}
    (failed : matchParentheses maxDepth opened tokens = .error error) :
    Unmatched maxDepth opened tokens error := by
  induction tokens generalizing opened with
  | nil =>
    cases opened with
    | nil => cases failed
    | cons innermost outer =>
      cases failed
      exact .unclosed
  | cons token rest ih =>
    by_cases opening : token.kind = .openParen
    · by_cases room : opened.length < maxDepth
      · rw [matchParentheses_openParen opening room] at failed
        exact .opens opening room (ih failed)
      · have full := Nat.le_of_not_lt room
        rw [matchParentheses_openParen_full opening full] at failed
        cases failed
        exact .tooDeep opening full
    · by_cases closing : token.kind = .closeParen
      · cases opened with
        | nil =>
          rw [matchParentheses_closeParen_unmatched closing] at failed
          cases failed
          exact .unopened closing
        | cons innermost outer =>
          rw [matchParentheses_closeParen closing] at failed
          exact .closes closing (ih failed)
      · rw [matchParentheses_other opening closing] at failed
        exact .passes opening closing (ih failed)

theorem matchParentheses_error {tokens : List Token} {error : SyntaxError}
    (failed : matchParentheses maxDepth opened tokens = .error error) :
    error.cause = .parenthesesTooDeep maxDepth ∨ error.cause = .unmatchedClose ∨
      error.cause = .unclosedOpen := by
  have unmatched := unmatched_of_matchParentheses failed
  clear failed
  induction unmatched with
  | unclosed => exact .inr (.inr rfl)
  | tooDeep => exact .inl rfl
  | unopened => exact .inr (.inl rfl)
  | opens _ _ _ ih | closes _ _ ih | passes _ _ _ ih => exact ih

/-- **A parenthesis without a partner is one of those given.** -/
theorem Unmatched.span_mem {tokens : List Token} {error : SyntaxError}
    (unmatched : Unmatched maxDepth opened tokens error) :
    error.span ∈ opened ++ tokens.map Token.span := by
  induction unmatched with
  | unclosed => exact .head _
  | tooDeep => simp
  | unopened => simp
  | opens _ _ _ ih => simpa [or_left_comm] using ih
  | closes _ _ ih =>
    rcases List.mem_append.1 ih with stillOpen | behind
    · exact List.mem_append_left _ (.tail _ stillOpen)
    · exact List.mem_append_right _ (.tail _ behind)
  | passes _ _ _ ih =>
    rcases List.mem_append.1 ih with stillOpen | behind
    · exact List.mem_append_left _ stillOpen
    · exact List.mem_append_right _ (.tail _ behind)

end FieldFormula.Token
