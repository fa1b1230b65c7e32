import FieldFormula.Formula.ParseLogged
import FieldFormula.Proofs.Grammar.Reading

/-!
# The stages of reading a formula

A text is checked, scanned, matched for parentheses, read by the grammar and measured, in this
order. `ofChars_eq_ok_iff` says what all stages together demand of an accepted text,
`ofChars_eq_error_iff` which stage a rejected text fails in and with which error.
-/

namespace FieldFormula

namespace Formula

/-! ### Acceptance and rejection -/

/-- The text is rejected with the error by one of the stages, after the ones before have passed. -/
inductive RejectedBy (limits : Limits) (text : List Char) : SyntaxError → Prop
  | length (long : limits.maxCharacters < text.length) :
    RejectedBy limits text ⟨.tooManyCharacters limits.maxCharacters text.length, .ofText text⟩
  | blank (short : text.length ≤ limits.maxCharacters) (empty : Text.allBlank text = true) :
    RejectedBy limits text ⟨.empty, .ofText text⟩
  | scan {error} (short : text.length ≤ limits.maxCharacters) (shown : Text.allBlank text = false)
    (unscanned : Token.scan limits text = .error error) : RejectedBy limits text error
  | parentheses {tokens error} (short : text.length ≤ limits.maxCharacters)
    (shown : Text.allBlank text = false) (scanned : Token.scan limits text = .ok tokens)
    (unmatched : Token.checkParentheses limits.maxDepth tokens = .error error) :
    RejectedBy limits text error
  | grammar {tokens error} (short : text.length ≤ limits.maxCharacters)
    (shown : Text.allBlank text = false) (scanned : Token.scan limits text = .ok tokens)
    (matched : Token.checkParentheses limits.maxDepth tokens = .ok ())
    (unread : ofTokens limits.maxDepth tokens = .error error) : RejectedBy limits text error
  | depth {tokens formula} (short : text.length ≤ limits.maxCharacters)
    (shown : Text.allBlank text = false) (scanned : Token.scan limits text = .ok tokens)
    (matched : Token.checkParentheses limits.maxDepth tokens = .ok ())
    (read : ofTokens limits.maxDepth tokens = .ok formula)
    (deep : limits.maxDepth < formula.depth) :
    RejectedBy limits text ⟨.treeTooDeep limits.maxDepth formula.depth, .ofText text⟩

/-- The text passes all stages and yields the formula. -/
structure AcceptedAs (limits : Limits) (text : List Char) (formula : Formula) (tokens : List Token) :
    Prop where
  short : text.length ≤ limits.maxCharacters
  shown : Text.allBlank text = false
  scanned : Token.scan limits text = .ok tokens
  matched : Token.checkParentheses limits.maxDepth tokens = .ok ()
  read : ofTokens limits.maxDepth tokens = .ok formula
  shallow : formula.depth ≤ limits.maxDepth

theorem checkSource_of_short {limits : Limits} {text : List Char}
    (short : text.length ≤ limits.maxCharacters) (shown : Text.allBlank text = false) :
    checkSource limits text = .ok () := by
  rw [checkSource, if_neg (Nat.not_lt_of_le short), if_neg (by simp [shown])]

theorem AcceptedAs.ofChars_eq {limits : Limits} {text : List Char} {formula : Formula}
    {tokens : List Token} (accepted : AcceptedAs limits text formula tokens) :
    ofChars limits text = .ok formula := by
  simp [ofChars, checkSource_of_short accepted.short accepted.shown, accepted.scanned,
    accepted.matched, accepted.read, checkDepth, Nat.not_lt_of_le accepted.shallow, bind,
    Except.bind, pure, Except.pure]

theorem RejectedBy.ofChars_eq {limits : Limits} {text : List Char} {error : SyntaxError}
    (rejected : RejectedBy limits text error) : ofChars limits text = .error error := by
  cases rejected with
  | length long => simp [ofChars, checkSource, long, bind, Except.bind]
  | blank short empty =>
    simp [ofChars, checkSource, Nat.not_lt_of_le short, empty, bind, Except.bind]
  | scan short shown unscanned =>
    simp [ofChars, checkSource_of_short short shown, unscanned, bind, Except.bind]
  | parentheses short shown scanned unmatched =>
    simp [ofChars, checkSource_of_short short shown, scanned, unmatched, bind, Except.bind]
  | grammar short shown scanned matched unread =>
    simp [ofChars, checkSource_of_short short shown, scanned, matched, unread, bind, Except.bind]
  | depth short shown scanned matched read deep =>
    simp [ofChars, checkSource_of_short short shown, scanned, matched, read, checkDepth, deep, bind,
      Except.bind]

theorem accepted_or_rejected (limits : Limits) (text : List Char) :
    (∃ formula tokens, AcceptedAs limits text formula tokens) ∨
      ∃ error, RejectedBy limits text error := by
  by_cases short : text.length ≤ limits.maxCharacters
  · cases shown : Text.allBlank text with
    | true => exact .inr ⟨_, .blank short shown⟩
    | false =>
      cases scanned : Token.scan limits text with
      | error error => exact .inr ⟨_, .scan short shown scanned⟩
      | ok tokens =>
        cases matched : Token.checkParentheses limits.maxDepth tokens with
        | error error => exact .inr ⟨_, .parentheses short shown scanned matched⟩
        | ok =>
          cases read : ofTokens limits.maxDepth tokens with
          | error error => exact .inr ⟨_, .grammar short shown scanned matched read⟩
          | ok formula =>
            by_cases shallow : formula.depth ≤ limits.maxDepth
            · exact .inl ⟨formula, tokens, short, shown, scanned, matched, read, shallow⟩
            · exact .inr ⟨_, .depth short shown scanned matched read (Nat.lt_of_not_le shallow)⟩
  · exact .inr ⟨_, .length (Nat.lt_of_not_le short)⟩

/-- **A text yields a formula exactly if it passes all stages.** -/
theorem ofChars_eq_ok_iff {limits : Limits} {text : List Char} {formula : Formula} :
    ofChars limits text = .ok formula ↔ ∃ tokens, AcceptedAs limits text formula tokens := by
  constructor
  · intro succeeded
    rcases accepted_or_rejected limits text with ⟨other, tokens, accepted⟩ | ⟨error, rejected⟩
    · have same := accepted.ofChars_eq
      rw [succeeded] at same
      cases same
      exact ⟨tokens, accepted⟩
    · have failed := rejected.ofChars_eq
      rw [succeeded] at failed
      cases failed
  · rintro ⟨tokens, accepted⟩
    exact accepted.ofChars_eq

/-- **A text yields an error exactly if a stage rejects it.** -/
theorem ofChars_eq_error_iff {limits : Limits} {text : List Char} {error : SyntaxError} :
    ofChars limits text = .error error ↔ RejectedBy limits text error := by
  constructor
  · intro failed
    rcases accepted_or_rejected limits text with ⟨formula, tokens, accepted⟩ | ⟨other, rejected⟩
    · have succeeded := accepted.ofChars_eq
      rw [failed] at succeeded
      cases succeeded
    · have same := rejected.ofChars_eq
      rw [failed] at same
      cases same
      exact rejected
  · exact RejectedBy.ofChars_eq

end Formula

end FieldFormula
