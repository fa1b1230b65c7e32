import FieldFormula.Proofs.Canonical.Tokens
import FieldFormula.Proofs.Grammar.Bounds
import FieldFormula.Proofs.SafeFormulas

/-!
# Canonical text reads back

The canonical text of a formula gives the tokens of its tree, and the grammar has a tree for them, so
the text is accepted and yields the formula of the tree, unless it exceeds a limit.

## Main result

`parse_toText`: if all nodes of a formula are admitted and its numbers have no minus sign, its
canonical text yields the formula itself.
-/

namespace FieldFormula

namespace Formula

theorem scans_spelling {formula : Formula} (admitted : formula.Admitted) :
    ∃ tokens, Token.Scans 0 formula.spelling tokens ∧ formula.derivation.IsOf tokens := by
  have whole := (lexesAs_spelling admitted).lexes Token.endsWord_nil Token.lexes_nil
  rw [List.append_nil] at whole
  obtain ⟨tokens, scans, spelled⟩ := whole 0
  exact ⟨tokens, scans, derives_expression formula.derives_derivation, spelled.symm⟩

/-- The canonical text yields the formula of its tree, or exceeds a limit. -/
theorem ofChars_spelling {formula : Formula} {tokens : List Token} (admitted : formula.Admitted)
    (scans : Token.Scans 0 formula.spelling tokens) (derived : formula.derivation.IsOf tokens)
    (limits : Limits) :
    ofChars limits formula.spelling = .ok formula.derivation.formula ∨
      ∃ error, ofChars limits formula.spelling = .error error ∧ error.kind = .limitExceeded := by
  have ofText : formula.derivation.OfText formula.spelling tokens :=
    ⟨(lexesAs_spelling admitted).allowed, scans, derived⟩
  by_cases within : formula.derivation.IsWithin limits formula.spelling
  · exact .inl (ofText.ofChars_of_isWithin within)
  · exact .inr (ofText.ofChars_of_not_isWithin within)

/-- **Canonical text reads back.** Every formula that is read from text has admitted nodes only and
no minus sign in a number. Of every such formula, the canonical text yields the formula itself or
exceeds a limit, and it surely exceeds none that leaves room for its characters, its tokens and twice
the depth of the formula. -/
theorem parse_toText :
    (∀ limits source formula, parse limits source = .ok formula →
      formula.Admitted ∧ formula.Unsigned) ∧
    ∀ formula : Formula, formula.Admitted → formula.Unsigned →
      ∃ tokens : List Token,
        (∀ limits : Limits, tokens.length ≤ limits.maxTokens + 1 →
          Token.scan limits formula.toText.toList = .ok tokens) ∧
        ∀ limits : Limits,
          (parse limits formula.toText = .ok formula ∨
            ∃ error, parse limits formula.toText = .error error ∧ error.kind = .limitExceeded) ∧
          (formula.toText.length ≤ limits.maxCharacters → tokens.length ≤ limits.maxTokens + 1 →
            2 * formula.depth ≤ limits.maxDepth → parse limits formula.toText = .ok formula) := by
  constructor
  · intro limits source formula read
    obtain ⟨tokens, accepted⟩ := ofChars_eq_ok_iff.1 read
    have safe := accepted.nodeIsSafe
    exact ⟨fun node occurs => (safe node occurs).admitted,
      fun value occurs => ((safe _ occurs).number value rfl).2⟩
  · intro formula admitted unsigned
    obtain ⟨tokens, scans, derived⟩ := scans_spelling admitted
    have same := formula_derivation unsigned
    have allowed := (lexesAs_spelling admitted).allowed
    have characters : formula.toText.toList = formula.spelling := String.toList_ofList
    have length_eq : formula.toText.length = formula.spelling.length := by
      rw [← characters, String.length_toList]
    have scanned (limits : Limits) (few : tokens.length ≤ limits.maxTokens + 1) :
        Token.scan limits formula.toText.toList = .ok tokens := by
      rw [characters]
      exact Token.scan_eq_ok_iff.2 ⟨allowed, scans, few⟩
    refine ⟨tokens, scanned, fun limits => ⟨?_, fun short few roomy => ?_⟩⟩
    · have read := ofChars_spelling admitted scans derived limits
      rwa [same, ← characters] at read
    · have nests := formula.nesting_derivation_lt
      have fits : formula.derivation.FitsIn limits formula.toText.toList := by
        refine ⟨by rw [characters]; omega, by omega, ?_⟩
        rw [same]
        omega
      have read := ofChars_of_derived (scanned limits few) derived fits
      rwa [same] at read

/-- A text with a quote mark in it, a prefix operator before a number and one right before another
operator application. -/
theorem parse_toText_quotes :
    let formula : Formula := .binary .multiply
      (.unary .negate (.unary .not (.literal (.number (.round false (3 * Binary64.unitsInOne) 2)))))
      (.logical .or (.identifier "x") (.literal (.text "say \"=\"")))
    formula.toText = "((-(!1.5)) * (x || 'say \"=\"'))" ∧ formula.Admitted ∧ formula.Unsigned ∧
      ∀ limits : Limits, parse limits formula.toText = .ok formula ∨
        ∃ error, parse limits formula.toText = .error error ∧ error.kind = .limitExceeded := by
  intro formula
  have admitted : formula.Admitted := by
    unfold Admitted
    decide +kernel
  have unsigned : formula.Unsigned := by
    intro value occurs
    have number : value = .round false (3 * Binary64.unitsInOne) 2 := by
      simpa [formula] using occurs
    rw [number, Binary64.isNegative_round]
  obtain ⟨tokens, _, reads⟩ := parse_toText.2 formula admitted unsigned
  exact ⟨by decide +kernel, admitted, unsigned, fun limits => (reads limits).1⟩

end Formula

end FieldFormula
