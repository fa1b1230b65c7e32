import FieldFormula.Proofs.Grammar.Acceptance

/-!
# Limits are bounds

Limits do not decide which formula a text spells, only whether the text may be read. The stages of
reading look at them in six places, and some stages measure a part of the text or a tree that is not
finished. Here all that is put together: a text that has a tree of the grammar is read exactly if its
characters, its tokens, the nesting of the tree and the depth of its formula are within the limits, and
is refused for a limit otherwise.

## Main result

`parse_eq_ok_iff_within`: this holds of every text that some limits have accepted.
-/

namespace FieldFormula

namespace Derivation

variable {tree : Derivation} {limits : Limits} {text : List Char} {tokens : List Token}

/-- The tree is one of the grammar for the text, which has these tokens. -/
structure OfText (tree : Derivation) (text : List Char) (tokens : List Token) : Prop where
  allowed : AllAllowed text
  scans : Token.Scans 0 text tokens
  derived : tree.IsOf tokens

/-- Everything that is limited is within the limits. -/
structure IsWithin (tree : Derivation) (limits : Limits) (text : List Char) : Prop
    extends tree.FitsIn limits text where
  few : tree.kinds.length ≤ limits.maxTokens

/-- The token for the end of the input is not counted. -/
theorem OfText.scan_eq_ok_iff (ofText : tree.OfText text tokens) :
    Token.scan limits text = .ok tokens ↔ tree.kinds.length ≤ limits.maxTokens := by
  rw [Token.scan_eq_ok_iff, ofText.derived.length_eq, Nat.succ_le_succ_iff]
  exact ⟨fun scanned => scanned.2.2, fun few => ⟨ofText.allowed, ofText.scans, few⟩⟩

/-- **Within the limits a text yields the formula of its tree.** -/
theorem OfText.ofChars_of_isWithin (ofText : tree.OfText text tokens)
    (within : tree.IsWithin limits text) : Formula.ofChars limits text = .ok tree.formula :=
  Formula.ofChars_of_derived (ofText.scan_eq_ok_iff.2 within.few) ofText.derived within.toFitsIn

/-- **Outside the limits a text is refused for one of them.** -/
theorem OfText.ofChars_of_not_isWithin (ofText : tree.OfText text tokens)
    (exceeds : ¬ tree.IsWithin limits text) :
    ∃ error, Formula.ofChars limits text = .error error ∧ error.kind = .limitExceeded := by
  by_cases few : tree.kinds.length ≤ limits.maxTokens
  · exact Formula.ofChars_of_derived_of_not_fits (ofText.scan_eq_ok_iff.2 few) ofText.derived
      fun fits => exceeds ⟨fits, few⟩
  · by_cases short : text.length ≤ limits.maxCharacters
    · -- The scan stops at the first token too many, before anything else is looked at.
      have many : limits.maxTokens + 1 < 0 + tokens.length := by
        rw [ofText.derived.length_eq]
        omega
      obtain ⟨span, refused⟩ := ofText.scans.scanFrom_eq_error (Nat.zero_le _) many
      rw [← Token.scan_of_allAllowed ofText.allowed] at refused
      have shown := ofText.scans.not_allBlank ofText.derived.several
      exact ⟨_, (Formula.RejectedBy.scan short shown refused).ofChars_eq, rfl⟩
    · exact ⟨_, (Formula.RejectedBy.length (Nat.lt_of_not_le short)).ofChars_eq, rfl⟩

theorem OfText.ofChars_eq_ok_iff (ofText : tree.OfText text tokens) :
    Formula.ofChars limits text = .ok tree.formula ↔ tree.IsWithin limits text := by
  constructor
  · intro read
    by_contra exceeds
    obtain ⟨error, refused, _⟩ := ofText.ofChars_of_not_isWithin exceeds
    rw [read] at refused
    cases refused
  · exact ofText.ofChars_of_isWithin

/-- All trees of a text stand for the formula that it yields. -/
theorem OfText.formula_eq {formula : Formula} (ofText : tree.OfText text tokens)
    (read : Formula.ofChars limits text = .ok formula) : tree.formula = formula := by
  by_cases within : tree.IsWithin limits text
  · exact Except.ok.inj ((ofText.ofChars_of_isWithin within).symm.trans read)
  · obtain ⟨error, refused, _⟩ := ofText.ofChars_of_not_isWithin within
    rw [read] at refused
    cases refused

end Derivation

namespace Formula

/-- **Limits act exactly as bounds.** Let some limits accept a text. The grammar has a tree for its
tokens, and whichever such tree is taken, it stands for the formula that was read. Any other limits
accept the text too, with the same formula, if and only if its characters, its tokens without the one
for the end of the input, the nesting of the tree and the depth of the formula are within them. If not,
they refuse it for a limit. -/
theorem parse_eq_ok_iff_within {accepting : Limits} {source : String} {formula : Formula}
    (read : parse accepting source = .ok formula) :
    ∃ tokens, Token.scan accepting source.toList = .ok tokens ∧
      (∃ tree : Derivation, Derives .expression tree ∧
        tree.kinds ++ [.endOfInput] = tokens.map Token.kind) ∧
      ∀ tree : Derivation, Derives .expression tree →
        tree.kinds ++ [.endOfInput] = tokens.map Token.kind →
        tree.formula = formula ∧ ∀ limits : Limits,
          (parse limits source = .ok formula ↔
            source.length ≤ limits.maxCharacters ∧ tree.kinds.length ≤ limits.maxTokens ∧
              tree.nesting ≤ limits.maxDepth ∧ formula.depth ≤ limits.maxDepth) ∧
          (parse limits source = .ok formula ∨
            ∃ error, parse limits source = .error error ∧ error.kind = .limitExceeded) := by
  obtain ⟨tokens, accepted⟩ := ofChars_eq_ok_iff.1 read
  obtain ⟨allowed, scans, _⟩ := Token.scan_eq_ok_iff.1 accepted.scanned
  obtain ⟨tree, derived, _⟩ := derived_of_ofTokens scans accepted.read
  refine ⟨tokens, accepted.scanned, ⟨tree, derived.derives, derived.spelled⟩, ?_⟩
  intro tree derives spelled
  have ofText : tree.OfText source.toList tokens := ⟨allowed, scans, derives, spelled⟩
  have stands := ofText.formula_eq read
  subst stands
  refine ⟨rfl, fun limits => ⟨?_, ?_⟩⟩
  · rw [← String.length_toList]
    constructor
    · intro accepts
      have within := ofText.ofChars_eq_ok_iff.1 accepts
      exact ⟨within.short, within.few, within.flat, within.shallow⟩
    · rintro ⟨short, few, flat, shallow⟩
      exact ofText.ofChars_of_isWithin ⟨⟨short, flat, shallow⟩, few⟩
  · by_cases within : tree.IsWithin limits source.toList
    · exact .inl (ofText.ofChars_of_isWithin within)
    · exact .inr (ofText.ofChars_of_not_isWithin within)

/-- A chain nests no more than once, however long it is, but it gets deeper with every operand. -/
theorem parse_eq_ok_iff_within_chain :
    parse {} "(a) - b - c" = .ok (.binary .subtract
        (.binary .subtract (.identifier "a") (.identifier "b")) (.identifier "c")) ∧
      ∀ limits : Limits,
        (parse limits "(a) - b - c" = .ok (.binary .subtract
          (.binary .subtract (.identifier "a") (.identifier "b")) (.identifier "c")) ↔
          11 ≤ limits.maxCharacters ∧ 7 ≤ limits.maxTokens ∧
            1 ≤ limits.maxDepth ∧ 3 ≤ limits.maxDepth) := by
  have read : parse {} "(a) - b - c" = .ok (.binary .subtract
      (.binary .subtract (.identifier "a") (.identifier "b")) (.identifier "c")) := by
    decide +kernel
  have scanned : Token.scan {} "(a) - b - c".toList =
      .ok [⟨.openParen, ⟨0, 1⟩⟩, ⟨.identifier "a", ⟨1, 2⟩⟩, ⟨.closeParen, ⟨2, 3⟩⟩,
        ⟨.operator "-", ⟨4, 5⟩⟩, ⟨.identifier "b", ⟨6, 7⟩⟩, ⟨.operator "-", ⟨8, 9⟩⟩,
        ⟨.identifier "c", ⟨10, 11⟩⟩, ⟨.endOfInput, ⟨11, 11⟩⟩] := by
    decide +kernel
  obtain ⟨tokens, same, -, bounds⟩ := parse_eq_ok_iff_within read
  obtain rfl := Except.ok.inj (same.symm.trans scanned)
  have operand {tree : Derivation} (derives : Derives .primary tree) (precedence : Nat)
      (positive : 1 ≤ precedence) (bounded : precedence ≤ prefixPrecedence) :
      Derives (.level precedence) tree :=
    (Derives.primary derives).loosen positive bounded (Nat.le_refl _)
  have group : Derives .primary (.group (.identifier "a")) :=
    .group (.operation (operand (.identifier "a") 1 (by decide) (by decide)))
  have shorter : Derives (.level 5)
      (.infixed (.binary .subtract) (.group (.identifier "a")) (.identifier "b")) :=
    .infixed (by decide) (operand group 5 (by decide) (by decide))
      (operand (.identifier "b") 6 (by decide) (by decide))
  have chain : Derives (.level 5) (.infixed (.binary .subtract)
      (.infixed (.binary .subtract) (.group (.identifier "a")) (.identifier "b"))
      (.identifier "c")) :=
    .infixed (by decide) shorter (operand (.identifier "c") 6 (by decide) (by decide))
  have whole := Derives.operation (chain.loosen (Nat.le_refl 1) (by decide) (by decide))
  obtain ⟨_, within⟩ := bounds _ whole rfl
  have characters : "(a) - b - c".length = 11 := by decide
  refine ⟨read, fun limits => ?_⟩
  simpa [Derivation.kinds, Derivation.nesting, characters] using (within limits).1

end Formula

end FieldFormula
