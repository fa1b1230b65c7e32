import FieldFormula.Proofs.Canonical.RoundTrip
import FieldFormula.Proofs.Outcome

/-!
# Canonical text keeps the meaning

A formula put together by hand may have numbers with a minus sign. In its canonical text such a sign is
read as an operator, so the text yields another formula, in which the number stands one level deeper.
The two formulas have the same outcome in every scope all the same: a finite number is never refused,
and the operator gives it back. What has to be left is one level for the operator, and twice the depth
of the formula leaves it.

## Main result

`evaluate_toText`: the canonical text of a formula of admitted nodes evaluates like the formula.
-/

namespace FieldFormula

namespace Formula

variable {σ : Type} [Scope σ] {maxDepth nesting : Nat} {scope : σ}

/-- Reading the canonical text adds at most one level, that of a minus sign. -/
theorem depth_formula_derivation_le (formula : Formula) :
    formula.derivation.formula.depth ≤ formula.depth + 1 := by
  induction formula with
  | literal value =>
    cases value with
    | number x =>
      cases sign : x.isNegative <;>
        simp [derivation, Literal.derivation, sign, Derivation.formula]
    | text value => simp [derivation, Literal.derivation, Derivation.formula]
    | boolean value => simp [derivation, Literal.derivation, Derivation.formula]
  | identifier name => simp [derivation, Derivation.formula]
  | unary op operand ih =>
    simp only [derivation, Derivation.formula, depth_unary]
    omega
  | binary op left right ihl ihr =>
    simp only [derivation, Derivation.formula, ofInfix, depth_binary]
    omega
  | logical op left right ihl ihr =>
    simp only [derivation, Derivation.formula, ofInfix, depth_logical]
    omega
  | conditional test consequent alternate iht ihc iha =>
    simp only [derivation, Derivation.formula, depth_conditional]
    omega

/-! ### Outcomes -/

theorem outcome_number {x : Binary64} (finite : x.isFinite = true) (room : nesting < maxDepth) :
    (literal (.number x)).outcome maxDepth scope nesting = .ok (.number x) := by
  have admitted : (literal (.number x)).refusal? = none := by
    simp [refusal?, flaw?, Literal.flaw?, finite]
  rw [outcome, outcomeOfNode_of_admitted room admitted]
  rfl

/-- A minus sign gives the same number as an operator. -/
theorem outcome_negate_number {x : Binary64} (finite : x.isFinite = true)
    (room : nesting + 1 < maxDepth) :
    (unary .negate (literal (.number x.negate))).outcome maxDepth scope nesting =
      .ok (.number x) := by
  have finiteOpposite : x.negate.isFinite = true := x.isFinite_negate.trans finite
  have reading : (Value.number x.negate).asNumber = .ok x.negate := by
    simp [Value.asNumber, Value.toNumber?, finiteOpposite]
  rw [outcome, outcomeOfNode_of_children (by simp [children]), if_neg (by omega),
    outcome_number finiteOpposite room]
  simp [PrefixOp.apply, reading, bind, Except.bind, pure, Except.pure]

/-- **The formula of the canonical tree has the outcome of the formula**, if there is a level to
spare. -/
theorem outcome_formula_derivation {formula : Formula} (admitted : formula.Admitted)
    (room : nesting + formula.depth < maxDepth) :
    formula.derivation.formula.outcome maxDepth scope nesting =
      formula.outcome maxDepth scope nesting := by
  -- Operators are never refused, so a node is looked at alike whatever its operands have become.
  induction formula generalizing nesting with
  | literal value =>
    cases value with
    | number x =>
      cases sign : x.isNegative with
      | false => simp [derivation, Literal.derivation, sign, Derivation.formula]
      | true =>
        have flawless := flaw?_eq_none (admitted _ (mem_walk_self _))
        have finite : x.isFinite = true := by
          simpa [flaw?, Literal.flaw?] using flawless
        rw [depth_literal] at room
        rw [outcome_number finite (by omega)]
        simp [derivation, Literal.derivation, sign, Derivation.formula,
          outcome_negate_number finite room]
    | text value => rfl
    | boolean value => rfl
  | identifier name => rfl
  | unary op operand ih =>
    rw [depth_unary] at room
    have below := @ih (nesting + 1) (admitted.of_child (by simp [children])) (by omega)
    simp only [derivation, Derivation.formula, outcome, below]
    rw [outcomeOfNode_of_children (by simp [children]),
      outcomeOfNode_of_children (by simp [children])]
  | binary op left right ihl ihr =>
    rw [depth_binary] at room
    have onLeft := @ihl (nesting + 1) (admitted.of_child (by simp [children])) (by omega)
    have onRight := @ihr (nesting + 1) (admitted.of_child (by simp [children])) (by omega)
    simp only [derivation, Derivation.formula, ofInfix, outcome, onLeft, onRight]
    rw [outcomeOfNode_of_children (by simp [children]),
      outcomeOfNode_of_children (by simp [children])]
  | logical op left right ihl ihr =>
    rw [depth_logical] at room
    have onLeft := @ihl (nesting + 1) (admitted.of_child (by simp [children])) (by omega)
    have onRight := @ihr (nesting + 1) (admitted.of_child (by simp [children])) (by omega)
    simp only [derivation, Derivation.formula, ofInfix, outcome, onLeft, onRight]
    rw [outcomeOfNode_of_children (by simp [children]),
      outcomeOfNode_of_children (by simp [children])]
  | conditional test consequent alternate iht ihc iha =>
    rw [depth_conditional] at room
    have tested := @iht (nesting + 1) (admitted.of_child (by simp [children])) (by omega)
    have chosen := @ihc (nesting + 1) (admitted.of_child (by simp [children])) (by omega)
    have otherwise := @iha (nesting + 1) (admitted.of_child (by simp [children])) (by omega)
    simp only [derivation, Derivation.formula, outcome, tested, chosen, otherwise]
    rw [outcomeOfNode_of_children (by simp [children]),
      outcomeOfNode_of_children (by simp [children])]

/-- **Canonical text keeps the meaning.** Let all nodes of a formula be admitted; its numbers may have
minus signs. Under all limits that leave room for the characters and the tokens of its canonical text
and for twice its depth, the text evaluates like the formula itself in every scope, to the same value
or to the same error. -/
theorem evaluate_toText {formula : Formula} (admitted : formula.Admitted) :
    ∃ tokens : List Token,
      (∀ limits : Limits, tokens.length ≤ limits.maxTokens + 1 →
        Token.scan limits formula.toText.toList = .ok tokens) ∧
      ∀ limits : Limits, formula.toText.length ≤ limits.maxCharacters →
        tokens.length ≤ limits.maxTokens + 1 → 2 * formula.depth ≤ limits.maxDepth →
          ∀ (σ : Type) [Scope σ] (scope : σ),
            (FieldFormula.evaluate limits formula.toText scope).value =
              (formula.evaluate limits scope).value := by
  obtain ⟨tokens, scans, derived⟩ := scans_spelling admitted
  have ofText : formula.derivation.OfText formula.spelling tokens :=
    ⟨(lexesAs_spelling admitted).allowed, scans, derived⟩
  have characters : formula.toText.toList = formula.spelling := String.toList_ofList
  have count := ofText.derived.length_eq
  refine ⟨tokens, fun limits few => ?_, fun limits short few roomy σ _ scope => ?_⟩
  · rw [characters]
    exact ofText.scan_eq_ok_iff.2 (by omega)
  · have nests := formula.nesting_derivation_lt
    have deepens := formula.depth_formula_derivation_le
    have levels := formula.one_le_depth
    have within : formula.derivation.IsWithin limits formula.spelling := by
      refine ⟨⟨?_, by omega, by omega⟩, by omega⟩
      rw [← characters, String.length_toList]
      exact short
    have read : parse limits formula.toText = .ok formula.derivation.formula := by
      rw [parse, characters]
      exact ofText.ofChars_of_isWithin within
    rw [value_evaluate_source read, value_evaluate]
    exact outcome_formula_derivation admitted (by omega)

/-- The negative zero and another negative number, each read back as an operator before a number. -/
theorem evaluate_toText_signs :
    let formula : Formula := .logical .or (.literal (.number (.zero true)))
      (.binary .divide (.identifier "x") (.literal (.number (.round true (3 * Binary64.unitsInOne) 2))))
    formula.toText = "(-0 || (x / -1.5))" ∧ formula.Admitted ∧
      parse {} formula.toText ≠ .ok formula ∧
      ∀ (σ : Type) [Scope σ] (scope : σ),
        (FieldFormula.evaluate {} formula.toText scope).value = (formula.evaluate {} scope).value := by
  intro formula
  have spelled : formula.toText = "(-0 || (x / -1.5))" := by decide +kernel
  have admitted : formula.Admitted := by
    unfold Admitted
    decide +kernel
  have scanned : Token.scan {} formula.toText.toList =
      .ok [⟨.openParen, ⟨0, 1⟩⟩, ⟨.operator "-", ⟨1, 2⟩⟩, ⟨.number (.zero false), ⟨2, 3⟩⟩,
        ⟨.operator "||", ⟨4, 6⟩⟩, ⟨.openParen, ⟨7, 8⟩⟩, ⟨.identifier "x", ⟨8, 9⟩⟩,
        ⟨.operator "/", ⟨10, 11⟩⟩, ⟨.operator "-", ⟨12, 13⟩⟩,
        ⟨.number (.round false (3 * Binary64.unitsInOne) 2), ⟨13, 16⟩⟩, ⟨.closeParen, ⟨16, 17⟩⟩,
        ⟨.closeParen, ⟨17, 18⟩⟩, ⟨.endOfInput, ⟨18, 18⟩⟩] := by
    decide +kernel
  obtain ⟨tokens, scans, agrees⟩ := evaluate_toText admitted
  -- The tokens do not depend on the limits, so they are those found under the default ones.
  obtain ⟨allowed, scansAny, _⟩ := Token.scan_eq_ok_iff.1 scanned
  let roomy : Limits := { maxTokens := tokens.length + 12 }
  have scannedRoomy := Token.scan_eq_ok_iff.2 ⟨allowed, scansAny,
    show 12 ≤ roomy.maxTokens + 1 by simp only [roomy]; omega⟩
  have enough : tokens.length ≤ roomy.maxTokens + 1 := by simp only [roomy]; omega
  obtain rfl := Except.ok.inj ((scans roomy enough).symm.trans scannedRoomy)
  refine ⟨spelled, admitted, by decide +kernel, fun σ _ scope => ?_⟩
  exact agrees {} (by rw [spelled]; decide) (by decide) (by decide +kernel) σ scope

end Formula

end FieldFormula
