import FieldFormula.Proofs.Grammar.Leaves
import FieldFormula.Proofs.Outcome
import FieldFormula.Proofs.SafeTokens

/-!
# Formulas read from text are safe

Every node of a formula that was read from text comes from tokens of the text, and the tokens of an
allowed text are safe. So validation and evaluation find nothing to refuse in such a formula: it is
only formulas put together by hand that their checks are for.
-/

namespace FieldFormula

namespace Formula

/-- The node is admitted, and a number in it is finite and has no minus sign. -/
structure NodeIsSafe (node : Formula) : Prop where
  admitted : node.refusal? = none
  number : ∀ value, node = .literal (.number value) →
    value.isFinite = true ∧ value.isNegative = false

theorem nodeIsSafe_of_flaw? {node : Formula} (flawless : node.flaw? = none)
    (noNumber : ∀ value, node ≠ .literal (.number value)) : NodeIsSafe node :=
  ⟨by rw [refusal?, flawless]; rfl, fun value same => absurd same (noNumber value)⟩

theorem nodeIsSafe_literal {value : Literal} (safe : value.tokenKind.IsSafe) :
    NodeIsSafe (.literal value) := by
  cases value with
  | number x =>
    obtain ⟨finite, unsigned⟩ := safe
    refine ⟨by simp [refusal?, flaw?, Literal.flaw?, finite], ?_⟩
    rintro value same
    cases same
    exact ⟨finite, unsigned⟩
  | text value => exact nodeIsSafe_of_flaw? safe (by simp)
  | boolean value => exact nodeIsSafe_of_flaw? rfl (by simp)

theorem nodeIsSafe_identifier {name : String} (spelled : Text.isName name = true) :
    NodeIsSafe (.identifier name) :=
  nodeIsSafe_of_flaw? (by simp [flaw?, spelled]) (by simp)

theorem nodeIsSafe_of_children {node : Formula} (operator : node.children ≠ []) :
    NodeIsSafe node := by
  refine ⟨refusal?_of_children operator, ?_⟩
  rintro value rfl
  exact absurd rfl operator

/-- A node is safe if the tokens that it was read from are. -/
theorem nodeIsSafe_of_ownKinds {node : Formula} (safe : ∀ kind ∈ node.ownKinds, kind.IsSafe) :
    NodeIsSafe node := by
  cases node with
  | literal value => exact nodeIsSafe_literal (safe _ (.head _))
  | identifier name => exact nodeIsSafe_identifier (safe _ (.head _))
  | _ => exact nodeIsSafe_of_children (by simp [children])

/-- **The nodes of an accepted text are safe,** since its tokens are. -/
theorem AcceptedAs.nodeIsSafe {limits : Limits} {text : List Char} {formula : Formula}
    {tokens : List Token} (accepted : AcceptedAs limits text formula tokens) :
    ∀ node ∈ formula.walk, node.NodeIsSafe := by
  obtain ⟨allowed, scans, _⟩ := Token.scan_eq_ok_iff.1 accepted.scanned
  intro node occurs
  refine nodeIsSafe_of_ownKinds fun kind own => ?_
  obtain ⟨token, member, rfl⟩ :=
    List.mem_map.1 (accepted.accountsFor.ownKinds_subset occurs own)
  exact scans.isSafe allowed token member

end Formula

/-- **A formula read from text is safe.** All its nodes are admitted, its numbers are finite and
have no minus sign, and it is no deeper than the limit. So its evaluation, in whatever scope, neither
refuses a node nor exceeds the depth. -/
theorem safe_of_parse {limits : Limits} {source : String} {formula : Formula}
    (read : Formula.parse limits source = .ok formula) :
    (∀ node ∈ formula.walk, node.refusal? = none) ∧
    (∀ value, .literal (.number value) ∈ formula.walk →
      value.isFinite = true ∧ value.isNegative = false) ∧
    formula.depth ≤ limits.maxDepth ∧
    ∀ (σ : Type) [Scope σ] (scope : σ) (error : EvaluationError),
      (evaluate limits source scope).value = .error error →
        (∀ refusal, error ≠ .disallowed refusal) ∧ ∀ limit, error ≠ .depthExceeded limit := by
  obtain ⟨tokens, accepted⟩ := Formula.ofChars_eq_ok_iff.1 read
  have safe := accepted.nodeIsSafe
  have shallow := accepted.shallow
  refine ⟨fun node occurs => (safe node occurs).admitted,
    fun value occurs => (safe _ occurs).number value rfl, shallow, ?_⟩
  intro σ _ scope error failed
  rw [Formula.value_evaluate_source read] at failed
  cases Formula.outcome_error limits.maxDepth scope formula 0 failed with
  | operator fault => cases fault <;> simp
  | unknown occurs missing => simp
  | refused occurs refuses =>
    have admitted := (safe _ occurs).admitted
    rw [refuses] at admitted
    cases admitted
  | tooDeep deeper => omega

/-- Quote marks in a text, a word that only starts like a boolean, and a number that starts with its
point. -/
theorem safe_of_parse_quotes :
    ∃ formula, Formula.parse {} "truest == 'say \"yes\"' || -1.5 < .25" = .ok formula ∧
      (∀ node ∈ formula.walk, node.refusal? = none) ∧
      (∀ value, .literal (.number value) ∈ formula.walk →
        value.isFinite = true ∧ value.isNegative = false) ∧
      formula.depth ≤ 128 := by
  have read : Formula.parse {} "truest == 'say \"yes\"' || -1.5 < .25" =
      .ok (.logical .or
        (.binary .equals (.identifier "truest") (.literal (.text "say \"yes\"")))
        (.binary .less (.unary .negate (.literal (.number (.round false (3 * Binary64.unitsInOne) 2))))
          (.literal (.number (.round false Binary64.unitsInOne 4))))) := by
    decide +kernel
  obtain ⟨admitted, unsigned, shallow, _⟩ := safe_of_parse read
  exact ⟨_, read, admitted, unsigned, shallow⟩

end FieldFormula
