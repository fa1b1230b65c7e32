import FieldFormula.Formula.Admissible
import FieldFormula.Formula.Canonical
import FieldFormula.Proofs.Grammar.Derivation
import FieldFormula.Proofs.Traversal

/-!
# The tree of canonical text

`Formula.derivation` is the tree of the grammar that the canonical text of a formula spells: every
operator application stands in parentheses of its own, and the minus sign of a number is an operator.
Without such signs it stands for the formula itself. The reader nests on it at most twice for every
level of the formula, once on the parentheses of an operator and once on its operand.
-/

namespace FieldFormula

/-- The tree of a constant. The minus sign of a number is an operator before it. -/
def Literal.derivation : Literal → Derivation
  | .number value =>
    if value.isNegative then .prefixed .negate (.constant (.number value.negate))
    else .constant (.number value)
  | .text value => .constant (.text value)
  | .boolean value => .constant (.boolean value)

namespace Formula

/-- The tree with parentheses around every operator application. -/
def derivation : Formula → Derivation
  | .literal value => value.derivation
  | .identifier name => .identifier name
  | .unary op operand => .group (.prefixed op operand.derivation)
  | .binary op left right => .group (.infixed (.binary op) left.derivation right.derivation)
  | .logical op left right => .group (.infixed (.logical op) left.derivation right.derivation)
  | .conditional test consequent alternate =>
    .group (.choice test.derivation consequent.derivation alternate.derivation)

/-- Numbers in the formula have no minus sign. -/
def Unsigned (formula : Formula) : Prop :=
  ∀ value, literal (.number value) ∈ formula.walk → value.isNegative = false

/-- Every node of the formula is admitted. -/
def Admitted (formula : Formula) : Prop :=
  ∀ node ∈ formula.walk, node.refusal? = none

theorem Unsigned.of_child {child formula : Formula} (unsigned : formula.Unsigned)
    (member : child ∈ formula.children) : child.Unsigned :=
  fun value occurs => unsigned value (walk_subset_of_mem_children member occurs)

theorem Admitted.of_child {child formula : Formula} (admitted : formula.Admitted)
    (member : child ∈ formula.children) : child.Admitted :=
  fun node occurs => admitted node (walk_subset_of_mem_children member occurs)

/-- Without minus signs the tree stands for the formula itself. -/
theorem formula_derivation {formula : Formula} (unsigned : formula.Unsigned) :
    formula.derivation.formula = formula := by
  induction formula with
  | literal value =>
    cases value with
    | number x =>
      have positive : x.isNegative = false := unsigned x (mem_walk_self _)
      simp [derivation, Literal.derivation, positive, Derivation.formula]
    | text value => rfl
    | boolean value => rfl
  | identifier name => rfl
  | unary op operand ih =>
    rw [derivation, Derivation.formula, Derivation.formula,
      ih (unsigned.of_child (by simp [children]))]
  | binary op left right ihl ihr =>
    rw [derivation, Derivation.formula, Derivation.formula,
      ihl (unsigned.of_child (by simp [children])), ihr (unsigned.of_child (by simp [children])),
      ofInfix]
  | logical op left right ihl ihr =>
    rw [derivation, Derivation.formula, Derivation.formula,
      ihl (unsigned.of_child (by simp [children])), ihr (unsigned.of_child (by simp [children])),
      ofInfix]
  | conditional test consequent alternate iht ihc iha =>
    rw [derivation, Derivation.formula, Derivation.formula,
      iht (unsigned.of_child (by simp [children])), ihc (unsigned.of_child (by simp [children])),
      iha (unsigned.of_child (by simp [children]))]

/-- The reader nests at most twice for each level of the formula. -/
theorem nesting_derivation_lt (formula : Formula) :
    formula.derivation.nesting < 2 * formula.depth := by
  -- The parentheses are one level and the operand in them another, for one level of the formula.
  induction formula with
  | literal value =>
    cases value with
    | number x => cases sign : x.isNegative <;> simp [derivation, Literal.derivation, sign,
        Derivation.nesting]
    | text value => simp [derivation, Literal.derivation, Derivation.nesting]
    | boolean value => simp [derivation, Literal.derivation, Derivation.nesting]
  | identifier name => simp [derivation, Derivation.nesting]
  | unary op operand ih =>
    simp only [derivation, Derivation.nesting, depth_unary]
    omega
  | binary op left right ihl ihr =>
    simp only [derivation, Derivation.nesting, depth_binary]
    omega
  | logical op left right ihl ihr =>
    simp only [derivation, Derivation.nesting, depth_logical]
    omega
  | conditional test consequent alternate iht ihc iha =>
    simp only [derivation, Derivation.nesting, depth_conditional]
    omega

theorem derives_expression {tree : Derivation} (derives : Derives (.level prefixPrecedence) tree) :
    Derives .expression tree :=
  .operation (derives.loosen (Nat.le_refl _) (by decide) (Nat.le_refl _))

theorem derives_group_infixed {op : InfixOp} {left right : Derivation}
    (derivesLeft : Derives (.level prefixPrecedence) left)
    (derivesRight : Derives (.level prefixPrecedence) right) :
    Derives .primary (.group (.infixed op left right)) := by
  -- Operands of the tightest level fit on either side of an operator of any strength.
  obtain ⟨precedence, found⟩ := infixOfSymbol?_symbol op
  have listed := List.mem_of_find?_eq_some found
  have positive := (infixEntry_of_mem listed).2
  have loose := precedence_lt_prefixPrecedence listed
  have applied : Derives (.level precedence) (.infixed op left right) :=
    .infixed listed (derivesLeft.loosen positive (Nat.le_of_lt loose) (Nat.le_refl _))
      (derivesRight.loosen (Nat.le_add_left _ _) loose (Nat.le_refl _))
  exact .group (.operation (applied.loosen (Nat.le_refl _) positive (Nat.le_of_lt loose)))

theorem derives_prefixed {op : PrefixOp} {operand : Derivation}
    (derives : Derives (.level prefixPrecedence) operand) :
    Derives (.level prefixPrecedence) (.prefixed op operand) :=
  .prefixed (List.mem_of_find?_eq_some (prefixOfSymbol?_symbol op)) derives

/-- **The tree is one of the grammar.** -/
theorem derives_derivation (formula : Formula) :
    Derives (.level prefixPrecedence) formula.derivation := by
  induction formula with
  | literal value =>
    cases value with
    | number x =>
      rw [derivation, Literal.derivation]
      split
      · exact derives_prefixed (.primary (.constant _))
      · exact .primary (.constant _)
    | text value => exact .primary (.constant _)
    | boolean value => exact .primary (.constant _)
  | identifier name => exact .primary (.identifier name)
  | unary op operand ih => exact .primary (.group (derives_expression (derives_prefixed ih)))
  | binary op left right ihl ihr => exact .primary (derives_group_infixed ihl ihr)
  | logical op left right ihl ihr => exact .primary (derives_group_infixed ihl ihr)
  | conditional test consequent alternate iht ihc iha =>
    have tested := iht.loosen (Nat.le_refl 1) (by decide) (Nat.le_refl _)
    exact .primary (.group (.choice tested (derives_expression ihc) (derives_expression iha)))

end Formula

end FieldFormula
