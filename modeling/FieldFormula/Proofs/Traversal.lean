import FieldFormula.Formula.Traversal

/-!
# The traversals follow the tree

The walk keeps a list of pending formulas. Here it is related to the tree itself: visiting a list
visits each of its formulas in turn, so `walk` lists a node before the walks of its children. Later
proofs go by induction on the formula and use these equations only, and those of the depth.
-/

namespace FieldFormula.Formula

/-! ### The walk -/

theorem visit_append (first later : List Formula) :
    visit (first ++ later) = visit first ++ visit later := by
  induction first using visit.induct with
  | case1 => simp [visit]
  | case2 node pending ih =>
    rw [List.cons_append, visit, visit, ← List.append_assoc, ih, List.cons_append]

/-- Pending formulas are walked through one after another. -/
theorem visit_eq_flatMap_walk (pending : List Formula) : visit pending = pending.flatMap walk := by
  induction pending with
  | nil => rw [visit, List.flatMap_nil]
  | cons node pending ih =>
    rw [List.flatMap_cons, ← ih, walk, ← visit_append, List.singleton_append]

/-- A formula is walked through from its root, then child by child. -/
theorem walk_eq (formula : Formula) : formula.walk = formula :: formula.children.flatMap walk := by
  rw [walk, visit, List.append_nil, visit_eq_flatMap_walk]

@[simp] theorem walk_literal (value : Literal) : (literal value).walk = [literal value] := by
  simp [walk_eq (literal value), children]

@[simp] theorem walk_identifier (name : String) : (identifier name).walk = [identifier name] := by
  simp [walk_eq (identifier name), children]

@[simp] theorem walk_unary (op : PrefixOp) (operand : Formula) :
    (unary op operand).walk = unary op operand :: operand.walk := by
  simp [walk_eq (unary op operand), children]

@[simp] theorem walk_binary (op : BinaryOp) (left right : Formula) :
    (binary op left right).walk = binary op left right :: (left.walk ++ right.walk) := by
  simp [walk_eq (binary op left right), children]

@[simp] theorem walk_logical (op : LogicalOp) (left right : Formula) :
    (logical op left right).walk = logical op left right :: (left.walk ++ right.walk) := by
  simp [walk_eq (logical op left right), children]

@[simp] theorem walk_conditional (test consequent alternate : Formula) :
    (conditional test consequent alternate).walk =
      conditional test consequent alternate ::
        (test.walk ++ (consequent.walk ++ alternate.walk)) := by
  simp [walk_eq (conditional test consequent alternate), children]

theorem walk_ofInfix (op : InfixOp) (left right : Formula) :
    (ofInfix op left right).walk = ofInfix op left right :: (left.walk ++ right.walk) := by
  cases op <;> simp [ofInfix]

theorem mem_walk_self (formula : Formula) : formula ∈ formula.walk := by
  rw [walk_eq]
  exact List.mem_cons_self

theorem walk_subset_of_mem_children {child formula : Formula} (member : child ∈ formula.children) :
    child.walk ⊆ formula.walk := by
  intro node below
  rw [walk_eq formula]
  exact List.mem_cons_of_mem _ (List.mem_flatMap.mpr ⟨child, member, below⟩)

theorem mem_identifiers_iff {formula : Formula} {name : String} :
    name ∈ formula.identifiers ↔ identifier name ∈ formula.walk := by
  simp only [identifiers, List.mem_eraseDups, List.mem_filterMap]
  constructor
  · rintro ⟨node, member, named⟩
    cases node with
    | identifier other =>
      obtain rfl : other = name := by simpa [identifier?] using named
      exact member
    | _ => simp [identifier?] at named
  · intro member
    exact ⟨identifier name, member, rfl⟩

theorem identifiers_subset_of_mem_children {child formula : Formula}
    (member : child ∈ formula.children) : child.identifiers ⊆ formula.identifiers := by
  intro name occurs
  exact mem_identifiers_iff.2 (walk_subset_of_mem_children member (mem_identifiers_iff.1 occurs))

/-! ### The depth -/

theorem depth_lt_of_mem_children {child formula : Formula} (member : child ∈ formula.children) :
    child.depth < formula.depth := by
  cases formula with
  | literal value => simp [children] at member
  | identifier name => simp [children] at member
  | unary op operand =>
    obtain rfl : child = operand := by simpa [children] using member
    simp
  | binary op left right =>
    rcases (by simpa [children] using member : child = left ∨ child = right) with rfl | rfl
    · simp; omega
    · simp; omega
  | logical op left right =>
    rcases (by simpa [children] using member : child = left ∨ child = right) with rfl | rfl
    · simp; omega
    · simp; omega
  | conditional test consequent alternate =>
    rcases (by simpa [children] using member :
      child = test ∨ child = consequent ∨ child = alternate) with rfl | rfl | rfl
    · simp; omega
    · simp; omega
    · simp; omega

theorem one_le_depth (formula : Formula) : 1 ≤ formula.depth := by
  cases formula <;> simp

/-- The walk of a formula goes through all of the walk of each node that it meets. -/
theorem walk_subset_of_mem_walk {node formula : Formula} (member : node ∈ formula.walk) :
    node.walk ⊆ formula.walk := by
  rw [walk_eq, List.mem_cons, List.mem_flatMap] at member
  rcases member with rfl | ⟨child, childMember, below⟩
  · exact List.Subset.refl _
  · exact List.Subset.trans (walk_subset_of_mem_walk below)
      (walk_subset_of_mem_children childMember)
termination_by formula.depth
decreasing_by exact depth_lt_of_mem_children childMember

end FieldFormula.Formula
