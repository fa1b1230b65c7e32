import FieldFormula.Formula.Basic

/-!
# Going through a formula

A formula put together by hand may be deeper than any limit, so the traversals here keep the
formulas still to be visited on a list of their own instead of descending into the tree.
-/

namespace FieldFormula.Formula

def size : Formula → Nat
  | .literal _ => 1
  | .identifier _ => 1
  | .unary _ operand => operand.size + 1
  | .binary _ left right => left.size + right.size + 1
  | .logical _ left right => left.size + right.size + 1
  | .conditional test consequent alternate =>
    test.size + consequent.size + alternate.size + 1

def totalSize : List Formula → Nat
  | [] => 0
  | formula :: others => formula.size + totalSize others

theorem totalSize_cons (formula : Formula) (others : List Formula) :
    totalSize (formula :: others) = formula.size + totalSize others :=
  rfl

theorem totalSize_append (formulas others : List Formula) :
    totalSize (formulas ++ others) = totalSize formulas + totalSize others := by
  induction formulas with
  | nil => simp [totalSize]
  | cons formula rest ih => simp [totalSize, ih, Nat.add_assoc]

theorem totalSize_reverse (formulas : List Formula) :
    totalSize formulas.reverse = totalSize formulas := by
  induction formulas with
  | nil => rfl
  | cons formula rest ih =>
    rw [List.reverse_cons, totalSize_append, ih]
    simp [totalSize, Nat.add_comm]

theorem size_eq_totalSize_children (formula : Formula) :
    formula.size = totalSize formula.children + 1 := by
  cases formula with
  | conditional => simp [size, children, totalSize, Nat.add_assoc]
  | _ => simp [size, children, totalSize]

/-- The nodes of the pending formulas, each before the nodes below it. -/
def visit : (pending : List Formula) → List Formula
  | [] => []
  | node :: pending => node :: visit (node.children ++ pending)
termination_by pending => totalSize pending
decreasing_by
  rw [totalSize_append, totalSize_cons, size_eq_totalSize_children]
  omega

/-- All nodes: each before the nodes below it, and those from left to right. -/
def walk (formula : Formula) : List Formula :=
  visit [formula]

/-- The greatest of `best` and the levels reached below the pending formulas, each of which stands
at its own level. The children of a formula are pushed one after another, so the last one is the
first to be visited. -/
def deepest : (pending : List (Formula × Nat)) → (best : Nat) → Nat
  | [], best => best
  | (node, level) :: pending, best =>
    deepest (node.children.reverse.map (fun child => (child, level + 1)) ++ pending)
      (max best level)
termination_by pending => totalSize (pending.map Prod.fst)
decreasing_by
  have below : (node.children.reverse.map fun child => (child, level + 1)).map Prod.fst =
      node.children.reverse := by
    simp [List.map_map, Function.comp_def]
  rw [List.map_append, totalSize_append, below, totalSize_reverse, List.map_cons, totalSize_cons]
  have counted : (node, level).fst.size = totalSize node.children + 1 :=
    size_eq_totalSize_children node
  omega

/-- The number of nodes on the longest way from the root to a leaf. -/
def depth (formula : Formula) : Nat :=
  deepest [(formula, 1)] 0

/-! ### The depth of each form

Readers carry the depth of what they build along, so its equations stand with its definition.
-/

theorem deepest_append (first later : List (Formula × Nat)) (best : Nat) :
    deepest (first ++ later) best = deepest later (deepest first best) := by
  induction first, best using deepest.induct with
  | case1 best => simp [deepest]
  | case2 best node level pending ih =>
    -- The children of the node come to stand before the formulas that were pending behind it.
    rw [List.cons_append, deepest, deepest, ← List.append_assoc, ih]

/-- The first child is visited behind the others. -/
theorem deepest_reverse_cons (first : Formula) (others : List Formula) (level best : Nat) :
    deepest ((first :: others).reverse.map fun child => (child, level)) best =
      deepest [(first, level)] (deepest (others.reverse.map fun child => (child, level)) best) := by
  rw [List.reverse_cons, List.map_append, deepest_append, List.map_cons, List.map_nil]

theorem deepest_reverse_nil (level best : Nat) :
    deepest (([] : List Formula).reverse.map fun child => (child, level)) best = best := by
  rw [List.reverse_nil, List.map_nil, deepest]

/-- A single formula passes the visit on to its children, one level below it. -/
theorem deepest_singleton_eq (formula : Formula) (level best : Nat) :
    deepest [(formula, level)] best =
      deepest (formula.children.reverse.map fun child => (child, level + 1)) (max best level) := by
  rw [deepest, List.append_nil]

-- The later child is visited first.
private theorem max_levels (best level first second : Nat) :
    max (max best (level + second - 1)) (level + first - 1) =
      max best (level + max first second - 1) := by
  omega

private theorem max_level_succ (best level below : Nat) :
    max (max best level) (level + 1 + below - 1) =
      max best (level + max (max 0 1) (1 + 1 + below - 1) - 1) := by
  omega

private theorem max_level_one (below : Nat) : max 1 (2 + below - 1) = 1 + below := by
  omega

theorem deepest_singleton (formula : Formula) (level best : Nat) :
    deepest [(formula, level)] best = max best (level + formula.depth - 1) := by
  -- The depth itself is a visit from the first level, so both visits are passed on to the children.
  induction formula generalizing level best with
  | literal value =>
    rw [depth, deepest_singleton_eq _ level, deepest_singleton_eq _ 1]
    simp [children, deepest]
  | identifier name =>
    rw [depth, deepest_singleton_eq _ level, deepest_singleton_eq _ 1]
    simp [children, deepest]
  | unary op operand ih =>
    rw [depth, deepest_singleton_eq _ level, deepest_singleton_eq _ 1]
    simp only [children, deepest_reverse_cons, deepest_reverse_nil, ih]
    exact max_level_succ ..
  | binary op left right ihl ihr =>
    rw [depth, deepest_singleton_eq _ level, deepest_singleton_eq _ 1]
    simp only [children, deepest_reverse_cons, deepest_reverse_nil, ihl, ihr, max_levels]
    exact max_level_succ ..
  | logical op left right ihl ihr =>
    rw [depth, deepest_singleton_eq _ level, deepest_singleton_eq _ 1]
    simp only [children, deepest_reverse_cons, deepest_reverse_nil, ihl, ihr, max_levels]
    exact max_level_succ ..
  | conditional test consequent alternate iht ihc iha =>
    rw [depth, deepest_singleton_eq _ level, deepest_singleton_eq _ 1]
    simp only [children, deepest_reverse_cons, deepest_reverse_nil, iht, ihc, iha, max_levels]
    exact max_level_succ ..

theorem depth_eq_deepest_children (formula : Formula) :
    formula.depth = deepest (formula.children.reverse.map fun child => (child, 2)) 1 := by
  rw [depth, deepest_singleton_eq, Nat.zero_max]

@[simp] theorem depth_literal (value : Literal) : (literal value).depth = 1 := by
  rw [depth_eq_deepest_children, children, deepest_reverse_nil]

@[simp] theorem depth_identifier (name : String) : (identifier name).depth = 1 := by
  rw [depth_eq_deepest_children, children, deepest_reverse_nil]

@[simp] theorem depth_unary (op : PrefixOp) (operand : Formula) :
    (unary op operand).depth = 1 + operand.depth := by
  simp only [depth_eq_deepest_children (unary op operand), children, deepest_reverse_cons,
    deepest_reverse_nil, deepest_singleton]
  exact max_level_one _

@[simp] theorem depth_binary (op : BinaryOp) (left right : Formula) :
    (binary op left right).depth = 1 + max left.depth right.depth := by
  simp only [depth_eq_deepest_children (binary op left right), children,
    deepest_reverse_cons, deepest_reverse_nil, deepest_singleton, max_levels]
  exact max_level_one _

@[simp] theorem depth_logical (op : LogicalOp) (left right : Formula) :
    (logical op left right).depth = 1 + max left.depth right.depth := by
  simp only [depth_eq_deepest_children (logical op left right), children,
    deepest_reverse_cons, deepest_reverse_nil, deepest_singleton, max_levels]
  exact max_level_one _

@[simp] theorem depth_conditional (test consequent alternate : Formula) :
    (conditional test consequent alternate).depth =
      1 + max (max test.depth consequent.depth) alternate.depth := by
  simp only [depth_eq_deepest_children (conditional test consequent alternate), children,
    deepest_reverse_cons, deepest_reverse_nil, deepest_singleton, max_levels, ← Nat.max_assoc]
  exact max_level_one _

@[simp] theorem depth_ofInfix (op : InfixOp) (left right : Formula) :
    (ofInfix op left right).depth = 1 + max left.depth right.depth := by
  cases op <;> simp [ofInfix]

def identifier? : Formula → Option String
  | .identifier name => some name
  | _ => none

/-- The names in the formula, each once, in the order in which they first appear. -/
def identifiers (formula : Formula) : List String :=
  (formula.walk.filterMap identifier?).eraseDups

end FieldFormula.Formula
