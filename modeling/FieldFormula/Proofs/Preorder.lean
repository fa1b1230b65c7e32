import FieldFormula.Proofs.FirstAppearances
import FieldFormula.Proofs.Traversal
import Mathlib.Logic.Function.Iterate

/-!
# The traversals round by round

The traversals are loops that take the first pending formula off a list and put its children there
instead. Here both loops are followed round by round. Each round takes one node off what is pending,
so a loop ends after as many rounds as the formula has nodes. The walk lists the formula that each
round takes off; the search for the depth keeps the level that it will have found in the end,
whichever way the children are put before the other formulas.

A node is not the same as the formula that stands there, since equal formulas may stand at several
places. What tells the nodes apart are their addresses: the numbers of the children on the way down
from the root. A node comes before those below it, and those below it from left to right, exactly if
the addresses come in lexicographic order.

## Main result

`traversals_follow_tree`: the walk, the depth and the identifiers are what the tree says.
-/

namespace FieldFormula.Formula

/-! ### Addresses -/

/-- The formula at an address, if the address leads to a node. -/
def at? (formula : Formula) : (address : List Nat) → Option Formula
  | [] => some formula
  | index :: way => formula.children[index]?.bind fun child => child.at? way

/-- The addresses of all nodes, in lexicographic order. -/
def addresses : Formula → List (List Nat)
  | .literal _ => [[]]
  | .identifier _ => [[]]
  | .unary _ operand => [] :: operand.addresses.map (0 :: ·)
  | .binary _ left right => [] :: (left.addresses.map (0 :: ·) ++ right.addresses.map (1 :: ·))
  | .logical _ left right => [] :: (left.addresses.map (0 :: ·) ++ right.addresses.map (1 :: ·))
  | .conditional test consequent alternate =>
    [] :: (test.addresses.map (0 :: ·) ++
      (consequent.addresses.map (1 :: ·) ++ alternate.addresses.map (2 :: ·)))

/-- The nodes are those of the formula in preorder: they stand at these addresses, which are those
of the formula, each once, in lexicographic order. -/
structure InPreorder (formula : Formula) (addresses : List (List Nat)) (nodes : List Formula) :
    Prop where
  increasing : addresses.Pairwise (· < ·)
  mem_iff : ∀ address, address ∈ addresses ↔ (formula.at? address).isSome
  nodes_eq : nodes.map some = addresses.map formula.at?

/-- The addresses below the root, child by child. -/
theorem addresses_eq (formula : Formula) :
    formula.addresses = [] :: formula.children.zipIdx.flatMap fun numbered =>
      numbered.1.addresses.map (numbered.2 :: ·) := by
  cases formula <;> simp [addresses, children]

/-- What holds of a formula if it holds of its children holds of all formulas. -/
theorem induction_children {motive : Formula → Prop}
    (node : ∀ formula, (∀ child ∈ formula.children, motive child) → motive formula)
    (formula : Formula) : motive formula :=
  node formula fun child _ => induction_children node child
termination_by formula.depth
decreasing_by exact depth_lt_of_mem_children ‹_›

theorem pairwise_zipIdx (formulas : List Formula) :
    formulas.zipIdx.Pairwise fun first second => first.2 < second.2 := by
  have numbers : (formulas.zipIdx.map Prod.snd).Pairwise (· < ·) := by
    rw [List.zipIdx_map_snd]
    exact List.pairwise_lt_range'
  exact List.pairwise_map.1 numbers

theorem pairwise_addresses (formula : Formula) : formula.addresses.Pairwise (· < ·) := by
  induction formula using induction_children with
  | node formula ih =>
    rw [addresses_eq, List.pairwise_cons, List.pairwise_flatMap]
    refine ⟨fun address below => ?_, fun numbered member => ?_, ?_⟩
    · -- The root stands before all that is below it.
      obtain ⟨numbered, _, stands⟩ := List.mem_flatMap.1 below
      obtain ⟨way, _, rfl⟩ := List.mem_map.1 stands
      exact List.nil_lt_cons _ _
    · have child := List.mem_of_getElem? (List.mem_zipIdx_iff_getElem?.1 member)
      refine List.pairwise_map.2 ((ih _ child).imp fun before => ?_)
      exact List.cons_lt_cons_iff.2 (.inr ⟨rfl, before⟩)
    · refine (pairwise_zipIdx formula.children).imp fun before first below second after => ?_
      obtain ⟨_, _, rfl⟩ := List.mem_map.1 below
      obtain ⟨_, _, rfl⟩ := List.mem_map.1 after
      exact List.cons_lt_cons_iff.2 (.inl before)

theorem nil_mem_addresses (formula : Formula) : [] ∈ formula.addresses := by
  rw [addresses_eq]
  exact List.mem_cons_self

theorem cons_mem_addresses_iff {formula : Formula} {index : Nat} {way : List Nat} :
    index :: way ∈ formula.addresses ↔
      ∃ child, formula.children[index]? = some child ∧ way ∈ child.addresses := by
  rw [addresses_eq]
  simp [List.mem_zipIdx_iff_getElem?, Prod.exists]

theorem mem_addresses_iff {formula : Formula} {address : List Nat} :
    address ∈ formula.addresses ↔ (formula.at? address).isSome := by
  induction address generalizing formula with
  | nil => simp [nil_mem_addresses, at?]
  | cons index way ih =>
    rw [cons_mem_addresses_iff, at?]
    cases formula.children[index]? with
    | none => simp
    | some child => simp [ih]

theorem walk_eq_addresses (formula : Formula) :
    formula.walk.map some = formula.addresses.map formula.at? := by
  induction formula using induction_children with
  | node formula ih =>
    have onChild {numbered : Formula × Nat} (member : numbered ∈ formula.children.zipIdx) :
        numbered.1.walk.map some =
          (numbered.1.addresses.map (numbered.2 :: ·)).map formula.at? := by
      have found := List.mem_zipIdx_iff_getElem?.1 member
      rw [ih _ (List.mem_of_getElem? found), List.map_map]
      refine List.map_congr_left fun way _ => ?_
      rw [Function.comp_apply, at?, found, Option.bind_some]
    have unnumbered :=
      List.flatMap_map Prod.fst (fun child => child.walk.map some) formula.children.zipIdx
    rw [List.zipIdx_map_fst] at unnumbered
    calc formula.walk.map some
        = some formula :: formula.children.flatMap fun child => child.walk.map some := by
          rw [walk_eq, List.map_cons, List.map_flatMap]
      _ = some formula :: formula.children.zipIdx.flatMap fun numbered =>
            numbered.1.walk.map some := by
          rw [unnumbered]
      _ = some formula :: formula.children.zipIdx.flatMap fun numbered =>
            (numbered.1.addresses.map (numbered.2 :: ·)).map formula.at? := by
          rw [List.flatMap_congr fun numbered => onChild]
      _ = formula.addresses.map formula.at? := by
          rw [addresses_eq, List.map_cons, List.map_flatMap, at?]

/-- **The walk is in preorder.** -/
theorem inPreorder_walk (formula : Formula) : InPreorder formula formula.addresses formula.walk :=
  ⟨pairwise_addresses formula, fun _ => mem_addresses_iff, walk_eq_addresses formula⟩

/-! ### The rounds of the walk -/

/-- A round of the walk: the first pending formula is listed, and its children take its place. -/
def visitRound : (pending : List Formula) → List Formula
  | [] => []
  | node :: pending => node.children ++ pending

/-- Each round lists the formula that is the first one pending then. -/
theorem getElem?_visit (pending : List Formula) (rounds : Nat) :
    (visit pending)[rounds]? = (visitRound^[rounds] pending).head? := by
  induction rounds generalizing pending with
  | zero =>
    cases pending with
    | nil => rw [visit]; rfl
    | cons node pending => rw [visit]; rfl
  | succ rounds ih =>
    rw [Function.iterate_succ_apply, ← ih]
    cases pending with
    | nil => simp [visitRound, visit]
    | cons node pending => simp [visitRound, visit]

theorem length_visit (pending : List Formula) : (visit pending).length = totalSize pending := by
  induction pending using visit.induct with
  | case1 => rw [visit]; rfl
  | case2 node pending ih =>
    rw [visit, List.length_cons, ih, totalSize_append, totalSize_cons, size_eq_totalSize_children]
    omega

/-- Nothing is pending any more when as many rounds are over as the formula has nodes. -/
theorem iterate_visitRound_eq_nil_iff (formula : Formula) (rounds : Nat) :
    visitRound^[rounds] [formula] = [] ↔ formula.size ≤ rounds := by
  rw [← List.head?_eq_none_iff, ← getElem?_visit, List.getElem?_eq_none_iff, length_visit]
  simp [totalSize]

/-! ### The rounds of the search for the depth -/

/-- A round of the search for the greatest level: the level of the first pending formula is taken
into account, and its children are put before the others, in the order that `arrange` gives them. -/
def deepenRound (arrange : List Formula → List Formula) :
    List (Formula × Nat) × Nat → List (Formula × Nat) × Nat
  | ([], best) => ([], best)
  | ((node, level) :: pending, best) =>
    ((arrange node.children).map (fun child => (child, level + 1)) ++ pending, max best level)

theorem deepest_perm {pending others : List (Formula × Nat)} (same : pending.Perm others)
    (best : Nat) : deepest pending best = deepest others best := by
  -- Each pending formula raises the greatest level to its own, and that can be done in any order.
  have first (formula : Formula × Nat) (pending : List (Formula × Nat)) (best : Nat) :
      deepest (formula :: pending) best =
        deepest pending (max best (formula.2 + formula.1.depth - 1)) := by
    rw [← deepest_singleton, ← deepest_append, List.singleton_append]
  induction same generalizing best with
  | nil => rfl
  | cons formula _ ih => rw [first, first, ih]
  | swap formula other pending => rw [first, first, first, first, Nat.max_right_comm]
  | trans _ _ ih ih' => rw [ih, ih']

theorem totalSize_perm {formulas others : List Formula} (same : formulas.Perm others) :
    totalSize formulas = totalSize others := by
  induction same with
  | nil => rfl
  | cons formula _ ih => rw [totalSize_cons, totalSize_cons, ih]
  | swap formula other formulas => simp only [totalSize_cons, Nat.add_left_comm]
  | trans _ _ ih ih' => rw [ih, ih']

/-- What is left to be searched. -/
def toSearch (state : List (Formula × Nat) × Nat) : Nat :=
  totalSize (state.1.map Prod.fst)

variable {arrange : List Formula → List Formula}

/-- A round does not change what the search will find. -/
theorem deepest_deepenRound (arranges : ∀ formulas, (arrange formulas).Perm formulas)
    (state : List (Formula × Nat) × Nat) :
    deepest (deepenRound arrange state).1 (deepenRound arrange state).2 =
      deepest state.1 state.2 := by
  obtain ⟨_ | ⟨⟨node, level⟩, pending⟩, best⟩ := state
  · rfl
  · have same := (arranges node.children).trans (List.reverse_perm node.children).symm
    rw [deepenRound, deepest_perm ((same.map _).append_right pending), deepest]

/-- A round takes one node off what is left to be searched. -/
theorem toSearch_deepenRound (arranges : ∀ formulas, (arrange formulas).Perm formulas)
    (state : List (Formula × Nat) × Nat) :
    toSearch (deepenRound arrange state) = toSearch state - 1 := by
  obtain ⟨_ | ⟨⟨node, level⟩, pending⟩, best⟩ := state
  · rfl
  · simp only [toSearch, deepenRound, List.map_append, List.map_map, Function.comp_def,
      List.map_id', List.map_cons, totalSize_append, totalSize_cons,
      totalSize_perm (arranges node.children), size_eq_totalSize_children node]
    omega

theorem deepest_iterate (arranges : ∀ formulas, (arrange formulas).Perm formulas) (rounds : Nat)
    (state : List (Formula × Nat) × Nat) :
    deepest ((deepenRound arrange)^[rounds] state).1 ((deepenRound arrange)^[rounds] state).2 =
      deepest state.1 state.2 := by
  induction rounds with
  | zero => rfl
  | succ rounds ih => rw [Function.iterate_succ_apply', deepest_deepenRound arranges, ih]

theorem toSearch_iterate (arranges : ∀ formulas, (arrange formulas).Perm formulas) (rounds : Nat)
    (state : List (Formula × Nat) × Nat) :
    toSearch ((deepenRound arrange)^[rounds] state) = toSearch state - rounds := by
  induction rounds with
  | zero => rfl
  | succ rounds ih =>
    rw [Function.iterate_succ_apply', toSearch_deepenRound arranges, ih, Nat.sub_sub]

/-- **The search ends with the depth**, after as many rounds as the formula has nodes. -/
theorem iterate_deepenRound (arranges : ∀ formulas, (arrange formulas).Perm formulas)
    (formula : Formula) :
    (deepenRound arrange)^[formula.size] ([(formula, 1)], 0) = ([], formula.depth) := by
  have found := deepest_iterate arranges formula.size ([(formula, 1)], 0)
  have left := toSearch_iterate arranges formula.size ([(formula, 1)], 0)
  generalize (deepenRound arrange)^[formula.size] ([(formula, 1)], 0) = ended at found left ⊢
  obtain ⟨_ | ⟨⟨node, level⟩, pending⟩, best⟩ := ended
  · have best_eq : best = formula.depth := by rwa [deepest] at found
    rw [best_eq]
  · -- A pending formula would have a node that is left to be searched.
    simp only [toSearch, List.map_cons, List.map_nil, totalSize, size_eq_totalSize_children node]
      at left
    omega

theorem depth_eq_children (formula : Formula) :
    formula.depth = 1 + (formula.children.map depth).foldr max 0 := by
  cases formula <;> simp [children, Nat.max_assoc]

/-! ### The traversals -/

/-- **The traversals say what the tree says.** The walk comes to every node exactly once, each node
before those below it and those from left to right: it is the node followed by the walks of its
children. It takes as many rounds as there are nodes, and a node is listed in each. The depth is one
more than the greatest depth of a child, and one without children. The search for it ends with it
after as many rounds as there are nodes, in whatever order children are put before the other
formulas. The identifiers are the names met by the walk without all their occurrences but the
first. -/
theorem traversals_follow_tree (formula : Formula) :
    (InPreorder formula formula.addresses formula.walk ∧
      formula.walk = formula :: formula.children.flatMap walk ∧
      (∀ rounds, formula.walk[rounds]? = (visitRound^[rounds] [formula]).head?) ∧
      ∀ rounds, visitRound^[rounds] [formula] = [] ↔ formula.size ≤ rounds) ∧
    (formula.depth = 1 + (formula.children.map depth).foldr max 0 ∧
      ∀ arrange : List Formula → List Formula, (∀ formulas, (arrange formulas).Perm formulas) →
        (deepenRound arrange)^[formula.size] ([(formula, 1)], 0) = ([], formula.depth)) ∧
    FirstAppearances (formula.walk.filterMap identifier?) formula.identifiers :=
  ⟨⟨inPreorder_walk formula, walk_eq formula, getElem?_visit [formula],
      iterate_visitRound_eq_nil_iff formula⟩,
    ⟨depth_eq_children formula, fun _ arranges => iterate_deepenRound arranges formula⟩,
    firstAppearances_eraseDups _⟩

/-- The name stands at two addresses and is met twice, but it is one identifier. The search may go
from right to left. -/
theorem traversals_follow_tree_repeated :
    let formula : Formula := .binary .add (.identifier "a") (.unary .negate (.identifier "a"))
    InPreorder formula [[], [0], [1], [1, 0]]
        [formula, .identifier "a", .unary .negate (.identifier "a"), .identifier "a"] ∧
      visitRound^[3] [formula] ≠ [] ∧ visitRound^[4] [formula] = [] ∧
      (deepenRound List.reverse)^[4] ([(formula, 1)], 0) = ([], 3) ∧
      FirstAppearances ["a", "a"] formula.identifiers := by
  intro formula
  obtain ⟨⟨preorder, _, _, ends⟩, ⟨_, searched⟩, names⟩ := traversals_follow_tree formula
  have walked : formula.walk =
      [formula, .identifier "a", .unary .negate (.identifier "a"), .identifier "a"] := by
    simp [formula]
  have deep : formula.depth = 3 := by simp [formula]
  rw [walked] at preorder names
  have found := searched List.reverse fun formulas => List.reverse_perm formulas
  rw [deep] at found
  exact ⟨preorder, fun finished => absurd ((ends 3).1 finished) (by decide),
    (ends 4).2 (by decide), found, names⟩

end FieldFormula.Formula
