import FieldFormula.PreparedFormula
import FieldFormula.Proofs.FirstAppearances
import FieldFormula.Proofs.Grammar.Acceptance

/-!
# What a formula keeps of its tokens

The nodes of a formula that was read and the tokens of its text correspond. Every token belongs to
one node, but for the parentheses and the end of the input, and every node has a token. The walk
through the formula meets an operator before its operands and so before the token of the left one.
But the operands are walked through from left to right, so the constants and names are met in the
order of their tokens. Both facts are proved by induction on the derivation of the tokens.

## Main result

`accountsFor_of_parse`: nothing of a text is lost, doubled or put in another place when it is read,
and the names of a prepared formula are those of its text in the order in which they first appear.
-/

namespace FieldFormula

namespace Token.Kind

/-- The token marks where a formula begins or ends. It belongs to no node. -/
def isDelimiter : Token.Kind → Bool
  | .openParen | .closeParen | .endOfInput => true
  | _ => false

def isOperator : Token.Kind → Bool
  | .operator _ => true
  | _ => false

def name? : Token.Kind → Option String
  | .identifier name => some name
  | _ => none

end Token.Kind

namespace Formula

/-- The formula is a constant or a name. -/
def isLeaf : Formula → Bool
  | .literal _ | .identifier _ => true
  | _ => false

/-- The formula applies an operator. -/
def isOperation : Formula → Bool
  | .unary .. | .binary .. | .logical .. => true
  | _ => false

/-- The formula chooses between two others. -/
def isChoice : Formula → Bool
  | .conditional .. => true
  | _ => false

/-- The tokens that belong to the root of the formula. -/
def ownKinds : Formula → List Token.Kind
  | .literal value => [value.tokenKind]
  | .identifier name => [.identifier name]
  | .unary op _ => [.operator op.symbol]
  | .binary op _ _ => [.operator op.symbol]
  | .logical op _ _ => [.operator op.symbol]
  | .conditional .. => [.question, .colon]

/-- The leaves are those of the tokens, in the same order, and every token that is no delimiter
belongs to one node. -/
structure AccountsFor (formula : Formula) (kinds : List Token.Kind) : Prop where
  leaves : formula.walk.filter isLeaf = kinds.filterMap Phrase.leaf?
  owners : (formula.walk.flatMap ownKinds).Perm (kinds.filter fun kind => !kind.isDelimiter)

theorem ownKinds_ofInfix (op : InfixOp) (left right : Formula) :
    (ofInfix op left right).ownKinds = [.operator op.symbol] := by
  cases op <;> rfl

theorem isLeaf_ofInfix (op : InfixOp) (left right : Formula) :
    (ofInfix op left right).isLeaf = false := by
  cases op <;> rfl

end Formula

/-! ### The nodes of a derivation -/

namespace Derivation

/-- **The leaves stand in the order of their tokens.** -/
theorem leaves_walk (tree : Derivation) :
    tree.formula.walk.filter Formula.isLeaf = tree.kinds.filterMap Phrase.leaf? := by
  induction tree with
  | constant value =>
    cases value <;> simp [formula, kinds, Formula.isLeaf, Literal.tokenKind, Phrase.leaf?]
  | identifier name => simp [formula, kinds, Formula.isLeaf, Phrase.leaf?]
  | group inner ih => simpa [formula, kinds, List.filterMap_cons, Phrase.leaf?] using ih
  | prefixed op operand ih =>
    simpa [formula, kinds, Formula.isLeaf, List.filterMap_cons, Phrase.leaf?] using ih
  | infixed op left right before behind =>
    simp [formula, kinds, Formula.walk_ofInfix, Formula.isLeaf_ofInfix, List.filterMap_cons,
      Phrase.leaf?, before, behind]
  | choice test consequent alternate tested chosen otherwise =>
    simp [formula, kinds, Formula.isLeaf, List.filterMap_cons, Phrase.leaf?, tested, chosen,
      otherwise]

/-- **Every token belongs to one node,** but for the parentheses. -/
theorem ownKinds_walk (tree : Derivation) :
    (tree.formula.walk.flatMap Formula.ownKinds).Perm
      (tree.kinds.filter fun kind => !kind.isDelimiter) := by
  induction tree with
  | constant value =>
    cases value <;>
      simp [formula, kinds, Formula.ownKinds, Literal.tokenKind, Token.Kind.isDelimiter]
  | identifier name => simp [formula, kinds, Formula.ownKinds, Token.Kind.isDelimiter]
  | group inner ih => simpa [formula, kinds, Token.Kind.isDelimiter] using ih
  | prefixed op operand ih =>
    simpa [formula, kinds, Formula.ownKinds, Token.Kind.isDelimiter] using ih
  | infixed op left right before behind =>
    -- The operator is met in front of its left operand and spelled behind it.
    simp only [formula, Formula.walk_ofInfix, List.flatMap_cons, Formula.ownKinds_ofInfix,
      List.flatMap_append, List.singleton_append, kinds, List.filter_append, List.filter_cons,
      Token.Kind.isDelimiter, Bool.not_false, if_true]
    exact List.perm_middle.symm.trans (before.append (behind.cons _))
  | choice test consequent alternate tested chosen otherwise =>
    simp only [formula, Formula.walk_conditional, List.flatMap_cons, Formula.ownKinds,
      List.flatMap_append, List.cons_append, List.nil_append, kinds, List.filter_append,
      List.filter_cons, Token.Kind.isDelimiter, Bool.not_false, if_true, List.append_assoc]
    have colon_behind (first second third : List Token.Kind) :
        (.colon :: (first ++ (second ++ third))).Perm (first ++ (second ++ .colon :: third)) := by
      rw [← List.append_assoc, ← List.append_assoc]
      exact List.perm_middle.symm
    exact ((colon_behind _ _ _).cons _).trans
      (List.perm_middle.symm.trans (tested.append ((chosen.append (otherwise.cons _)).cons _)))

end Derivation

/-! ### The nodes of a formula that was read -/

namespace Formula

theorem accountsFor_of_isOf {tree : Derivation} {tokens : List Token} (derived : tree.IsOf tokens) :
    tree.formula.AccountsFor (tokens.map Token.kind) := by
  constructor
  · rw [← derived.spelled, List.filterMap_append, tree.leaves_walk]
    exact (List.append_nil _).symm
  · rw [← derived.spelled, List.filter_append]
    simpa [Token.Kind.isDelimiter] using tree.ownKinds_walk

namespace AccountsFor

variable {formula : Formula} {kinds : List Token.Kind}

theorem ownKinds_subset (accounts : formula.AccountsFor kinds) {node : Formula}
    (occurs : node ∈ formula.walk) : node.ownKinds ⊆ kinds := by
  intro kind own
  have owned := List.mem_flatMap.2 ⟨node, occurs, own⟩
  exact List.mem_of_mem_filter (accounts.owners.mem_iff.1 owned)

/-- There are as many nodes of a sort as tokens of a sort if such a node owns one such token. -/
theorem countP_walk (accounts : formula.AccountsFor kinds) {node : Formula → Bool}
    {kind : Token.Kind → Bool}
    (owns : ∀ f : Formula, f.ownKinds.countP kind = (node f).toNat)
    (owned : ∀ k, kind k = true → k.isDelimiter = false) :
    formula.walk.countP node = kinds.countP kind := by
  have counted (nodes : List Formula) :
      (nodes.flatMap ownKinds).countP kind = nodes.countP node := by
    induction nodes with
    | nil => rfl
    | cons first others ih =>
      rw [List.flatMap_cons, List.countP_append, owns, ih, List.countP_cons, Nat.add_comm]
      cases node first <;> rfl
  rw [← counted, accounts.owners.countP_eq, List.countP_filter]
  refine List.countP_congr fun k _ => ?_
  simpa using owned k

theorem operations (accounts : formula.AccountsFor kinds) :
    formula.walk.countP isOperation = kinds.countP Token.Kind.isOperator := by
  refine accounts.countP_walk (fun f => ?_) fun kind operator => ?_
  · cases f with
    | literal value => cases value <;> rfl
    | _ => rfl
  · cases kind with
    | operator symbol => rfl
    | _ => cases operator

theorem choices (accounts : formula.AccountsFor kinds) {mark : Token.Kind}
    (marks : mark = .question ∨ mark = .colon) :
    formula.walk.countP isChoice = kinds.count mark := by
  refine accounts.countP_walk (fun f => ?_) fun kind same => ?_
  · rcases marks with rfl | rfl
    all_goals
      cases f with
      | literal value => cases value <;> rfl
      | _ => rfl
  · rw [eq_of_beq same]
    rcases marks with rfl | rfl <;> rfl

/-- The names are met in the order of their tokens. -/
theorem names (accounts : formula.AccountsFor kinds) :
    formula.walk.filterMap identifier? = kinds.filterMap Token.Kind.name? := by
  have named_leaf (node : Formula) :
      identifier? node = if node.isLeaf then identifier? node else none := by
    cases node <;> rfl
  have leaf_of_name (kind : Token.Kind) : (Phrase.leaf? kind).bind identifier? = kind.name? := by
    cases kind <;> rfl
  calc formula.walk.filterMap identifier?
      = (formula.walk.filter isLeaf).filterMap identifier? := by
        rw [List.filterMap_filter, ← funext named_leaf]
    _ = (kinds.filterMap Phrase.leaf?).filterMap identifier? := by rw [accounts.leaves]
    _ = kinds.filterMap Token.Kind.name? := by
        rw [List.filterMap_filterMap, funext leaf_of_name]

/-- The names of the formula stand in the order in which they first appear among the tokens. -/
theorem firstAppearances (accounts : formula.AccountsFor kinds) :
    FirstAppearances (kinds.filterMap Token.Kind.name?) formula.identifiers := by
  rw [identifiers, accounts.names]
  exact firstAppearances_eraseDups _

/-- So do those of the names that are kept, among each other. -/
theorem firstAppearances_filter (accounts : formula.AccountsFor kinds) (keeps : String → Bool) :
    FirstAppearances ((kinds.filterMap Token.Kind.name?).filter keeps)
      (formula.identifiers.filter keeps) := by
  rw [identifiers, accounts.names, filter_eraseDups]
  exact firstAppearances_eraseDups _

end AccountsFor

theorem AcceptedAs.accountsFor {limits : Limits} {text : List Char} {formula : Formula}
    {tokens : List Token} (accepted : AcceptedAs limits text formula tokens) :
    formula.AccountsFor (tokens.map Token.kind) := by
  obtain ⟨_, scans, _⟩ := Token.scan_eq_ok_iff.1 accepted.scanned
  obtain ⟨tree, derived, rfl⟩ := derived_of_ofTokens scans accepted.read
  exact accountsFor_of_isOf derived

/-- **Reading loses, doubles and reorders nothing.** Walked through from its root, a formula that
was read has the constants and names of its text, in the order of the text. Every other token that
is no delimiter belongs to one node as well: there are as many operations as operators, and as many
choices as question marks and as colons. The names of the prepared formula are the names in the
text, each once and in the order in which they first appear. -/
theorem accountsFor_of_parse {limits : Limits} {source : String} {formula : Formula}
    (read : parse limits source = .ok formula) :
    ∃ tokens, Token.scan limits source.toList = .ok tokens ∧
      formula.walk.filter isLeaf = (tokens.map Token.kind).filterMap Phrase.leaf? ∧
      (formula.walk.flatMap ownKinds).Perm
        ((tokens.map Token.kind).filter fun kind => !kind.isDelimiter) ∧
      formula.walk.countP isOperation = (tokens.map Token.kind).countP Token.Kind.isOperator ∧
      formula.walk.countP isChoice = (tokens.map Token.kind).count .question ∧
      formula.walk.countP isChoice = (tokens.map Token.kind).count .colon ∧
      ∃ prepared, (prepare limits source).value = .ok prepared ∧
        FirstAppearances ((tokens.map Token.kind).filterMap Token.Kind.name?)
          prepared.identifiers := by
  obtain ⟨tokens, accepted⟩ := ofChars_eq_ok_iff.1 read
  have accounts := accepted.accountsFor
  have prepared : (prepare limits source).value = .ok ⟨source, formula, limits⟩ := by
    calc (prepare limits source).value
        = (parseLogged limits source).value.map fun formula => ⟨source, formula, limits⟩ := rfl
      _ = .ok ⟨source, formula, limits⟩ := by rw [value_parseLogged, read]; rfl
  exact ⟨tokens, accepted.scanned, accounts.leaves, accounts.owners, accounts.operations,
    accounts.choices (.inl rfl), accounts.choices (.inr rfl), _, prepared,
    accounts.firstAppearances⟩

/-- A name on both sides of another one, and parentheses around a part of a branch. -/
theorem accountsFor_of_parse_branches :
    ∃ formula, parse {} "b < 1 ? -(a + b) : c && 'a'" = .ok formula ∧
      formula.identifiers = ["b", "a", "c"] ∧
      ∃ tokens, Token.scan {} "b < 1 ? -(a + b) : c && 'a'".toList = .ok tokens ∧
        formula.walk.filter isLeaf = (tokens.map Token.kind).filterMap Phrase.leaf? ∧
        formula.walk.countP isOperation = (tokens.map Token.kind).countP Token.Kind.isOperator := by
  have read : parse {} "b < 1 ? -(a + b) : c && 'a'" = .ok (.conditional
      (.binary .less (.identifier "b") (.literal (.number (.round false Binary64.unitsInOne 1))))
      (.unary .negate (.binary .add (.identifier "a") (.identifier "b")))
      (.logical .and (.identifier "c") (.literal (.text "a")))) := by
    decide +kernel
  obtain ⟨tokens, scanned, leaves, _, operations, _⟩ := accountsFor_of_parse read
  refine ⟨_, read, ?_, tokens, scanned, leaves, operations⟩
  simp [identifiers, identifier?, List.filterMap_cons, List.eraseDups_cons]

end Formula

end FieldFormula
