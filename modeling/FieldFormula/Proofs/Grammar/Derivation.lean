import FieldFormula.Proofs.Grammar.Reading

/-!
# The grammar

The grammar of formulas in stratified form, with one level for each binding strength:

    E   :=  L1  |  L1 ? E : E
    Lk  :=  Lk op L(k+1)  |  L(k+1)      for k = 1 .. 6, with the infix operators of strength k
    L7  :=  op L7  |  P                  with the prefix operators
    P   :=  number  |  text  |  boolean  |  name  |  ( E )

A `Derivation` is a tree of this grammar in which the unit steps are not written down. It knows the
tokens that it spells and the formula that it stands for, in which the parentheses are gone.
`Derives` says of which nonterminal it is a tree.
-/

namespace FieldFormula

inductive Nonterminal where
  | expression
  | level (precedence : Nat)
  | primary

/-- A tree of the grammar. -/
inductive Derivation where
  | constant (value : Literal)
  | identifier (name : String)
  | group (inner : Derivation)
  | prefixed (op : PrefixOp) (operand : Derivation)
  | infixed (op : InfixOp) (left right : Derivation)
  | choice (test consequent alternate : Derivation)

def Literal.tokenKind : Literal → Token.Kind
  | .number value => .number value
  | .text value => .text value
  | .boolean value => .boolean value

namespace Derivation

/-- The tokens that the tree spells, from left to right. -/
def kinds : Derivation → List Token.Kind
  | .constant value => [value.tokenKind]
  | .identifier name => [.identifier name]
  | .group inner => .openParen :: inner.kinds ++ [.closeParen]
  | .prefixed op operand => .operator op.symbol :: operand.kinds
  | .infixed op left right => left.kinds ++ .operator op.symbol :: right.kinds
  | .choice test consequent alternate =>
    test.kinds ++ .question :: consequent.kinds ++ .colon :: alternate.kinds

/-- The formula that the tree stands for. -/
def formula : Derivation → Formula
  | .constant value => .literal value
  | .identifier name => .identifier name
  | .group inner => inner.formula
  | .prefixed op operand => .unary op operand.formula
  | .infixed op left right => .ofInfix op left.formula right.formula
  | .choice test consequent alternate =>
    .conditional test.formula consequent.formula alternate.formula

/-- How deeply the reader nests on the tree. A chain nests on its right operands only, and a choice
does not nest on its test. -/
def nesting : Derivation → Nat
  | .constant _ => 0
  | .identifier _ => 0
  | .group inner => 1 + inner.nesting
  | .prefixed _ operand => 1 + operand.nesting
  | .infixed _ left right => max left.nesting (1 + right.nesting)
  | .choice test consequent alternate =>
    max test.nesting (max (1 + consequent.nesting) (1 + alternate.nesting))

end Derivation

/-- The tree is one of the nonterminal. -/
inductive Derives : Nonterminal → Derivation → Prop
  | operation {tree} (whole : Derives (.level 1) tree) : Derives .expression tree
  | choice {test consequent alternate} (tested : Derives (.level 1) test)
    (chosen : Derives .expression consequent) (otherwise : Derives .expression alternate) :
    Derives .expression (.choice test consequent alternate)
  | infixed {precedence op left right} (listed : ⟨op.symbol, op, precedence⟩ ∈ infixTable)
    (before : Derives (.level precedence) left) (behind : Derives (.level (precedence + 1)) right) :
    Derives (.level precedence) (.infixed op left right)
  | tighter {precedence tree} (positive : 1 ≤ precedence) (loose : precedence < prefixPrecedence)
    (whole : Derives (.level (precedence + 1)) tree) : Derives (.level precedence) tree
  | prefixed {op operand} (listed : ⟨op.symbol, op, prefixPrecedence⟩ ∈ prefixTable)
    (behind : Derives (.level prefixPrecedence) operand) :
    Derives (.level prefixPrecedence) (.prefixed op operand)
  | primary {tree} (whole : Derives .primary tree) : Derives (.level prefixPrecedence) tree
  | constant (value : Literal) : Derives .primary (.constant value)
  | identifier (name : String) : Derives .primary (.identifier name)
  | group {inner} (inside : Derives .expression inner) : Derives .primary (.group inner)

/-- A tree of a tighter level is one of every looser level. -/
theorem Derives.loosen {strong weak : Nat} {tree : Derivation}
    (derives : Derives (.level strong) tree) (positive : 1 ≤ weak) (looser : weak ≤ strong)
    (bounded : strong ≤ prefixPrecedence) : Derives (.level weak) tree := by
  induction looser with
  | refl => exact derives
  | step between ih =>
    exact ih (.tighter (Nat.le_trans positive between) bounded derives) (Nat.le_of_succ_le bounded)

/-! ### The tokens of a tree -/

namespace Derivation

variable {tokens : List Token}

theorem tokens_of_leaf {kind : Token.Kind} (spelled : tokens.map Token.kind = [kind]) :
    ∃ token, tokens = [token] ∧ token.kind = kind := by
  obtain ⟨token, others, rfl, same, empty⟩ := List.map_eq_cons_iff.1 spelled
  rw [List.map_eq_nil_iff.1 empty]
  exact ⟨token, rfl, same⟩

theorem tokens_of_group {inner : Derivation}
    (spelled : tokens.map Token.kind = (group inner).kinds) :
    ∃ opening between closing, tokens = opening :: (between ++ [closing]) ∧
      opening.kind = .openParen ∧ between.map Token.kind = inner.kinds ∧
      closing.kind = .closeParen := by
  obtain ⟨opening, others, rfl, opened, spelledOthers⟩ := List.map_eq_cons_iff.1 spelled
  obtain ⟨between, ending, rfl, spelledInner, spelledEnding⟩ :=
    List.map_eq_append_iff.1 spelledOthers
  obtain ⟨closing, rfl, closed⟩ := tokens_of_leaf spelledEnding
  exact ⟨opening, between, closing, rfl, opened, spelledInner, closed⟩

theorem tokens_of_prefixed {op : PrefixOp} {operand : Derivation}
    (spelled : tokens.map Token.kind = (prefixed op operand).kinds) :
    ∃ operator others, tokens = operator :: others ∧ operator.kind = .operator op.symbol ∧
      others.map Token.kind = operand.kinds :=
  List.map_eq_cons_iff.1 spelled

theorem tokens_of_infixed {op : InfixOp} {left right : Derivation}
    (spelled : tokens.map Token.kind = (infixed op left right).kinds) :
    ∃ first operator second, tokens = first ++ operator :: second ∧
      first.map Token.kind = left.kinds ∧ operator.kind = .operator op.symbol ∧
      second.map Token.kind = right.kinds := by
  obtain ⟨first, others, rfl, spelledLeft, spelledOthers⟩ := List.map_eq_append_iff.1 spelled
  obtain ⟨operator, second, rfl, kind, spelledRight⟩ := List.map_eq_cons_iff.1 spelledOthers
  exact ⟨first, operator, second, rfl, spelledLeft, kind, spelledRight⟩

theorem tokens_of_choice {test consequent alternate : Derivation}
    (spelled : tokens.map Token.kind = (choice test consequent alternate).kinds) :
    ∃ first question second colon third,
      tokens = first ++ question :: (second ++ colon :: third) ∧
      first.map Token.kind = test.kinds ∧ question.kind = .question ∧
      second.map Token.kind = consequent.kinds ∧ colon.kind = .colon ∧
      third.map Token.kind = alternate.kinds := by
  -- The tokens of the test and the consequent are spelled together, in front of the colon.
  obtain ⟨begun, others, rfl, spelledBegun, spelledOthers⟩ := List.map_eq_append_iff.1 spelled
  obtain ⟨colon, third, rfl, divided, spelledAlternate⟩ := List.map_eq_cons_iff.1 spelledOthers
  obtain ⟨first, branch, rfl, spelledTest, spelledBranch⟩ := List.map_eq_append_iff.1 spelledBegun
  obtain ⟨question, second, rfl, asked, spelledConsequent⟩ := List.map_eq_cons_iff.1 spelledBranch
  exact ⟨first, question, second, colon, third, by simp, spelledTest, asked, spelledConsequent,
    divided, spelledAlternate⟩

end Derivation

/-! ### Operators ahead -/

theorem prefixEntry_of_mem {entry : PrefixEntry} (listed : entry ∈ prefixTable) :
    entry = ⟨entry.op.symbol, entry.op, prefixPrecedence⟩ := by
  revert entry
  decide

theorem infixEntry_of_mem {entry : InfixEntry} (listed : entry ∈ infixTable) :
    entry = ⟨entry.op.symbol, entry.op, entry.precedence⟩ ∧ 1 ≤ entry.precedence := by
  revert entry
  decide

theorem infixOfSymbol?_of_mem {entry : InfixEntry} (listed : entry ∈ infixTable) :
    infixOfSymbol? entry.symbol = some entry := by
  revert entry
  decide

namespace Phrase

theorem mem_of_prefixAhead? {token : Token} {entry : PrefixEntry}
    (ahead : prefixAhead? token = some entry) :
    token.kind = .operator entry.op.symbol ∧
      ⟨entry.op.symbol, entry.op, prefixPrecedence⟩ ∈ prefixTable := by
  unfold prefixAhead? at ahead
  split at ahead
  next symbol kind =>
    have listed := List.mem_of_find?_eq_some ahead
    have same : entry.symbol = symbol := by simpa using List.find?_some ahead
    have form := prefixEntry_of_mem listed
    refine ⟨?_, form ▸ listed⟩
    rw [kind, ← same, form]
  next => cases ahead

theorem mem_of_infixAhead? {minPrecedence : Nat} {token : Token} {entry : InfixEntry}
    (ahead : infixAhead? minPrecedence token = some entry) :
    token.kind = .operator entry.op.symbol ∧
      ⟨entry.op.symbol, entry.op, entry.precedence⟩ ∈ infixTable ∧
        minPrecedence ≤ entry.precedence := by
  unfold infixAhead? at ahead
  split at ahead
  next symbol kind =>
    obtain ⟨found, tight⟩ := Option.filter_eq_some_iff.1 ahead
    have listed := List.mem_of_find?_eq_some found
    have same : entry.symbol = symbol := by simpa using List.find?_some found
    have form := (infixEntry_of_mem listed).1
    refine ⟨?_, form ▸ listed, by simpa using tight⟩
    rw [kind, ← same, form]
  next => cases ahead

theorem prefixAhead?_of_mem {token : Token} {op : PrefixOp}
    (kind : token.kind = .operator op.symbol) :
    prefixAhead? token = some ⟨op.symbol, op, prefixPrecedence⟩ := by
  rw [prefixAhead?, kind]
  exact prefixOfSymbol?_symbol op

theorem infixAhead?_of_mem {minPrecedence precedence : Nat} {token : Token} {op : InfixOp}
    (kind : token.kind = .operator op.symbol)
    (listed : ⟨op.symbol, op, precedence⟩ ∈ infixTable) :
    infixAhead? minPrecedence token =
      if minPrecedence ≤ precedence then some ⟨op.symbol, op, precedence⟩ else none := by
  rw [infixAhead?, kind]
  simp only [infixOfSymbol?_of_mem listed]
  by_cases tight : minPrecedence ≤ precedence <;> simp [Option.filter, tight]

/-- Where no operator is tight enough, none is tighter. -/
theorem infixAhead?_eq_none_of_le {weak strong : Nat} {token : Token} (tighter : weak ≤ strong)
    (none_ahead : infixAhead? weak token = none) : infixAhead? strong token = none := by
  cases ahead : infixAhead? strong token with
  | none => rfl
  | some entry =>
    obtain ⟨kind, listed, tight⟩ := mem_of_infixAhead? ahead
    rw [infixAhead?_of_mem kind listed, if_pos (Nat.le_trans tighter tight)] at none_ahead
    cases none_ahead

/-- No infix operator binds more tightly than the prefix operators. -/
theorem infixAhead?_of_prefixPrecedence_le {minPrecedence : Nat} {token : Token}
    (tight : prefixPrecedence ≤ minPrecedence) : infixAhead? minPrecedence token = none := by
  cases ahead : infixAhead? minPrecedence token with
  | none => rfl
  | some entry =>
    obtain ⟨_, listed, within⟩ := mem_of_infixAhead? ahead
    have loose := precedence_lt_prefixPrecedence listed
    exact absurd loose (Nat.not_lt_of_le (Nat.le_trans tight within))

theorem infixAhead?_of_noOperator {minPrecedence : Nat} {token : Token}
    (noOperator : ∀ symbol, token.kind ≠ .operator symbol) :
    infixAhead? minPrecedence token = none := by
  cases ahead : infixAhead? minPrecedence token with
  | none => rfl
  | some entry => exact absurd (mem_of_infixAhead? ahead).1 (noOperator _)

end Phrase

end FieldFormula
