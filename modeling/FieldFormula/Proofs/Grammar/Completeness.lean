import FieldFormula.Proofs.Grammar.Derivation
import FieldFormula.Proofs.Traversal

/-!
# What is derived is read

Tokens that a tree of the grammar spells are read as its formula, whatever tokens follow that cannot
belong to it, or the reading stops for the depth limit. The nesting of the tree decides: a reading
that comes to its end has stayed within the limit, and one that stops has met a tree that nests too
deeply or stands for a formula that is too deep.

An operation is not read by the levels of the grammar but operand by operand. So of a tree of a
level it is said that an operation which starts with its tokens goes on with the links behind them,
with the formula of the tree as the chain so far (`Extends`). This holds for every least precedence
that admits the level and passes from the left operand of an operator to the whole.
-/

namespace FieldFormula

/-- A reading of the tree that starts at the guard cannot stay within the limit. -/
def Derivation.TooDeep (maxDepth guard : Nat) (tree : Derivation) : Prop :=
  maxDepth < guard + tree.nesting ∨ maxDepth < tree.formula.depth

namespace Phrase

variable {maxDepth guard : Nat} {last : Token} {tree : Derivation} {tokens rest : List Token}

/-! ### What follows a phrase -/

/-- The token cannot belong to a phrase of the nonterminal that ends before it. -/
def MayFollow : Nonterminal → Token → Prop
  | .expression, token =>
    token.kind ≠ .openParen ∧ token.kind ≠ .question ∧ infixAhead? 0 token = none
  | .level precedence, token =>
    token.kind ≠ .openParen ∧ infixAhead? (precedence + 1) token = none
  | .primary, token => token.kind ≠ .openParen

theorem MayFollow.of_expression {token : Token} (precedence : Nat)
    (follows : MayFollow .expression token) : MayFollow (.level precedence) token :=
  ⟨follows.1, infixAhead?_eq_none_of_le (Nat.zero_le _) follows.2.2⟩

theorem MayFollow.tighter {token : Token} {weak strong : Nat} (tighter : weak ≤ strong)
    (follows : MayFollow (.level weak) token) : MayFollow (.level strong) token :=
  ⟨follows.1, infixAhead?_eq_none_of_le (Nat.succ_le_succ tighter) follows.2⟩

theorem mayFollow_expression {token : Token} (noCall : token.kind ≠ .openParen)
    (noQuestion : token.kind ≠ .question) (noOperator : ∀ symbol, token.kind ≠ .operator symbol) :
    MayFollow .expression token :=
  ⟨noCall, noQuestion, infixAhead?_of_noOperator noOperator⟩

/-! ### The invariant of a derivation -/

/-- The task stops at the cursor because of the depth limit. -/
def StopsForDepth (maxDepth : Nat) (task : Task) (cursor : Cursor) : Prop :=
  ∃ error after, Fails maxDepth task cursor error after ∧ error.kind = .limitExceeded

/-- The task reads the formula of the tree from the tokens, or they are too deep for it. -/
def Follows (maxDepth guard : Nat) (last : Token) (task : Task) (tree : Derivation)
    (tokens rest : List Token) : Prop :=
  (guard + tree.nesting ≤ maxDepth ∧
    Reads maxDepth task ⟨tokens ++ rest, last, guard⟩ tree.formula ⟨rest, last, guard⟩) ∨
  (tree.TooDeep maxDepth guard ∧ StopsForDepth maxDepth task ⟨tokens ++ rest, last, guard⟩)

/-- An operation reads the tokens as the beginning of a chain, or they are too deep for it. -/
def Extends (maxDepth guard : Nat) (last : Token) (minPrecedence : Nat) (tree : Derivation)
    (tokens rest : List Token) : Prop :=
  (guard + tree.nesting ≤ maxDepth ∧
    (∀ formula after,
      Reads maxDepth (.links minPrecedence (.ofOperand tree.formula)) ⟨rest, last, guard⟩ formula
        after →
        Reads maxDepth (.operation minPrecedence) ⟨tokens ++ rest, last, guard⟩ formula after) ∧
    ∀ error after,
      Fails maxDepth (.links minPrecedence (.ofOperand tree.formula)) ⟨rest, last, guard⟩ error
        after →
        Fails maxDepth (.operation minPrecedence) ⟨tokens ++ rest, last, guard⟩ error after) ∨
  (tree.TooDeep maxDepth guard ∧
    StopsForDepth maxDepth (.operation minPrecedence) ⟨tokens ++ rest, last, guard⟩)

/-- The tokens of the tree are read as a phrase of the nonterminal wherever they stand. -/
def Complete (maxDepth : Nat) (nonterminal : Nonterminal) (tree : Derivation) : Prop :=
  ∀ tokens rest last guard, guard ≤ maxDepth → tokens.map Token.kind = tree.kinds →
    MayFollow nonterminal (⟨rest, last, guard⟩ : Cursor).front →
    match nonterminal with
    | .expression => Follows maxDepth guard last .expression tree tokens rest
    | .level precedence =>
      (∀ minPrecedence ≤ precedence, Extends maxDepth guard last minPrecedence tree tokens rest) ∧
        (precedence = prefixPrecedence → Follows maxDepth guard last .unary tree tokens rest)
    | .primary => Follows maxDepth guard last .primary tree tokens rest

theorem Extends.follows {minPrecedence : Nat}
    (goesOn : Extends maxDepth guard last minPrecedence tree tokens rest)
    (ended : infixAhead? minPrecedence (⟨rest, last, guard⟩ : Cursor).front = none) :
    Follows maxDepth guard last (.operation minPrecedence) tree tokens rest := by
  rcases goesOn with ⟨fits, reads, _⟩ | tooDeep
  · exact .inl ⟨fits, reads _ _ (.chainEnds ended)⟩
  · exact .inr tooDeep

theorem Follows.startsChain (operand : Follows maxDepth guard last .unary tree tokens rest)
    (minPrecedence : Nat) : Extends maxDepth guard last minPrecedence tree tokens rest := by
  rcases operand with ⟨fits, reads⟩ | ⟨deep, error, after, fails, kind⟩
  · -- The links behind the operand go on with the chain that consists of it alone.
    exact .inl ⟨fits, fun _ _ links => .chain reads links, fun _ _ fails => .chain reads fails⟩
  · exact .inr ⟨deep, error, after, .first fails, kind⟩

theorem complete_of_unary
    (unary : ∀ tokens rest last guard, guard ≤ maxDepth → tokens.map Token.kind = tree.kinds →
      MayFollow (.level prefixPrecedence) (⟨rest, last, guard⟩ : Cursor).front →
      Follows maxDepth guard last .unary tree tokens rest) :
    Complete maxDepth (.level prefixPrecedence) tree := by
  intro tokens rest last guard within spelled follows
  have operand := unary tokens rest last guard within spelled follows
  exact ⟨fun minPrecedence _ => operand.startsChain minPrecedence, fun _ => operand⟩

/-! ### One lemma for each production -/

@[simp] theorem front_cons (token : Token) :
    (⟨token :: rest, last, guard⟩ : Cursor).front = token :=
  rfl

theorem advance_cons {token : Token} (present : token.kind ≠ .endOfInput) :
    (⟨token :: rest, last, guard⟩ : Cursor).advance = ⟨rest, last, guard⟩ := by
  simp [Cursor.advance, present]

theorem complete_leaf {kind : Token.Kind} (spelled : tree.kinds = [kind])
    (flat : tree.nesting = 0) (stands : leaf? kind = some tree.formula) :
    Complete maxDepth .primary tree := by
  intro tokens rest last guard within same noCall
  obtain ⟨token, rfl, rfl⟩ := Derivation.tokens_of_leaf (same.trans spelled)
  have read : Reads maxDepth .operand ⟨token :: rest, last, guard⟩ tree.formula _ := .leaf stands
  rw [advance_cons (endOfInput_of_leaf? stands)] at read
  exact .inl ⟨by simpa [flat] using within, .uncalled read noCall⟩

theorem complete_group {inner : Derivation} (inside : Complete maxDepth .expression inner) :
    Complete maxDepth .primary (.group inner) := by
  intro tokens rest last guard within spelled noCall
  obtain ⟨opening, between, closing, rfl, opened, spelledInner, closed⟩ :=
    Derivation.tokens_of_group spelled
  have entered : (⟨opening :: (between ++ [closing]) ++ rest, last, guard⟩ : Cursor).advance.enter =
      ⟨between ++ closing :: rest, last, guard + 1⟩ := by
    rw [List.cons_append, advance_cons (by simp [opened])]
    simp [Cursor.enter]
  by_cases room : guard < maxDepth
  · have ends : MayFollow .expression closing :=
      mayFollow_expression (by simp [closed]) (by simp [closed]) (by simp [closed])
    rcases inside between (closing :: rest) last (guard + 1) room spelledInner ends with
      ⟨fits, reads⟩ | ⟨deep, error, after, fails, limit⟩
    · rw [← entered] at reads
      have read : Reads maxDepth .operand ⟨opening :: (between ++ [closing]) ++ rest, last, guard⟩
          inner.formula _ := .group opened room reads closed
      rw [advance_cons (by simp [closed])] at read
      exact .inl ⟨by simpa [Derivation.nesting, Nat.add_assoc] using fits, .uncalled read noCall⟩
    · rw [← entered] at fails
      refine .inr ⟨?_, error, after, .operand (.inner opened room fails), limit⟩
      simpa [Derivation.TooDeep, Derivation.nesting, Derivation.formula, Nat.add_assoc] using deep
  · -- The parenthesis itself is one level too many.
    refine .inr ⟨.inl ?_, _, _, .operand (.groupTooDeep opened (Nat.le_of_not_lt room)), rfl⟩
    simp only [Derivation.nesting]
    omega

theorem complete_primary (primary : Complete maxDepth .primary tree)
    (noOperator : ∀ tokens rest last guard, tokens.map Token.kind = tree.kinds →
      prefixAhead? (⟨tokens ++ rest, last, guard⟩ : Cursor).front = none) :
    Complete maxDepth (.level prefixPrecedence) tree := by
  refine complete_of_unary fun tokens rest last guard within spelled follows => ?_
  have unprefixed := noOperator tokens rest last guard spelled
  rcases primary tokens rest last guard within spelled follows.1 with
    ⟨fits, reads⟩ | ⟨deep, error, after, fails, limit⟩
  · exact .inl ⟨fits, .unprefixed unprefixed reads⟩
  · exact .inr ⟨deep, error, after, .unprefixed unprefixed fails, limit⟩

theorem complete_prefixed {op : PrefixOp} {operand : Derivation}
    (behind : Complete maxDepth (.level prefixPrecedence) operand) :
    Complete maxDepth (.level prefixPrecedence) (.prefixed op operand) := by
  refine complete_of_unary fun tokens rest last guard within spelled follows => ?_
  obtain ⟨operator, others, rfl, kind, spelledOthers⟩ := Derivation.tokens_of_prefixed spelled
  have ahead : prefixAhead? (⟨operator :: others ++ rest, last, guard⟩ : Cursor).front =
      some ⟨op.symbol, op, prefixPrecedence⟩ := prefixAhead?_of_mem kind
  have entered : (⟨operator :: others ++ rest, last, guard⟩ : Cursor).advance.enter =
      ⟨others ++ rest, last, guard + 1⟩ := by
    rw [List.cons_append, advance_cons (by simp [kind])]
    rfl
  by_cases room : guard < maxDepth
  · rcases (behind others rest last (guard + 1) room spelledOthers follows).2 rfl with
      ⟨fits, reads⟩ | ⟨deep, error, after, fails, limit⟩
    · rw [← entered] at reads
      exact .inl ⟨by simpa [Derivation.nesting, Nat.add_assoc] using fits,
        .prefixed ahead room reads⟩
    · rw [← entered] at fails
      refine .inr ⟨?_, error, after, .prefixed ahead room fails, limit⟩
      simp only [Derivation.TooDeep, Derivation.nesting, Derivation.formula, Formula.depth_unary]
        at deep ⊢
      omega
  · refine .inr ⟨.inl ?_, _, _, .prefixTooDeep ahead (Nat.le_of_not_lt room), rfl⟩
    simp only [Derivation.nesting]
    omega

theorem Chain.ofOperand_ofInfix (op : InfixOp) (left right : Formula) :
    Chain.ofOperand (.ofInfix op left right) = (Chain.ofOperand left).extend op right := by
  simp [Chain.ofOperand, Chain.extend]

theorem complete_infixed {precedence : Nat} {op : InfixOp} {left right : Derivation}
    (listed : ⟨op.symbol, op, precedence⟩ ∈ infixTable)
    (before : Complete maxDepth (.level precedence) left)
    (behind : Complete maxDepth (.level (precedence + 1)) right) :
    Complete maxDepth (.level precedence) (.infixed op left right) := by
  intro tokens rest last guard within spelled follows
  -- Operators are looser than the tightest level, so nothing is to be shown of a unary phrase.
  have loose := precedence_lt_prefixPrecedence listed
  obtain ⟨first, operator, second, rfl, spelledLeft, kind, spelledRight⟩ :=
    Derivation.tokens_of_infixed spelled
  refine ⟨fun minPrecedence tight => ?_, fun tightest => absurd tightest (Nat.ne_of_lt loose)⟩
  have ahead : infixAhead? minPrecedence operator = some ⟨op.symbol, op, precedence⟩ := by
    rw [infixAhead?_of_mem kind listed, if_pos tight]
  -- The operator is too loose to be taken by the last operand of the left chain.
  have blocked : MayFollow (.level precedence) operator :=
    ⟨by simp [kind], by rw [infixAhead?_of_mem kind listed, if_neg (Nat.not_succ_le_self _)]⟩
  have entered : (⟨operator :: second ++ rest, last, guard⟩ : Cursor).advance.enter =
      ⟨second ++ rest, last, guard + 1⟩ := by
    rw [List.cons_append, advance_cons (by simp [kind])]
    rfl
  have split : first ++ operator :: second ++ rest = first ++ (operator :: second ++ rest) :=
    List.append_assoc _ _ _
  rw [Extends, split]
  rcases (before first (operator :: second ++ rest) last guard within spelledLeft blocked).1
      minPrecedence tight with ⟨fits, goesOn, failsOn⟩ | ⟨deep, stops⟩
  · by_cases room : guard < maxDepth
    · have rightRead := ((behind second rest last (guard + 1) room spelledRight
        (follows.tighter (Nat.le_succ _))).1 (precedence + 1) (Nat.le_refl _)).follows follows.2
      rcases rightRead with ⟨fitsRight, reads⟩ | ⟨deep, error, after, fails, limit⟩
      · rw [← entered] at reads
        by_cases shallow : 1 + max left.formula.depth right.formula.depth ≤ maxDepth
        · refine .inl ⟨?_, fun formula after links => goesOn _ _ ?_,
            fun error after fails => failsOn _ _ ?_⟩
          · simp only [Derivation.nesting]
            omega
          · rw [Derivation.formula, Chain.ofOperand_ofInfix] at links
            exact .link ahead room reads shallow links
          · rw [Derivation.formula, Chain.ofOperand_ofInfix] at fails
            exact .link ahead room reads shallow fails
        · -- Both operands are read, but the chain of them is deeper than the limit.
          have deep := Nat.lt_of_not_le shallow
          refine .inr ⟨.inr ?_, _, _, failsOn _ _ (.chainTooDeep ahead room reads deep), rfl⟩
          rwa [Derivation.formula, Formula.depth_ofInfix]
      · rw [← entered] at fails
        refine .inr ⟨?_, error, after, failsOn _ _ (.right ahead room fails), limit⟩
        simp only [Derivation.TooDeep, Derivation.nesting, Derivation.formula,
          Formula.depth_ofInfix] at deep ⊢
        omega
    · refine .inr ⟨.inl ?_, _, _, failsOn _ _ (.rightTooDeep ahead (Nat.le_of_not_lt room)), rfl⟩
      simp only [Derivation.nesting]
      omega
  · refine .inr ⟨?_, stops⟩
    simp only [Derivation.TooDeep, Derivation.nesting, Derivation.formula,
      Formula.depth_ofInfix] at deep ⊢
    omega

theorem complete_tighter {precedence : Nat} (loose : precedence < prefixPrecedence)
    (whole : Complete maxDepth (.level (precedence + 1)) tree) :
    Complete maxDepth (.level precedence) tree := by
  intro tokens rest last guard within spelled follows
  have tight := (whole tokens rest last guard within spelled (follows.tighter (Nat.le_succ _))).1
  exact ⟨fun minPrecedence below => tight minPrecedence (Nat.le_succ_of_le below),
    fun tightest => absurd tightest (Nat.ne_of_lt loose)⟩

theorem complete_operation (whole : Complete maxDepth (.level 1) tree) :
    Complete maxDepth .expression tree := by
  intro tokens rest last guard within spelled follows
  have operation := ((whole tokens rest last guard within spelled (follows.of_expression 1)).1 0
    (Nat.zero_le _)).follows follows.2.2
  rcases operation with ⟨fits, reads⟩ | ⟨deep, error, after, fails, limit⟩
  · exact .inl ⟨fits, .unconditional reads follows.2.1⟩
  · exact .inr ⟨deep, error, after, .test fails, limit⟩

theorem complete_choice {test consequent alternate : Derivation}
    (tested : Complete maxDepth (.level 1) test)
    (chosen : Complete maxDepth .expression consequent)
    (otherwise : Complete maxDepth .expression alternate) :
    Complete maxDepth .expression (.choice test consequent alternate) := by
  intro tokens rest last guard within spelled follows
  obtain ⟨first, question, second, colon, third, rfl, spelledTest, asked, spelledConsequent,
    divided, spelledAlternate⟩ := Derivation.tokens_of_choice spelled
  have split : first ++ question :: (second ++ colon :: third) ++ rest =
      first ++ question :: (second ++ colon :: (third ++ rest)) := by
    simp
  have entered :
      (⟨question :: (second ++ colon :: (third ++ rest)), last, guard⟩ : Cursor).advance.enter =
        ⟨second ++ colon :: (third ++ rest), last, guard + 1⟩ := by
    rw [advance_cons (by simp [asked])]
    rfl
  have passed : (⟨colon :: (third ++ rest), last, guard + 1⟩ : Cursor).advance =
      ⟨third ++ rest, last, guard + 1⟩ :=
    advance_cons (by simp [divided])
  change Follows maxDepth guard last .expression _ _ _
  rw [Follows, split]
  -- The test is an operation of any precedence, which the question mark ends.
  have testRead := ((tested first (question :: (second ++ colon :: (third ++ rest))) last guard within
    spelledTest ⟨by simp [asked], infixAhead?_of_noOperator (by simp [asked])⟩).1 0
    (Nat.zero_le _)).follows (infixAhead?_of_noOperator (by simp [asked]))
  rcases testRead with ⟨fitsTest, test⟩ | ⟨deep, error, after, fails, limit⟩
  · by_cases room : guard < maxDepth
    · rcases chosen second (colon :: (third ++ rest)) last (guard + 1) room spelledConsequent
          (mayFollow_expression (by simp [divided]) (by simp [divided]) (by simp [divided])) with
        ⟨fitsConsequent, consequent⟩ | ⟨deep, error, after, fails, limit⟩
      · rw [← entered] at consequent
        rcases otherwise third rest last (guard + 1) room spelledAlternate follows with
          ⟨fitsAlternate, alternate⟩ | ⟨deep, error, after, fails, limit⟩
        · rw [← passed] at alternate
          refine .inl ⟨?_, .conditional test asked room consequent divided alternate⟩
          simp only [Derivation.nesting]
          omega
        · rw [← passed] at fails
          refine .inr ⟨?_, error, after, .alternate test asked room consequent divided fails, limit⟩
          simp only [Derivation.TooDeep, Derivation.nesting, Derivation.formula,
            Formula.depth_conditional] at deep ⊢
          omega
      · rw [← entered] at fails
        refine .inr ⟨?_, error, after, .consequent test asked room fails, limit⟩
        simp only [Derivation.TooDeep, Derivation.nesting, Derivation.formula,
          Formula.depth_conditional] at deep ⊢
        omega
    · refine .inr ⟨.inl ?_, _, _, .branchesTooDeep test asked (Nat.le_of_not_lt room), rfl⟩
      simp only [Derivation.nesting]
      omega
  · refine .inr ⟨?_, error, after, .test fails, limit⟩
    simp only [Derivation.TooDeep, Derivation.nesting, Derivation.formula,
      Formula.depth_conditional] at deep ⊢
    omega

/-! ### All derivations -/

theorem prefixAhead?_of_primary {nonterminal : Nonterminal} (derives : Derives nonterminal tree)
    (primary : nonterminal = .primary) (spelled : tokens.map Token.kind = tree.kinds) :
    prefixAhead? (⟨tokens ++ rest, last, guard⟩ : Cursor).front = none := by
  -- An operand starts with a token of its own kind or with a parenthesis.
  have noOperator : ∀ symbol,
      (⟨tokens ++ rest, last, guard⟩ : Cursor).front.kind ≠ .operator symbol := by
    cases derives with
    | constant value =>
      obtain ⟨token, rfl, kind⟩ := Derivation.tokens_of_leaf spelled
      intro symbol
      cases value <;> simp [Cursor.front, kind, Literal.tokenKind]
    | identifier name =>
      obtain ⟨token, rfl, kind⟩ := Derivation.tokens_of_leaf spelled
      simp [Cursor.front, kind]
    | group inside =>
      obtain ⟨opening, _, _, rfl, opened, _⟩ := Derivation.tokens_of_group spelled
      simp [Cursor.front, opened]
    | _ => cases primary
  cases ahead : prefixAhead? (⟨tokens ++ rest, last, guard⟩ : Cursor).front with
  | none => rfl
  | some entry => exact absurd (mem_of_prefixAhead? ahead).1 (noOperator _)

/-- **Whatever is derived is read**, or too deep. -/
theorem complete_of_derives {nonterminal : Nonterminal} (derives : Derives nonterminal tree) :
    Complete maxDepth nonterminal tree := by
  induction derives with
  | operation _ ih => exact complete_operation ih
  | choice _ _ _ tested chosen otherwise => exact complete_choice tested chosen otherwise
  | infixed listed _ _ before behind => exact complete_infixed listed before behind
  | tighter _ loose _ ih => exact complete_tighter loose ih
  | prefixed _ _ ih => exact complete_prefixed ih
  | primary whole ih =>
    exact complete_primary ih fun tokens rest last guard spelled =>
      prefixAhead?_of_primary whole rfl spelled
  | constant value => exact complete_leaf rfl rfl (by cases value <;> rfl)
  | identifier name => exact complete_leaf rfl rfl rfl
  | group _ ih => exact complete_group ih

end Phrase

end FieldFormula
