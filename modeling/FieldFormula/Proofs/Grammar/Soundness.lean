import FieldFormula.Proofs.Grammar.Derivation

/-!
# What is read is derived

Every reading of a task comes with a tree of the grammar that spells the consumed tokens and stands
for the formula read. `Sound` says so task by task: for the links of a chain, which start from a
left operand already read, the tree extends any tree of that operand. The end of the input has to be
ahead, or the last token could be read more than once.
-/

namespace FieldFormula

namespace Phrase

variable {maxDepth : Nat}

/-! ### The invariant of a reading -/

/-- What a task reads is spelled by a tree of the grammar that stands for the formula read. A chain
goes on for as long as there are operators that are tight enough. -/
def Sound : Task → Cursor → Formula → Cursor → Prop
  | .expression, cursor, formula, after =>
    ∃ tree, Derives .expression tree ∧ tree.formula = formula ∧
      tree.kinds ++ after.kinds = cursor.kinds
  | .operation minPrecedence, cursor, formula, after =>
    minPrecedence ≤ prefixPrecedence →
      ∃ tree, Derives (.level (max 1 minPrecedence)) tree ∧ tree.formula = formula ∧
        tree.kinds ++ after.kinds = cursor.kinds ∧ infixAhead? minPrecedence after.front = none
  | .links minPrecedence left, cursor, formula, after =>
    ∀ tree precedence, Derives (.level precedence) tree → tree.formula = left.formula →
      max 1 minPrecedence ≤ precedence → precedence ≤ prefixPrecedence →
      infixAhead? (precedence + 1) cursor.front = none →
      ∃ longer, Derives (.level (max 1 minPrecedence)) longer ∧ longer.formula = formula ∧
        longer.kinds ++ after.kinds = tree.kinds ++ cursor.kinds ∧
        infixAhead? minPrecedence after.front = none
  | .unary, cursor, formula, after =>
    ∃ tree, Derives (.level prefixPrecedence) tree ∧ tree.formula = formula ∧
      tree.kinds ++ after.kinds = cursor.kinds
  | .primary, cursor, formula, after =>
    ∃ tree, Derives .primary tree ∧ tree.formula = formula ∧
      tree.kinds ++ after.kinds = cursor.kinds
  | .operand, cursor, formula, after =>
    ∃ tree, Derives .primary tree ∧ tree.formula = formula ∧
      tree.kinds ++ after.kinds = cursor.kinds

/-! ### One lemma for each rule that builds a formula -/

theorem sound_leaf {cursor : Cursor} {formula : Formula} (ended : cursor.EndAhead)
    (stands : leaf? cursor.front.kind = some formula) :
    Sound .operand cursor formula cursor.advance := by
  have spelled := ended.kinds_eq_cons rfl (endOfInput_of_leaf? stands)
  rw [Sound, spelled]
  cases kind : cursor.front.kind <;> rw [kind] at stands <;> cases stands
  · exact ⟨.constant (.number _), .constant _, rfl, rfl⟩
  · exact ⟨.constant (.text _), .constant _, rfl, rfl⟩
  · exact ⟨.constant (.boolean _), .constant _, rfl, rfl⟩
  · exact ⟨.identifier _, .identifier _, rfl, rfl⟩

theorem sound_group {cursor after : Cursor} {formula : Formula} (ended : cursor.EndAhead)
    (endedInner : after.EndAhead) (opened : cursor.front.kind = .openParen)
    (closed : after.front.kind = .closeParen)
    (inner : Sound .expression cursor.advance.enter formula after) :
    Sound .operand cursor formula after.advance.leave := by
  obtain ⟨tree, derives, stands, spelled⟩ := inner
  refine ⟨.group tree, .group derives, stands, ?_⟩
  -- The parentheses are tokens of the tree but leave no trace in the formula.
  rw [ended.kinds_eq_cons opened (by simp), ← Cursor.kinds_enter cursor.advance, ← spelled,
    endedInner.kinds_eq_cons closed (by simp)]
  simp [Derivation.kinds]

theorem sound_prefixed {cursor after : Cursor} {entry : PrefixEntry} {operand : Formula}
    (ended : cursor.EndAhead) (operator : prefixAhead? cursor.front = some entry)
    (read : Sound .unary cursor.advance.enter operand after) :
    Sound .unary cursor (.unary entry.op operand) after.leave := by
  obtain ⟨tree, derives, stands, spelled⟩ := read
  obtain ⟨kind, listed⟩ := mem_of_prefixAhead? operator
  refine ⟨.prefixed entry.op tree, .prefixed listed derives, by simp [Derivation.formula, stands],
    ?_⟩
  rw [ended.kinds_eq_cons kind (by simp), ← Cursor.kinds_enter cursor.advance, ← spelled]
  simp [Derivation.kinds]

theorem sound_chain {minPrecedence : Nat} {cursor start after : Cursor} {first formula : Formula}
    (firstRead : Sound .unary cursor first start)
    (links : Sound (.links minPrecedence (.ofOperand first)) start formula after) :
    Sound (.operation minPrecedence) cursor formula after := by
  intro within
  obtain ⟨tree, derives, stands, spelled⟩ := firstRead
  -- A chain starts with an operand of the tightest level, which no operator could continue.
  obtain ⟨longer, derivesLonger, standsLonger, spelledLonger, ended⟩ :=
    links tree prefixPrecedence derives stands (Nat.max_le.2 ⟨by decide, within⟩) (Nat.le_refl _)
      (infixAhead?_of_prefixPrecedence_le (Nat.le_succ _))
  exact ⟨longer, derivesLonger, standsLonger, spelledLonger.trans spelled, ended⟩

/-- Where an operator that continues a chain can stand, the chain so far can be its left operand. -/
theorem derives_left {minPrecedence precedence : Nat} {token : Token} {entry : InfixEntry}
    {tree : Derivation} (operator : infixAhead? minPrecedence token = some entry)
    (derives : Derives (.level precedence) tree) (bounded : precedence ≤ prefixPrecedence)
    (blocked : infixAhead? (precedence + 1) token = none) : Derives (.level entry.precedence) tree := by
  obtain ⟨kind, listed, _⟩ := mem_of_infixAhead? operator
  rw [infixAhead?_of_mem kind listed] at blocked
  have weaker : entry.precedence ≤ precedence :=
    Nat.le_of_not_lt fun tighter => by simp [Nat.succ_le_of_lt tighter] at blocked
  exact derives.loosen (infixEntry_of_mem listed).2 weaker bounded

theorem sound_link {minPrecedence : Nat} {left : Chain} {cursor operated after : Cursor}
    {entry : InfixEntry} {right formula : Formula} (endAhead : cursor.EndAhead)
    (operator : infixAhead? minPrecedence cursor.front = some entry)
    (rightRead : Sound (.operation (entry.precedence + 1)) cursor.advance.enter right operated)
    (links : Sound (.links minPrecedence (left.extend entry.op right)) operated.leave formula
      after) :
    Sound (.links minPrecedence left) cursor formula after := by
  intro tree precedence derives stands tight bounded blocked
  obtain ⟨kind, listed, enough⟩ := mem_of_infixAhead? operator
  have positive := (infixEntry_of_mem listed).2
  have loose := precedence_lt_prefixPrecedence listed
  obtain ⟨operand, derivesRight, standsRight, spelledRight, ended⟩ := rightRead loose
  rw [Nat.max_eq_right (Nat.le_add_left _ _)] at derivesRight
  have extended : Derives (.level entry.precedence) (.infixed entry.op tree operand) :=
    .infixed listed (derives_left operator derives bounded blocked) derivesRight
  obtain ⟨longer, derivesLonger, standsLonger, spelledLonger, endedLonger⟩ :=
    links (.infixed entry.op tree operand) entry.precedence extended
      (by simp [Derivation.formula, Chain.extend, stands, standsRight]) (Nat.max_le.2 ⟨positive, enough⟩)
      (Nat.le_of_lt loose) ended
  refine ⟨longer, derivesLonger, standsLonger, ?_, endedLonger⟩
  rw [spelledLonger, endAhead.kinds_eq_cons kind (by simp), ← Cursor.kinds_enter cursor.advance,
    ← spelledRight]
  simp [Derivation.kinds]

theorem sound_conditional {cursor tested chosen after : Cursor}
    {test consequent alternate : Formula} (endedTest : tested.EndAhead)
    (endedConsequent : chosen.EndAhead) (testRead : Sound (.operation 0) cursor test tested)
    (question : tested.front.kind = .question)
    (consequentRead : Sound .expression tested.advance.enter consequent chosen)
    (colon : chosen.front.kind = .colon)
    (alternateRead : Sound .expression chosen.advance alternate after) :
    Sound .expression cursor (.conditional test consequent alternate) after.leave := by
  obtain ⟨condition, derivesTest, standsTest, spelledTest, _⟩ := testRead (Nat.zero_le _)
  obtain ⟨first, derivesFirst, standsFirst, spelledFirst⟩ := consequentRead
  obtain ⟨second, derivesSecond, standsSecond, spelledSecond⟩ := alternateRead
  refine ⟨.choice condition first second, .choice derivesTest derivesFirst derivesSecond,
    by simp [Derivation.formula, standsTest, standsFirst, standsSecond], ?_⟩
  rw [← spelledTest, endedTest.kinds_eq_cons question (by simp),
    ← Cursor.kinds_enter tested.advance, ← spelledFirst,
    endedConsequent.kinds_eq_cons colon (by simp), ← spelledSecond]
  simp [Derivation.kinds]

/-! ### Readings and formulas -/

/-- **Whatever is read is derived.** -/
theorem Reads.sound {task : Task} {cursor after : Cursor} {formula : Formula}
    (reads : Reads maxDepth task cursor formula after) (ended : cursor.EndAhead) :
    Sound task cursor formula after := by
  induction reads with
  | unconditional _ _ ih =>
    obtain ⟨tree, derives, stands, spelled, _⟩ := ih ended (Nat.zero_le _)
    exact ⟨tree, .operation derives, stands, spelled⟩
  | conditional testReads question _ consequentReads colon _ testRead consequentRead alternateRead =>
    have endedTest := testReads.endAhead ended
    have endedConsequent := consequentReads.endAhead endedTest.advance.enter
    exact sound_conditional endedTest endedConsequent (testRead ended) question
      (consequentRead endedTest.advance.enter) colon (alternateRead endedConsequent.advance)
  | chain firstReads _ first links =>
    exact sound_chain (first ended) (links (firstReads.endAhead ended))
  | @chainEnds minPrecedence _ _ noOperator =>
    -- The tree of the chain so far is as tight as asked for, so it is one of the looser level too.
    intro tree precedence derives stands tight bounded _
    have positive : 1 ≤ max 1 minPrecedence := Nat.le_max_left _ _
    exact ⟨tree, derives.loosen positive tight bounded, stands, rfl, noOperator⟩
  | link operator _ rightReads _ _ right links =>
    have endedRight := rightReads.endAhead ended.advance.enter
    exact sound_link ended operator (right ended.advance.enter) (links endedRight.leave)
  | prefixed operator _ _ operand => exact sound_prefixed ended operator (operand ended.advance.enter)
  | unprefixed _ _ ih =>
    obtain ⟨tree, derives, stands, spelled⟩ := ih ended
    exact ⟨tree, .primary derives, stands, spelled⟩
  | uncalled _ _ ih => exact ih ended
  | leaf stands => exact sound_leaf ended stands
  | group opened _ innerReads closed inner =>
    have inside := ended.advance.enter
    exact sound_group ended (innerReads.endAhead inside) opened closed (inner inside)

end Phrase

end FieldFormula
