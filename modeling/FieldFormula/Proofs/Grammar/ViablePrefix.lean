import FieldFormula.Proofs.Grammar.Acceptance
import FieldFormula.Proofs.Grammar.Lookahead
import FieldFormula.Proofs.Relaxation
import FieldFormula.Proofs.Tiling

/-!
# Errors stand where the tokens go wrong

What a reading has consumed before it fails is the beginning of a phrase, whatever operators, choices
and parentheses are still open: a name in the place of the blamed token and the tokens that close
what is open complete it. The blamed token itself cannot be completed, since the reading looks no
further.

## Main result

`blamed_of_parse`: a syntax error of the grammar points at the first token with which the tokens of
the source cease to be the beginning of accepted ones.
-/

namespace FieldFormula

/-! ### Beginnings of phrases -/

/-- The tokens are the first ones of a phrase of the nonterminal. -/
def BeginsPhrase (nonterminal : Nonterminal) (seen : List Token.Kind) : Prop :=
  ∃ tree more, Derives nonterminal tree ∧ tree.kinds = seen ++ more

namespace BeginsPhrase

variable {seen : List Token.Kind}

theorem whole {nonterminal : Nonterminal} {tree : Derivation} (derives : Derives nonterminal tree) :
    BeginsPhrase nonterminal tree.kinds :=
  ⟨tree, [], derives, (List.append_nil _).symm⟩

/-- Wherever an operand can stand, a name can. -/
theorem nothing : BeginsPhrase .primary [] :=
  ⟨.identifier "x", _, .identifier "x", rfl⟩

theorem group (inside : BeginsPhrase .expression seen) :
    BeginsPhrase .primary (.openParen :: seen) := by
  obtain ⟨inner, more, derives, spelled⟩ := inside
  exact ⟨.group inner, more ++ [.closeParen], .group derives, by simp [Derivation.kinds, spelled]⟩

theorem primary (operand : BeginsPhrase .primary seen) :
    BeginsPhrase (.level prefixPrecedence) seen := by
  obtain ⟨tree, more, derives, spelled⟩ := operand
  exact ⟨tree, more, .primary derives, spelled⟩

theorem prefixed {op : PrefixOp} (listed : ⟨op.symbol, op, prefixPrecedence⟩ ∈ prefixTable)
    (behind : BeginsPhrase (.level prefixPrecedence) seen) :
    BeginsPhrase (.level prefixPrecedence) (.operator op.symbol :: seen) := by
  obtain ⟨operand, more, derives, spelled⟩ := behind
  exact ⟨.prefixed op operand, more, .prefixed listed derives, by simp [Derivation.kinds, spelled]⟩

theorem infixed {op : InfixOp} {precedence : Nat} {left : Derivation}
    (listed : ⟨op.symbol, op, precedence⟩ ∈ infixTable) (before : Derives (.level precedence) left)
    (behind : BeginsPhrase (.level (precedence + 1)) seen) :
    BeginsPhrase (.level precedence) (left.kinds ++ .operator op.symbol :: seen) := by
  obtain ⟨right, more, derives, spelled⟩ := behind
  exact ⟨.infixed op left right, more, .infixed listed before derives,
    by simp [Derivation.kinds, spelled]⟩

theorem loosen {strong weak : Nat} (begins : BeginsPhrase (.level strong) seen) (positive : 1 ≤ weak)
    (looser : weak ≤ strong) (bounded : strong ≤ prefixPrecedence) :
    BeginsPhrase (.level weak) seen := by
  obtain ⟨tree, more, derives, spelled⟩ := begins
  exact ⟨tree, more, derives.loosen positive looser bounded, spelled⟩

theorem operation (begins : BeginsPhrase (.level 1) seen) : BeginsPhrase .expression seen := by
  obtain ⟨tree, more, derives, spelled⟩ := begins
  exact ⟨tree, more, .operation derives, spelled⟩

/-- A choice that breaks off before its colon goes on with one and a name. -/
theorem consequent {test : Derivation} (tested : Derives (.level 1) test)
    (begins : BeginsPhrase .expression seen) :
    BeginsPhrase .expression (test.kinds ++ .question :: seen) := by
  obtain ⟨chosen, more, derives, spelled⟩ := begins
  have otherwise : Derives .expression (.identifier "x") :=
    .operation ((Derives.primary (.identifier "x")).loosen (Nat.le_refl 1) (by decide)
      (Nat.le_refl _))
  exact ⟨.choice test chosen (.identifier "x"), more ++ [.colon, .identifier "x"],
    .choice tested derives otherwise, by simp [Derivation.kinds, spelled]⟩

theorem alternate {test chosen : Derivation} (tested : Derives (.level 1) test)
    (derivesChosen : Derives .expression chosen) (begins : BeginsPhrase .expression seen) :
    BeginsPhrase .expression (test.kinds ++ .question :: chosen.kinds ++ .colon :: seen) := by
  obtain ⟨otherwise, more, derives, spelled⟩ := begins
  exact ⟨.choice test chosen otherwise, more, .choice tested derivesChosen derives,
    by simp [Derivation.kinds, spelled]⟩

end BeginsPhrase

namespace Phrase

variable {maxDepth : Nat} {task : Task} {cursor after : Cursor} {error : SyntaxError}

/-- The tokens ahead of the cursor are the first ones of what the task is asked for. Those of a chain
go on with any operation that can stand in front of them. -/
def Viable : Task → Cursor → List Token.Kind → Prop
  | .expression, _, seen => BeginsPhrase .expression seen
  | .operation minPrecedence, _, seen =>
    minPrecedence ≤ prefixPrecedence → BeginsPhrase (.level (max 1 minPrecedence)) seen
  | .links minPrecedence _, cursor, seen =>
    ∀ tree precedence, Derives (.level precedence) tree → max 1 minPrecedence ≤ precedence →
      precedence ≤ prefixPrecedence → infixAhead? (precedence + 1) cursor.front = none →
      BeginsPhrase (.level (max 1 minPrecedence)) (tree.kinds ++ seen)
  | .unary, _, seen => BeginsPhrase (.level prefixPrecedence) seen
  | .primary, _, seen => BeginsPhrase .primary seen
  | .operand, _, seen => BeginsPhrase .primary seen

/-- What lies between the cursor and the blamed token in front of `reached` is viable. -/
structure ViableUpTo (task : Task) (cursor : Cursor) (error : SyntaxError) (reached : Cursor) : Prop
    where
  within : reached.Within cursor.rest
  blamed : reached.front.span = error.span
  viable : ∃ seen, cursor.kinds = seen ++ reached.kinds ∧ Viable task cursor seen

/-- What a part of a phrase has consumed follows what has been consumed before the part. -/
theorem ViableUpTo.outward {innerTask : Task} {inner reached : Cursor}
    (viableUpTo : ViableUpTo innerTask inner error reached) (within : inner.Within cursor.rest)
    (consumed : List Token.Kind) (split : cursor.kinds = consumed ++ inner.kinds)
    (goesOn : ∀ seen, Viable innerTask inner seen → Viable task cursor (consumed ++ seen)) :
    ViableUpTo task cursor error reached := by
  obtain ⟨seen, spelled, viable⟩ := viableUpTo.viable
  have remains := viableUpTo.within.remains.trans within.remains
  exact ⟨⟨remains, viableUpTo.within.ended⟩, viableUpTo.blamed, consumed ++ seen,
    by rw [split, spelled, List.append_assoc], goesOn seen viable⟩

/-- **A reading fails no earlier than it has to.** What it has consumed begins a phrase. -/
theorem Fails.viableUpTo (fails : Fails maxDepth task cursor error after)
    (within : cursor.Within cursor.rest) (noLimit : error.kind ≠ .limitExceeded) :
    ∃ reached, ViableUpTo task cursor error reached := by
  -- The trees of the parts that have been read are completed by that of the part that fails.
  induction fails with
  | test _ ih =>
    obtain ⟨reached, viableUpTo⟩ := ih within noLimit
    exact ⟨reached, viableUpTo.outward within [] rfl fun _ viable =>
      (viable (Nat.zero_le _)).operation⟩
  | consequent testRead question _ _ ih =>
    have testedWithin := testRead.within within
    obtain ⟨reached, viableUpTo⟩ := ih testedWithin.advance.enter.self noLimit
    obtain ⟨test, derivesTest, _, spelledTest, _⟩ := testRead.sound within.ended (Nat.zero_le _)
    refine ⟨reached, viableUpTo.outward testedWithin.advance.enter (test.kinds ++ [.question]) ?_
      fun seen viable => ?_⟩
    · simp [← spelledTest, testedWithin.ended.kinds_eq_cons question]
    · rw [List.append_assoc]
      exact viable.consequent derivesTest
  | @colonMissing _ _ tested _ chosen testRead question _ consequentRead _ =>
    have testedWithin := testRead.within within
    have inside := testedWithin.advance.enter
    obtain ⟨test, derivesTest, _, spelledTest, _⟩ := testRead.sound within.ended (Nat.zero_le _)
    obtain ⟨consequent, derivesConsequent, _, spelledConsequent⟩ := consequentRead.sound inside.ended
    rw [Cursor.kinds_enter] at spelledConsequent
    have begins := (BeginsPhrase.whole derivesConsequent).consequent derivesTest
    refine ⟨chosen, consequentRead.within inside, rfl, _, ?_, begins⟩
    simp [← spelledTest, testedWithin.ended.kinds_eq_cons question, ← spelledConsequent]
  | @alternate _ _ tested _ chosen _ _ testRead question _ consequentRead colon _ ih =>
    have testedWithin := testRead.within within
    have inside := testedWithin.advance.enter
    have chosenWithin := consequentRead.within inside
    obtain ⟨reached, viableUpTo⟩ := ih chosenWithin.advance.self noLimit
    obtain ⟨test, derivesTest, _, spelledTest, _⟩ := testRead.sound within.ended (Nat.zero_le _)
    obtain ⟨consequent, derivesConsequent, _, spelledConsequent⟩ := consequentRead.sound inside.ended
    rw [Cursor.kinds_enter, chosenWithin.ended.kinds_eq_cons colon (by simp)] at spelledConsequent
    refine ⟨reached, viableUpTo.outward chosenWithin.advance
      (test.kinds ++ .question :: consequent.kinds ++ [.colon]) ?_ fun seen viable => ?_⟩
    · simp [← spelledTest, testedWithin.ended.kinds_eq_cons question, ← spelledConsequent]
    · rw [List.append_assoc]
      exact viable.alternate derivesTest derivesConsequent
  | first _ ih =>
    obtain ⟨reached, viableUpTo⟩ := ih within noLimit
    refine ⟨reached, viableUpTo.outward within [] rfl fun seen viable bounded => ?_⟩
    exact viable.loosen (Nat.le_max_left _ _) (Nat.max_le.2 ⟨by decide, bounded⟩) (Nat.le_refl _)
  | chain firstRead _ ih =>
    have behind := firstRead.within within
    obtain ⟨reached, viableUpTo⟩ := ih behind.self noLimit
    obtain ⟨first, derives, _, spelled⟩ := firstRead.sound within.ended
    refine ⟨reached, viableUpTo.outward behind first.kinds spelled.symm ?_⟩
    intro seen viable bounded
    -- The chain so far is its first operand, which no operator is too tight for.
    exact viable first prefixPrecedence derives (Nat.max_le.2 ⟨by decide, bounded⟩) (Nat.le_refl _)
      (infixAhead?_of_prefixPrecedence_le (Nat.le_succ _))
  | right operator _ _ ih =>
    have inside := within.advance.enter
    obtain ⟨reached, viableUpTo⟩ := ih inside.self noLimit
    obtain ⟨kind, listed, enough⟩ := mem_of_infixAhead? operator
    have positive := (infixEntry_of_mem listed).2
    have loose := precedence_lt_prefixPrecedence listed
    refine ⟨reached, viableUpTo.outward inside [_] (within.ended.kinds_eq_cons kind (by simp)) ?_⟩
    -- The chain so far becomes the left operand, so the right one is what remains to be completed.
    intro seen viable tree precedence derives _ bounded blocked
    have behind := viable loose
    rw [Nat.max_eq_right (Nat.le_add_left _ _)] at behind
    have begins := BeginsPhrase.infixed listed (derives_left operator derives bounded blocked) behind
    exact begins.loosen (Nat.le_max_left _ _) (Nat.max_le.2 ⟨positive, enough⟩) (Nat.le_of_lt loose)
  | @link _ _ _ entry _ _ _ _ operator _ rightRead _ _ ih =>
    have inside := within.advance.enter
    have behind := (rightRead.within inside).leave
    obtain ⟨reached, viableUpTo⟩ := ih behind.self noLimit
    obtain ⟨kind, listed, enough⟩ := mem_of_infixAhead? operator
    have positive := (infixEntry_of_mem listed).2
    have loose := precedence_lt_prefixPrecedence listed
    obtain ⟨right, derivesRight, _, spelledRight, ended⟩ := rightRead.sound inside.ended loose
    rw [Nat.max_eq_right (Nat.le_add_left _ _)] at derivesRight
    rw [Cursor.kinds_enter] at spelledRight
    refine ⟨reached, viableUpTo.outward behind (.operator entry.op.symbol :: right.kinds) ?_ ?_⟩
    · rw [within.ended.kinds_eq_cons kind (by simp), ← spelledRight]
      rfl
    · intro seen viable tree precedence derives _ bounded blocked
      have longer : Derives _ (.infixed entry.op tree right) :=
        .infixed listed (derives_left operator derives bounded blocked) derivesRight
      have begins := viable _ _ longer (Nat.max_le.2 ⟨positive, enough⟩) (Nat.le_of_lt loose) ended
      rwa [Derivation.kinds, List.append_assoc] at begins
  | prefixed operator _ _ ih =>
    have inside := within.advance.enter
    obtain ⟨reached, viableUpTo⟩ := ih inside.self noLimit
    obtain ⟨kind, listed⟩ := mem_of_prefixAhead? operator
    exact ⟨reached, viableUpTo.outward inside [_] (within.ended.kinds_eq_cons kind (by simp))
      fun _ viable => viable.prefixed listed⟩
  | unprefixed _ _ ih =>
    obtain ⟨reached, viableUpTo⟩ := ih within noLimit
    exact ⟨reached, viableUpTo.outward within [] rfl fun _ viable => viable.primary⟩
  | operand _ ih =>
    obtain ⟨reached, viableUpTo⟩ := ih within noLimit
    exact ⟨reached, viableUpTo.outward within [] rfl fun _ viable => viable⟩
  | @called _ _ after operandRead _ =>
    obtain ⟨operand, derives, _, spelled⟩ := operandRead.sound within.ended
    exact ⟨after, operandRead.within within, rfl, operand.kinds, spelled.symm, .whole derives⟩
  | @noOperand cursor _ _ => exact ⟨cursor, within, rfl, [], rfl, .nothing⟩
  | inner opened _ _ ih =>
    have inside := within.advance.enter
    obtain ⟨reached, viableUpTo⟩ := ih inside.self noLimit
    exact ⟨reached, viableUpTo.outward inside [_] (within.ended.kinds_eq_cons opened (by simp))
      fun _ viable => viable.group⟩
  | @unclosed _ _ after opened _ innerRead _ =>
    have inside := within.advance.enter
    obtain ⟨inner, derives, _, spelled⟩ := innerRead.sound inside.ended
    rw [Cursor.kinds_enter] at spelled
    have begins := (BeginsPhrase.whole derives).group
    refine ⟨after, innerRead.within inside, rfl, _, ?_, begins⟩
    rw [within.ended.kinds_eq_cons opened (by simp), ← spelled]
    rfl
  -- The other rules are about limits.
  | branchesTooDeep | rightTooDeep | chainTooDeep | prefixTooDeep | groupTooDeep =>
    exact absurd rfl noLimit

end Phrase

/-! ### Whole token lists -/

namespace Token

/-- Some limit on the depth accepts the tokens as those of a formula. -/
def Accepted (tokens : List Token) : Prop :=
  ∃ maxDepth formula, checkParentheses maxDepth tokens = .ok () ∧
    Formula.ofTokens maxDepth tokens = .ok formula ∧ formula.depth ≤ maxDepth

/-- More tokens, and the end of the input behind them, complete the tokens to accepted ones. -/
def Continuable (tokens : List Token) : Prop :=
  ∃ more ending, (∀ token ∈ more, token.kind ≠ .endOfInput) ∧ ending.kind = .endOfInput ∧
    Accepted (tokens ++ more ++ [ending])

/-- No accepted tokens begin with ones of the same kinds. -/
def DeadEnd (tokens : List Token) : Prop :=
  ∀ others : List Token, tokens.map kind <+: others.map kind → ¬ Accepted others

theorem accepted_of_derived {tokens : List Token} {tree : Derivation} (derived : tree.IsOf tokens) :
    Accepted tokens := by
  have flat : tree.nesting ≤ tree.nesting + tree.formula.depth := Nat.le_add_right _ _
  have shallow : tree.formula.depth ≤ tree.nesting + tree.formula.depth := Nat.le_add_left _ _
  refine ⟨tree.nesting + tree.formula.depth, tree.formula, ?_, ?_, shallow⟩
  · exact (Formula.checkParentheses_of_derived derived).resolve_right fun deep => by omega
  · rcases Formula.ofTokens_of_derived derived with ⟨_, read⟩ | ⟨deep, _⟩
    · exact read
    · simp only [Derivation.TooDeep] at deep
      omega

theorem continuable_of_begins {tokens : List Token}
    (begins : BeginsPhrase .expression (tokens.map kind)) : Continuable tokens := by
  obtain ⟨tree, more, derives, spelled⟩ := begins
  refine ⟨more.map (⟨·, default⟩), ⟨.endOfInput, default⟩, ?_, rfl, ?_⟩
  · intro token member ended
    obtain ⟨_, inside, rfl⟩ := List.mem_map.1 member
    refine tree.endOfInput_notMem_kinds (spelled ▸ List.mem_append_right _ ?_)
    exact ended ▸ inside
  · refine @accepted_of_derived _ tree ⟨derives, ?_⟩
    simp [spelled, Function.comp_def]

end Token

namespace Formula

variable {maxDepth : Nat} {tokens : List Token} {error : SyntaxError}

/-- **The blamed token is a dead end.** -/
theorem deadEnd_of_ofTokens (unread : ofTokens maxDepth tokens = .error error)
    (noLimit : error.kind ≠ .limitExceeded) (ended : .endOfInput ∈ tokens.map Token.kind) :
    ∃ before token after, tokens = before ++ token :: after ∧ token.span = error.span ∧
      Token.DeadEnd (before ++ [token]) := by
  obtain ⟨reached, within, blamed, alike⟩ := ofTokens_failsAt unread ended
  obtain ⟨before, after, split, ahead⟩ := within.split
  refine ⟨before, reached.front, after, split, blamed noLimit, ?_⟩
  rintro others ⟨more, spelled⟩ ⟨otherDepth, formula, _, read, _⟩
  -- The others would fail for the same cause, which no limit on the depth makes go away.
  have parallel : Cursor.Parallel (reached.front.kind :: after.map Token.kind)
      (reached.front.kind :: more) (.start tokens) (.start others) := by
    refine ⟨rfl, ⟨before.map Token.kind, ?_, ?_⟩, rfl, ended⟩
    · simp [Cursor.kinds, split]
    · simp [Cursor.kinds, ← spelled]
  obtain ⟨otherError, otherUnread, same⟩ := alike parallel (by simp [ahead])
  have otherNoLimit : otherError.kind ≠ .limitExceeded := by
    rwa [SyntaxError.kind, same]
  have stillRead := relaxes_ofTokens (Nat.le_max_right maxDepth otherDepth) others
  have stillUnread := relaxes_ofTokens (Nat.le_max_left maxDepth otherDepth) others
  rw [read] at stillRead
  rw [otherUnread] at stillUnread
  have contradictory := stillRead.eq_of_ok.symm.trans (stillUnread.eq_of_error otherNoLimit)
  cases contradictory

/-- **The tokens in front of the blamed one can be continued.** -/
theorem continuable_of_ofTokens (unread : ofTokens maxDepth tokens = .error error)
    (noLimit : error.kind ≠ .limitExceeded) (ended : .endOfInput ∈ tokens.map Token.kind) :
    ∃ before token after, tokens = before ++ token :: after ∧ token.span = error.span ∧
      Token.Continuable before := by
  have within := Cursor.Within.start ended
  obtain ⟨reached, reachedWithin, blamed, seen, spelled, begins⟩ : ∃ reached : Cursor,
      reached.Within tokens ∧ reached.front.span = error.span ∧
        ∃ seen, tokens.map Token.kind = seen ++ reached.kinds ∧ BeginsPhrase .expression seen := by
    rcases ofTokens_eq_error_iff.1 unread with ⟨after, fails⟩ | ⟨formula, after, reads, _, rfl⟩
    · obtain ⟨reached, viableUpTo⟩ := fails.viableUpTo within noLimit
      exact ⟨reached, viableUpTo.within, viableUpTo.blamed, viableUpTo.viable⟩
    · -- A whole expression stands in front of the token, so nothing is missing but the end.
      obtain ⟨tree, derives, _, spelled⟩ := reads.sound within.ended
      refine ⟨after, reads.within within, ?_, tree.kinds, spelled.symm, .whole derives⟩
      rw [Phrase.span_endError]
  obtain ⟨before, after, split, ahead⟩ := reachedWithin.split
  have same : before.map Token.kind = seen := by
    rw [split, Cursor.kinds, ahead] at spelled
    exact List.append_cancel_right ((List.map_append.symm.trans spelled :))
  exact ⟨before, reached.front, after, split, blamed, Token.continuable_of_begins (same ▸ begins)⟩

theorem kind_of_ofTokens (unread : ofTokens maxDepth tokens = .error error)
    (noLimit : error.kind ≠ .limitExceeded) :
    error.kind = .unexpectedToken ∨ error.kind = .call := by
  have grammar := ofTokens_error unread
  obtain ⟨cause, span⟩ := error
  cases grammar with
  | unexpected found wanted => exact .inl rfl
  | call callee => exact .inr rfl
  | nestingTooDeep => exact absurd rfl noLimit
  | chainTooDeep => exact absurd rfl noLimit

/-- **A syntax error of the grammar points at the first token that cannot be right.** Let the tokens
of a source be scanned and their parentheses match. If the source is rejected, but neither as empty
nor for a limit, the error is that of an unexpected token or of a call, and it shows exactly one of
the tokens. The tokens in front of this one can be continued to accepted ones. No accepted tokens
begin with these and this one, under whatever limit on the depth. -/
theorem blamed_of_parse {limits : Limits} {source : String}
    (scanned : Token.scan limits source.toList = .ok tokens)
    (matched : Token.checkParentheses limits.maxDepth tokens = .ok ())
    (failed : parse limits source = .error error) (noLimit : error.kind ≠ .limitExceeded)
    (notEmpty : error.kind ≠ .empty) :
    (error.kind = .unexpectedToken ∨ error.kind = .call) ∧
    ∃ before token after, tokens = before ++ token :: after ∧ token.span = error.span ∧
      (∀ other ∈ before ++ after, other.span ≠ error.span) ∧
      Token.Continuable before ∧ Token.DeadEnd (before ++ [token]) := by
  have unread : ofTokens limits.maxDepth tokens = .error error := by
    cases ofChars_eq_error_iff.1 failed with
    | length _ => exact absurd rfl noLimit
    | blank _ _ => exact absurd rfl notEmpty
    | scan _ _ unscanned => cases unscanned.symm.trans scanned
    | parentheses _ _ others unmatched =>
      obtain rfl := Except.ok.inj (others.symm.trans scanned)
      cases unmatched.symm.trans matched
    | grammar _ _ others _ unread =>
      obtain rfl := Except.ok.inj (others.symm.trans scanned)
      exact unread
    | depth _ _ _ _ _ _ => exact absurd rfl noLimit
  obtain ⟨_, scans, _⟩ := Token.scan_eq_ok_iff.1 scanned
  obtain ⟨before, token, after, split, shows, deadEnd⟩ :=
    deadEnd_of_ofTokens unread noLimit scans.endOfInput_mem
  obtain ⟨front, blamed, behind, splitAgain, showsAgain, continuable⟩ :=
    continuable_of_ofTokens unread noLimit scans.endOfInput_mem
  -- Only one token has the span of the error, so both parts are about the same one.
  have spans := (List.perm_middle.map Token.span).nodup_iff.1 (split ▸ scans.nodup_spans)
  have alone : ∀ other ∈ before ++ after, other.span ≠ error.span := by
    intro other member same
    refine (List.nodup_cons.1 spans).1 ?_
    rw [shows, ← same]
    exact List.mem_map_of_mem member
  have notBefore : blamed ∉ before := fun inside =>
    alone blamed (List.mem_append_left _ inside) showsAgain
  have notAfter : blamed ∉ after := fun inside =>
    alone blamed (List.mem_append_right _ inside) showsAgain
  obtain ⟨rfl, rfl, rfl⟩ :=
    (List.append_cons_inj_of_notMem notBefore notAfter).1 (split.symm.trans splitAgain)
  exact ⟨kind_of_ofTokens unread noLimit, before, token, after, split, shows, alone, continuable,
    deadEnd⟩

/-- A choice that lacks its colon inside of parentheses, behind a prefix and an infix operator. -/
theorem blamed_of_parse_noColon :
    let before : List Token := [⟨.operator "!", ⟨0, 1⟩⟩, ⟨.openParen, ⟨1, 2⟩⟩,
      ⟨.identifier "a", ⟨2, 3⟩⟩, ⟨.operator "-", ⟨4, 5⟩⟩, ⟨.operator "-", ⟨6, 7⟩⟩,
      ⟨.identifier "b", ⟨7, 8⟩⟩, ⟨.question, ⟨9, 10⟩⟩, ⟨.identifier "c", ⟨11, 12⟩⟩]
    parse {} "!(a - -b ? c) : d" = .error ⟨.unexpected .closeParen .colon, ⟨12, 13⟩⟩ ∧
      Token.Continuable before ∧ Token.DeadEnd (before ++ [⟨.closeParen, ⟨12, 13⟩⟩]) := by
  intro before
  have scanned : Token.scan {} "!(a - -b ? c) : d".toList =
      .ok (before ++ ⟨.closeParen, ⟨12, 13⟩⟩ ::
        [⟨.colon, ⟨14, 15⟩⟩, ⟨.identifier "d", ⟨16, 17⟩⟩, ⟨.endOfInput, ⟨17, 17⟩⟩]) := by
    decide +kernel
  have failed : parse {} "!(a - -b ? c) : d" =
      .error ⟨.unexpected .closeParen .colon, ⟨12, 13⟩⟩ := by
    decide +kernel
  obtain ⟨_, front, blamed, behind, split, _, alone, continuable, deadEnd⟩ :=
    blamed_of_parse scanned (by decide) failed (by decide) (by decide)
  -- The closing parenthesis is the token with the span of the error.
  have same := (List.append_cons_inj_of_notMem
    (fun inside => alone _ (List.mem_append_left _ inside) rfl)
    (fun inside => alone _ (List.mem_append_right _ inside) rfl)).1 split.symm
  obtain ⟨rfl, rfl, _⟩ := same
  exact ⟨failed, continuable, deadEnd⟩

end Formula

end FieldFormula
