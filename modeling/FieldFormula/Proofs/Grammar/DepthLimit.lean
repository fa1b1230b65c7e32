import FieldFormula.Proofs.Grammar.Completeness
import FieldFormula.Proofs.Grammar.Parentheses

/-!
# Where the depth limit is met

The parentheses of a tree of the grammar match, and they nest no more deeply than the reader does on
the tree. Any nesting takes tokens, so a limit that is not below the number of tokens is never met,
neither by the parentheses nor by the reader.
-/

namespace FieldFormula

/-! ### Parentheses of a tree -/

namespace Derivation

variable {maxDepth : Nat}

theorem matchParentheses_leaf {kind : Token.Kind} {tokens : List Token}
    (spelled : tokens.map Token.kind = [kind]) (noOpening : kind ≠ .openParen)
    (noClosing : kind ≠ .closeParen) (opened : List Span) (rest : List Token) :
    Token.matchParentheses maxDepth opened (tokens ++ rest) =
      Token.matchParentheses maxDepth opened rest := by
  obtain ⟨token, rfl, rfl⟩ := tokens_of_leaf spelled
  exact Token.matchParentheses_other noOpening noClosing

/-- **The parentheses of a tree match**, or the tree nests too deeply. -/
theorem matchParentheses_of_spelled {tree : Derivation} {tokens : List Token}
    (spelled : tokens.map Token.kind = tree.kinds) (opened : List Span) (rest : List Token) :
    Token.matchParentheses maxDepth opened (tokens ++ rest) =
        Token.matchParentheses maxDepth opened rest ∨
      maxDepth < opened.length + tree.nesting ∧
        ∃ span, Token.matchParentheses maxDepth opened (tokens ++ rest) =
          .error ⟨.parenthesesTooDeep maxDepth, span⟩ := by
  induction tree generalizing tokens opened rest with
  | constant value =>
    exact .inl (matchParentheses_leaf spelled (by cases value <;> simp [Literal.tokenKind])
      (by cases value <;> simp [Literal.tokenKind]) opened rest)
  | identifier name =>
    exact .inl (matchParentheses_leaf spelled (by simp) (by simp) opened rest)
  | group inner ih =>
    obtain ⟨opening, between, closing, rfl, isOpening, spelledInner, isClosing⟩ :=
      tokens_of_group spelled
    rw [List.cons_append, List.append_assoc]
    by_cases room : opened.length < maxDepth
    · rw [Token.matchParentheses_openParen isOpening room]
      -- The closing parenthesis is left for the one that opens here.
      rcases ih spelledInner (opening.span :: opened) ([closing] ++ rest) with
        matched | ⟨deep, span, refused⟩
      · rw [matched]
        exact .inl (Token.matchParentheses_closeParen isClosing)
      · refine .inr ⟨?_, span, refused⟩
        simp only [List.length_cons, nesting] at deep ⊢
        omega
    · have full := Nat.le_of_not_lt room
      refine .inr ⟨?_, _, Token.matchParentheses_openParen_full isOpening full⟩
      simp only [nesting]
      omega
  | prefixed op operand ih =>
    obtain ⟨operator, others, rfl, kind, spelledOthers⟩ := tokens_of_prefixed spelled
    rw [List.cons_append, Token.matchParentheses_other (by simp [kind]) (by simp [kind])]
    rcases ih spelledOthers opened rest with matched | ⟨deep, refused⟩
    · exact .inl matched
    · exact .inr ⟨by simp only [nesting]; omega, refused⟩
  | infixed op left right before behind =>
    obtain ⟨first, operator, second, rfl, spelledLeft, kind, spelledRight⟩ :=
      tokens_of_infixed spelled
    have passed : ∀ tokens, Token.matchParentheses maxDepth opened (operator :: tokens) =
        Token.matchParentheses maxDepth opened tokens := fun tokens =>
      Token.matchParentheses_other (by simp [kind]) (by simp [kind])
    rw [List.append_assoc]
    rcases before spelledLeft opened (operator :: second ++ rest) with matched | ⟨deep, refused⟩
    · rw [matched, List.cons_append, passed]
      rcases behind spelledRight opened rest with matchedRight | ⟨deep, refused⟩
      · exact .inl matchedRight
      · exact .inr ⟨by simp only [nesting]; omega, refused⟩
    · exact .inr ⟨by simp only [nesting]; omega, refused⟩
  | choice test consequent alternate tested chosen otherwise =>
    obtain ⟨first, question, second, colon, third, rfl, spelledTest, asked, spelledConsequent,
      divided, spelledAlternate⟩ := tokens_of_choice spelled
    have split : first ++ question :: (second ++ colon :: third) ++ rest =
        first ++ (question :: (second ++ (colon :: (third ++ rest)))) := by
      simp
    rw [split]
    rcases tested spelledTest opened (question :: (second ++ (colon :: (third ++ rest)))) with
      matched | ⟨deep, refused⟩
    · rw [matched, Token.matchParentheses_other (by simp [asked]) (by simp [asked])]
      rcases chosen spelledConsequent opened (colon :: (third ++ rest)) with
        matchedConsequent | ⟨deep, refused⟩
      · rw [matchedConsequent, Token.matchParentheses_other (by simp [divided]) (by simp [divided])]
        rcases otherwise spelledAlternate opened rest with matchedAlternate | ⟨deep, refused⟩
        · exact .inl matchedAlternate
        · exact .inr ⟨by simp only [nesting]; omega, refused⟩
      · exact .inr ⟨by simp only [nesting]; omega, refused⟩
    · exact .inr ⟨by simp only [nesting]; omega, refused⟩

end Derivation

/-! ### Limits beyond the number of tokens -/

namespace Token

theorem length_of_parenthesesTooDeep {maxDepth limit : Nat} {opened : List Span}
    {tokens : List Token} {span : Span}
    (refused : matchParentheses maxDepth opened tokens = .error ⟨.parenthesesTooDeep limit, span⟩) :
    maxDepth < opened.length + tokens.length := by
  have unmatched := unmatched_of_matchParentheses refused
  clear refused
  generalize failed : (⟨.parenthesesTooDeep limit, span⟩ : SyntaxError) = error at unmatched
  induction unmatched with
  | unclosed => cases failed
  | tooDeep _ full =>
    simp only [List.length_cons]
    omega
  | unopened => cases failed
  -- One more is open, or one fewer, and one token fewer is left.
  | opens _ _ _ ih | closes _ _ ih | passes _ _ _ ih =>
    have more := ih failed
    simp only [List.length_cons] at more ⊢
    omega

end Token

namespace Phrase

variable {maxDepth : Nat}

/-- The depth with which a task starts: that of the chain so far, if there is one. -/
def Task.depth : Task → Nat
  | .links _ left => left.depth
  | _ => 0

/-- A formula takes at least as many tokens as it is deep. -/
theorem Reads.depth_le {task : Task} {cursor after : Cursor} {formula : Formula}
    (reads : Reads maxDepth task cursor formula after) (ended : cursor.EndAhead) :
    formula.depth + after.rest.length ≤ task.depth + cursor.rest.length := by
  -- Every node takes a token of its own, and a chain brings along the depth of what is read already.
  induction reads with
  | unconditional _ _ ih => exact ih ended
  | conditional testReads question _ consequentReads colon _ testRead consequentRead alternateRead =>
    have endedTest := testReads.endAhead ended
    have endedConsequent := consequentReads.endAhead endedTest.advance.enter
    have first := testRead ended
    have second := consequentRead endedTest.advance.enter
    have third := alternateRead endedConsequent.advance
    have passedQuestion := endedTest.length_advance_lt_of_kind question (by simp)
    have passedColon := endedConsequent.length_advance_lt_of_kind colon (by simp)
    simp only [Task.depth, Cursor.rest_enter, Cursor.rest_leave, Formula.depth_conditional] at *
    omega
  | chain firstReads _ first links =>
    have start := first ended
    have extended := links (firstReads.endAhead ended)
    simp only [Task.depth, Chain.ofOperand] at *
    omega
  | @chainEnds _ left _ _ => exact Nat.le_of_eq (by rw [Task.depth, left.measured])
  | @link _ left _ _ right _ _ _ operator _ rightReads _ _ rightRead links =>
    have behind := rightRead ended.advance.enter
    have extended := links (rightReads.endAhead ended.advance.enter).leave
    have passed := ended.length_advance_lt (endOfInput_of_infixAhead? operator)
    simp only [Task.depth, Chain.extend, Cursor.rest_enter, Cursor.rest_leave] at *
    omega
  | prefixed operator _ _ ih =>
    have operand := ih ended.advance.enter
    have passed := ended.length_advance_lt (endOfInput_of_prefixAhead? operator)
    simp only [Task.depth, Cursor.rest_enter, Cursor.rest_leave, Formula.depth_unary] at *
    omega
  | unprefixed _ _ ih => exact ih ended
  | uncalled _ _ ih => exact ih ended
  | @leaf cursor formula stands =>
    have passed := ended.length_advance_lt (endOfInput_of_leaf? stands)
    have flat : formula.depth = 1 := by
      cases kind : cursor.front.kind <;> rw [kind] at stands <;> cases stands <;> simp
    simp only [Task.depth]
    omega
  | @group _ _ after opened _ _ _ ih =>
    have inner := ih ended.advance.enter
    have opening := ended.length_advance_lt_of_kind opened (by simp)
    have closing := after.length_advance_le
    simp only [Task.depth, Cursor.rest_enter, Cursor.rest_leave] at *
    omega

/-- **The depth limit is met only by more tokens than it admits.** -/
theorem Fails.length_of_limitExceeded {task : Task} {cursor after : Cursor} {error : SyntaxError}
    (fails : Fails maxDepth task cursor error after) (ended : cursor.EndAhead)
    (limit : error.kind = .limitExceeded) :
    maxDepth < cursor.guard + task.depth + cursor.rest.length := by
  -- Entering a phrase raises the guard by one and takes a token, so the sum never grows on the way.
  induction fails with
  | test _ ih => exact ih ended limit
  | branchesTooDeep testRead question full =>
    have consumed := testRead.length_le
    have level := testRead.guard_eq
    have passed := (testRead.endAhead ended).length_advance_lt_of_kind question (by simp)
    simp only [Task.depth] at *
    omega
  | consequent testRead question _ _ ih =>
    have endedTest := testRead.endAhead ended
    have deep := ih endedTest.advance.enter limit
    have consumed := testRead.length_le
    have level := testRead.guard_eq
    have passed := endedTest.length_advance_lt_of_kind question (by simp)
    simp only [Task.depth, Cursor.rest_enter, Cursor.guard_enter, Cursor.guard_advance] at *
    omega
  | colonMissing => cases limit
  | @alternate _ _ _ _ chosen _ _ testRead question _ consequentRead _ _ ih =>
    have endedTest := testRead.endAhead ended
    have deep := ih (consequentRead.endAhead endedTest.advance.enter).advance limit
    have consumed := testRead.length_le
    have consumedConsequent := consequentRead.length_le
    have level := testRead.guard_eq
    have levelConsequent := consequentRead.guard_eq
    have passed := endedTest.length_advance_lt_of_kind question (by simp)
    have passedColon := chosen.length_advance_le
    simp only [Task.depth, Cursor.rest_enter, Cursor.guard_enter, Cursor.guard_advance] at *
    omega
  | first _ ih => exact ih ended limit
  | chain firstRead _ ih =>
    have deep := ih (firstRead.endAhead ended) limit
    have start := firstRead.depth_le ended
    have level := firstRead.guard_eq
    simp only [Task.depth, Chain.ofOperand] at *
    omega
  | rightTooDeep operator full =>
    have passed := ended.length_advance_lt (endOfInput_of_infixAhead? operator)
    omega
  | right operator _ _ ih =>
    have deep := ih ended.advance.enter limit
    have passed := ended.length_advance_lt (endOfInput_of_infixAhead? operator)
    simp only [Task.depth, Cursor.rest_enter, Cursor.guard_enter, Cursor.guard_advance] at *
    omega
  | chainTooDeep operator _ rightRead deep =>
    have passed := ended.length_advance_lt (endOfInput_of_infixAhead? operator)
    have behind := rightRead.depth_le ended.advance.enter
    simp only [Task.depth, Cursor.rest_enter] at *
    omega
  | link operator _ rightRead _ _ ih =>
    have deep := ih (rightRead.endAhead ended.advance.enter).leave limit
    have passed := ended.length_advance_lt (endOfInput_of_infixAhead? operator)
    have behind := rightRead.depth_le ended.advance.enter
    have level := rightRead.guard_eq
    simp only [Task.depth, Chain.extend, Cursor.rest_enter, Cursor.rest_leave, Cursor.guard_leave,
      Cursor.guard_enter, Cursor.guard_advance] at *
    omega
  | prefixTooDeep operator full =>
    have passed := ended.length_advance_lt (endOfInput_of_prefixAhead? operator)
    omega
  | prefixed operator _ _ ih =>
    have deep := ih ended.advance.enter limit
    have passed := ended.length_advance_lt (endOfInput_of_prefixAhead? operator)
    simp only [Task.depth, Cursor.rest_enter, Cursor.guard_enter, Cursor.guard_advance] at *
    omega
  | unprefixed _ _ ih => exact ih ended limit
  | operand _ ih => exact ih ended limit
  | called => cases limit
  | noOperand => cases limit
  | groupTooDeep opened full =>
    have passed := ended.length_advance_lt_of_kind opened (by simp)
    omega
  | inner opened _ _ ih =>
    have deep := ih ended.advance.enter limit
    have passed := ended.length_advance_lt_of_kind opened (by simp)
    simp only [Task.depth, Cursor.rest_enter, Cursor.guard_enter, Cursor.guard_advance] at *
    omega
  | unclosed => cases limit

end Phrase

end FieldFormula
