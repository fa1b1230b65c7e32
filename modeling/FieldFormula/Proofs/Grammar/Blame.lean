import FieldFormula.Proofs.Grammar.Soundness

/-!
# The token that an error is about

The grammar does not look beyond the tokens that it was given. The end of the input is never consumed,
so a reading that starts in front of it always has a token of the list ahead. It is such a token that an
error shows, and a name in an error is that of such a token.
-/

namespace FieldFormula

/-! ### Readings stay within their tokens -/

/-- The tokens ahead are the last ones of the list, the end of the input among them. -/
structure Cursor.Within (tokens : List Token) (cursor : Cursor) : Prop where
  remains : cursor.rest <:+ tokens
  ended : cursor.EndAhead

namespace Cursor.Within

variable {tokens : List Token} {cursor : Cursor}

theorem enter (within : cursor.Within tokens) : cursor.enter.Within tokens :=
  ⟨within.remains, within.ended⟩

theorem leave (within : cursor.Within tokens) : cursor.leave.Within tokens :=
  ⟨within.remains, within.ended⟩

theorem advance (within : cursor.Within tokens) : cursor.advance.Within tokens := by
  by_cases present : cursor.front.kind = .endOfInput
  · rwa [Cursor.advance_of_endOfInput present]
  · have consumed := within.ended.rest_eq_cons_advance present
    exact ⟨.trans ⟨[cursor.front], consumed.symm⟩ within.remains, within.ended.advance⟩

/-- There is a token of the list in front of the cursor. -/
theorem split (within : cursor.Within tokens) :
    ∃ before after, tokens = before ++ cursor.front :: after ∧
      cursor.rest = cursor.front :: after := by
  obtain ⟨before, whole⟩ := within.remains
  obtain ⟨after, ahead⟩ := within.ended.rest_eq_cons
  exact ⟨before, after, by rw [← ahead, whole], ahead⟩

theorem front_mem (within : cursor.Within tokens) : cursor.front ∈ tokens := by
  obtain ⟨before, after, whole, _⟩ := within.split
  simp [whole]

theorem kinds_subset (within : cursor.Within tokens) : cursor.kinds ⊆ tokens.map Token.kind :=
  List.map_subset _ within.remains.subset

/-- All tokens are ahead in front of them. -/
theorem start (ended : .endOfInput ∈ tokens.map Token.kind) : (Cursor.start tokens).Within tokens :=
  ⟨List.suffix_rfl, ended⟩

end Cursor.Within

/-- A tree that stands for a name alone spells the name. -/
theorem Derivation.identifier_mem_kinds {tree : Derivation} {name : String}
    (stands : tree.formula = .identifier name) : .identifier name ∈ tree.kinds := by
  induction tree with
  | constant value => cases stands
  | identifier other =>
    cases stands
    exact .head _
  | group inner ih => simp [kinds, ih stands]
  | prefixed op operand => cases stands
  | infixed op left right => cases op <;> cases stands
  | choice test consequent alternate => cases stands

namespace Phrase

variable {maxDepth : Nat} {tokens : List Token} {task : Task} {cursor after : Cursor}

theorem Reads.within {formula : Formula} (reads : Reads maxDepth task cursor formula after)
    (within : cursor.Within tokens) : after.Within tokens := by
  induction reads with
  | unconditional _ _ test => exact test within
  | conditional _ _ _ _ _ _ test consequent alternate =>
    exact (alternate (consequent (test within).advance.enter).advance).leave
  | chain _ _ first links => exact links (first within)
  | chainEnds _ => exact within
  | link _ _ _ _ _ right links => exact links (right within.advance.enter).leave
  | prefixed _ _ _ operand => exact (operand within.advance.enter).leave
  | unprefixed _ _ primary => exact primary within
  | uncalled _ _ operand => exact operand within
  | leaf _ => exact within.advance
  | group _ _ _ _ inner => exact (inner within.advance.enter).advance.leave

/-- A name that is read as an operand is one of the tokens. -/
theorem Reads.identifier_mem {formula : Formula} {name : String}
    (reads : Reads maxDepth .operand cursor formula after) (within : cursor.Within tokens)
    (named : formula.identifier? = some name) : .identifier name ∈ tokens.map Token.kind := by
  obtain ⟨tree, _, stands, spelled⟩ := reads.sound within.ended
  have alone : formula = .identifier name := by
    cases formula <;> cases named
    rfl
  refine within.kinds_subset (spelled ▸ List.mem_append_left _ ?_)
  exact Derivation.identifier_mem_kinds (stands.trans alone)

/-! ### What the grammar reports -/

/-- The error shows a token of the list, and what it says of it is so. -/
inductive Blames (maxDepth : Nat) (tokens : List Token) : SyntaxError → Prop
  | unexpected {token} (occurs : token ∈ tokens) (wanted : SyntaxError.Wanted) :
    Blames maxDepth tokens ⟨.unexpected token.kind wanted, token.span⟩
  | call {token callee} (occurs : token ∈ tokens)
    (named : ∀ name, callee = some name → .identifier name ∈ tokens.map Token.kind) :
    Blames maxDepth tokens ⟨.call callee, token.span⟩
  | nestingTooDeep {token} (occurs : token ∈ tokens) :
    Blames maxDepth tokens ⟨.nestingTooDeep maxDepth, token.span⟩
  | chainTooDeep {token} (occurs : token ∈ tokens) :
    Blames maxDepth tokens ⟨.chainTooDeep maxDepth, token.span⟩

theorem Blames.span_mem {error : SyntaxError} (blames : Blames maxDepth tokens error) :
    error.span ∈ tokens.map Token.span := by
  cases blames with
  | unexpected occurs wanted => exact List.mem_map_of_mem occurs
  | call occurs named => exact List.mem_map_of_mem occurs
  | nestingTooDeep occurs => exact List.mem_map_of_mem occurs
  | chainTooDeep occurs => exact List.mem_map_of_mem occurs

/-- **A reading that fails blames a token ahead of it.** -/
theorem Fails.blames {error : SyntaxError} (fails : Fails maxDepth task cursor error after)
    (within : cursor.Within tokens) : Blames maxDepth tokens error := by
  -- What has been read before the failure leaves the cursor within the tokens.
  induction fails with
  | test _ ih => exact ih within
  | branchesTooDeep testRead => exact .nestingTooDeep (testRead.within within).front_mem
  | consequent testRead _ _ _ ih => exact ih (testRead.within within).advance.enter
  | colonMissing testRead _ _ consequentRead =>
    exact .unexpected (consequentRead.within (testRead.within within).advance.enter).front_mem _
  | alternate testRead _ _ consequentRead _ _ ih =>
    exact ih (consequentRead.within (testRead.within within).advance.enter).advance
  | first _ ih => exact ih within
  | chain firstRead _ ih => exact ih (firstRead.within within)
  | rightTooDeep => exact .nestingTooDeep within.front_mem
  | right _ _ _ ih => exact ih within.advance.enter
  | chainTooDeep => exact .chainTooDeep within.front_mem
  | link _ _ rightRead _ _ ih => exact ih (rightRead.within within.advance.enter).leave
  | prefixTooDeep => exact .nestingTooDeep within.front_mem
  | prefixed _ _ _ ih => exact ih within.advance.enter
  | unprefixed _ _ ih => exact ih within
  | operand _ ih => exact ih within
  | called operandRead =>
    exact .call (operandRead.within within).front_mem fun _ => operandRead.identifier_mem within
  | noOperand => exact .unexpected within.front_mem _
  | groupTooDeep => exact .nestingTooDeep within.front_mem
  | inner _ _ _ ih => exact ih within.advance.enter
  | unclosed _ _ innerRead =>
    exact .unexpected (innerRead.within within.advance.enter).front_mem _

theorem endError_blames {token : Token} (occurs : token ∈ tokens) :
    Blames maxDepth tokens (endError token) := by
  unfold endError
  split
  · exact .call occurs fun name impossible => by cases impossible
  · exact .unexpected occurs _

end Phrase

/-- **An error of the grammar blames a token.** -/
theorem Formula.blames_of_ofTokens {maxDepth : Nat} {tokens : List Token} {error : SyntaxError}
    (ended : .endOfInput ∈ tokens.map Token.kind)
    (failed : ofTokens maxDepth tokens = .error error) : Phrase.Blames maxDepth tokens error := by
  have within := Cursor.Within.start ended
  rcases ofTokens_eq_error_iff.1 failed with ⟨after, fails⟩ | ⟨formula, after, reads, _, rfl⟩
  · exact fails.blames within
  · exact Phrase.endError_blames (reads.within within).front_mem

end FieldFormula
