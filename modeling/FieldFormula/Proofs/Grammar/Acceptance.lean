import FieldFormula.Proofs.Alphabet
import FieldFormula.Proofs.Grammar.DepthLimit
import FieldFormula.Proofs.Grammar.Soundness
import FieldFormula.Proofs.Scanning
import FieldFormula.Proofs.Stages
import Mathlib.Data.List.Basic

/-!
# The accepted texts

A text is accepted exactly if the grammar derives its tokens, and its formula is that of the
derivation. Soundness and completeness of the reader make both directions; what is added here are
the stages around it, each of which can refuse a derived text only for a limit.

`parse_eq_ok_iff_derived` is the result for limits that are not met, and says which limits surely
are not.
-/

namespace FieldFormula

namespace Derivation

/-- The tree is one of the grammar for all tokens but the one for the end of the input. -/
structure IsOf (tree : Derivation) (tokens : List Token) : Prop where
  derives : Derives .expression tree
  spelled : tree.kinds ++ [.endOfInput] = tokens.map Token.kind

/-- The text and the tree are within the limits. -/
structure FitsIn (tree : Derivation) (limits : Limits) (text : List Char) : Prop where
  short : text.length ≤ limits.maxCharacters
  flat : tree.nesting ≤ limits.maxDepth
  shallow : tree.formula.depth ≤ limits.maxDepth

theorem endOfInput_notMem_kinds (tree : Derivation) : .endOfInput ∉ tree.kinds := by
  induction tree with
  | constant value => cases value <;> simp [kinds, Literal.tokenKind]
  | identifier name => simp [kinds]
  | group inner ih => simp [kinds, ih]
  | prefixed op operand ih => simp [kinds, ih]
  | infixed op left right before behind => simp [kinds, before, behind]
  | choice test consequent alternate tested chosen otherwise =>
    simp [kinds, tested, chosen, otherwise]

theorem kinds_ne_nil (tree : Derivation) : tree.kinds ≠ [] := by
  cases tree <;> simp [kinds]

theorem IsOf.split {tree : Derivation} {tokens : List Token} (derived : tree.IsOf tokens) :
    ∃ own ending, tokens = own ++ [ending] ∧ own.map Token.kind = tree.kinds ∧
      ending.kind = .endOfInput := by
  obtain ⟨own, last, rfl, spelled, spelledLast⟩ := List.map_eq_append_iff.1 derived.spelled.symm
  obtain ⟨ending, rfl, ended⟩ := tokens_of_leaf spelledLast
  exact ⟨own, ending, rfl, spelled, ended⟩

theorem IsOf.length_eq {tree : Derivation} {tokens : List Token} (derived : tree.IsOf tokens) :
    tokens.length = tree.kinds.length + 1 := by
  have lengths := congrArg List.length derived.spelled
  simpa using lengths.symm

theorem IsOf.several {tree : Derivation} {tokens : List Token} (derived : tree.IsOf tokens) :
    1 < tokens.length := by
  have some_token := List.length_pos_iff.2 tree.kinds_ne_nil
  have counted := derived.length_eq
  omega

end Derivation

namespace Formula

/-! ### The grammar and the reader -/

/-- What is left where a reading of all tokens stops is the end of the input alone. -/
theorem kinds_of_endOfInput {tree : Derivation} {tokens : List Token} {after : Cursor}
    {offset : Nat} {text : List Char} (scans : Token.Scans offset text tokens)
    (spelled : tree.kinds ++ after.kinds = tokens.map Token.kind) (endAhead : after.EndAhead)
    (ended : after.front.kind = .endOfInput) : after.kinds = [.endOfInput] := by
  obtain ⟨kinds, whole, absent⟩ := scans.kinds_eq_append
  obtain ⟨others, left⟩ := endAhead.rest_eq_cons
  have shape : after.kinds = .endOfInput :: others.map Token.kind := by
    rw [Cursor.kinds, left, List.map_cons, ended]
  rw [whole, shape] at spelled
  have parts := (List.append_cons_inj_of_notMem absent List.not_mem_nil).1 spelled.symm
  rw [shape, ← parts.2.2]

theorem derived_of_ofTokens {maxDepth offset : Nat} {text : List Char} {tokens : List Token}
    {formula : Formula} (scans : Token.Scans offset text tokens)
    (read : ofTokens maxDepth tokens = .ok formula) :
    ∃ tree : Derivation, tree.IsOf tokens ∧ tree.formula = formula := by
  obtain ⟨after, reads, ended⟩ := ofTokens_eq_ok_iff.1 read
  have endAhead : (Cursor.start tokens).EndAhead := scans.endOfInput_mem
  obtain ⟨tree, derives, stands, spelled⟩ := reads.sound endAhead
  have left := kinds_of_endOfInput scans spelled (reads.endAhead endAhead) ended
  exact ⟨tree, ⟨derives, by rw [← left]; exact spelled⟩, stands⟩

/-- **Tokens that are derived are read**, or too deep. -/
theorem ofTokens_of_derived {maxDepth : Nat} {tokens : List Token} {tree : Derivation}
    (derived : tree.IsOf tokens) :
    (tree.nesting ≤ maxDepth ∧ ofTokens maxDepth tokens = .ok tree.formula) ∨
      tree.TooDeep maxDepth 0 ∧
        ∃ error, ofTokens maxDepth tokens = .error error ∧ error.kind = .limitExceeded := by
  obtain ⟨own, ending, rfl, spelled, ended⟩ := derived.split
  have ends : Phrase.MayFollow .expression ending :=
    Phrase.mayFollow_expression (by simp [ended]) (by simp [ended]) (by simp [ended])
  rcases Phrase.complete_of_derives derived.derives own [ending] _ 0 (Nat.zero_le _) spelled ends with
    ⟨fits, reads⟩ | ⟨deep, error, after, fails, limit⟩
  · exact .inl ⟨by simpa using fits, ofTokens_eq_ok_iff.2 ⟨_, reads, ended⟩⟩
  · exact .inr ⟨deep, error, ofTokens_eq_error_iff.2 (.inl ⟨after, fails⟩), limit⟩

theorem checkParentheses_of_derived {maxDepth : Nat} {tokens : List Token} {tree : Derivation}
    (derived : tree.IsOf tokens) :
    Token.checkParentheses maxDepth tokens = .ok () ∨
      maxDepth < tree.nesting ∧
        ∃ span, Token.checkParentheses maxDepth tokens =
          .error ⟨.parenthesesTooDeep maxDepth, span⟩ := by
  obtain ⟨own, ending, rfl, spelled, ended⟩ := derived.split
  rcases Derivation.matchParentheses_of_spelled spelled [] [ending] with matched | ⟨deep, refused⟩
  · refine .inl (matched.trans ?_)
    exact Token.matchParentheses_other (by simp [ended]) (by simp [ended])
  · exact .inr ⟨by simpa using deep, refused⟩

/-! ### The grammar and the stages -/

/-- **A derived text within the limits yields the formula of its tree.** -/
theorem ofChars_of_derived {limits : Limits} {text : List Char} {tokens : List Token}
    {tree : Derivation} (scanned : Token.scan limits text = .ok tokens)
    (derived : tree.IsOf tokens) (fits : tree.FitsIn limits text) :
    ofChars limits text = .ok tree.formula := by
  obtain ⟨_, scans, _⟩ := Token.scan_eq_ok_iff.1 scanned
  have flat := fits.flat
  have shallow := fits.shallow
  have matched : Token.checkParentheses limits.maxDepth tokens = .ok () := by
    rcases checkParentheses_of_derived derived with matched | ⟨deep, _⟩
    · exact matched
    · omega
  have read : ofTokens limits.maxDepth tokens = .ok tree.formula := by
    rcases ofTokens_of_derived derived with ⟨_, read⟩ | ⟨deep, _⟩
    · exact read
    · simp only [Derivation.TooDeep] at deep
      omega
  have accepted : AcceptedAs limits text tree.formula tokens :=
    ⟨fits.short, scans.not_allBlank derived.several, scanned, matched, read, shallow⟩
  exact accepted.ofChars_eq

/-- **A derived text outside the limits is refused for a limit.** -/
theorem ofChars_of_derived_of_not_fits {limits : Limits} {text : List Char} {tokens : List Token}
    {tree : Derivation} (scanned : Token.scan limits text = .ok tokens)
    (derived : tree.IsOf tokens) (exceeds : ¬ tree.FitsIn limits text) :
    ∃ error, ofChars limits text = .error error ∧ error.kind = .limitExceeded := by
  obtain ⟨_, scans, _⟩ := Token.scan_eq_ok_iff.1 scanned
  by_cases short : text.length ≤ limits.maxCharacters
  · have shown := scans.not_allBlank derived.several
    rcases @checkParentheses_of_derived limits.maxDepth _ _ derived with
      matched | ⟨_, span, unmatched⟩
    · rcases @ofTokens_of_derived limits.maxDepth _ _ derived with
        ⟨flat, read⟩ | ⟨_, error, unread, limit⟩
      · have deep : limits.maxDepth < tree.formula.depth :=
          Nat.lt_of_not_le fun shallow => exceeds ⟨short, flat, shallow⟩
        exact ⟨_, (RejectedBy.depth short shown scanned matched read deep).ofChars_eq, rfl⟩
      · exact ⟨error, (RejectedBy.grammar short shown scanned matched unread).ofChars_eq, limit⟩
    · exact ⟨_, (RejectedBy.parentheses short shown scanned unmatched).ofChars_eq, rfl⟩
  · exact ⟨_, (RejectedBy.length (Nat.lt_of_not_le short)).ofChars_eq, rfl⟩

theorem derived_of_ofChars {limits : Limits} {text : List Char} {tokens : List Token}
    {formula : Formula} (scanned : Token.scan limits text = .ok tokens)
    (read : ofChars limits text = .ok formula) :
    ∃ tree : Derivation, tree.IsOf tokens ∧ tree.formula = formula := by
  obtain ⟨others, accepted⟩ := ofChars_eq_ok_iff.1 read
  obtain ⟨_, scans, _⟩ := Token.scan_eq_ok_iff.1 scanned
  have same : others = tokens := Except.ok.inj (accepted.scanned.symm.trans scanned)
  exact derived_of_ofTokens scans (same ▸ accepted.read)

/-- A depth limit not below the number of tokens is never exceeded. -/
theorem kind_ne_limitExceeded {limits : Limits} {text : List Char} {tokens : List Token}
    {error : SyntaxError} (scanned : Token.scan limits text = .ok tokens)
    (short : text.length ≤ limits.maxCharacters) (roomy : tokens.length ≤ limits.maxDepth)
    (failed : ofChars limits text = .error error) : error.kind ≠ .limitExceeded := by
  intro limit
  obtain ⟨_, scans, _⟩ := Token.scan_eq_ok_iff.1 scanned
  have endAhead : (Cursor.start tokens).EndAhead := scans.endOfInput_mem
  cases ofChars_eq_error_iff.1 failed with
  | length long => omega
  | blank _ _ => cases limit
  | scan _ _ unscanned =>
    rw [scanned] at unscanned
    cases unscanned
  | parentheses _ _ others unmatched =>
    have same := Except.ok.inj (others.symm.trans scanned)
    subst same
    rcases Token.matchParentheses_error unmatched with deep | other | other
    · obtain ⟨cause, span⟩ := error
      subst deep
      have many := Token.length_of_parenthesesTooDeep unmatched
      simp only [List.length_nil] at many
      omega
    · simp [SyntaxError.kind, other, SyntaxError.Cause.kind] at limit
    · simp [SyntaxError.kind, other, SyntaxError.Cause.kind] at limit
  | grammar _ _ others _ unread =>
    have same := Except.ok.inj (others.symm.trans scanned)
    subst same
    rcases ofTokens_eq_error_iff.1 unread with ⟨after, fails⟩ | ⟨_, after, _, _, rfl⟩
    · have many := fails.length_of_limitExceeded endAhead limit
      simp only [Phrase.Task.depth, Cursor.rest_start, Cursor.guard_start] at many
      omega
    · -- A token behind the formula is unexpected, or a call, but beyond no limit.
      unfold Phrase.endError at limit
      split at limit <;> cases limit
  | depth _ _ others _ read deep =>
    have same := Except.ok.inj (others.symm.trans scanned)
    subst same
    obtain ⟨after, reads, _⟩ := ofTokens_eq_ok_iff.1 read
    have tokensSuffice := reads.depth_le endAhead
    simp only [Phrase.Task.depth, Cursor.rest_start] at tokensSuffice
    omega

/-! ### Acceptance -/

/-- **The reader accepts exactly the grammar.** Let a text be scanned. Limits with room for all its
characters and with a depth that its tokens cannot reach are never exceeded. Whenever no limit is
exceeded, the text yields a formula if and only if the grammar derives its tokens; the formula is
that of the derivation, so all derivations of the tokens stand for the same one; and a text without
a derivation is an error. -/
theorem parse_eq_ok_iff_derived {limits : Limits} {source : String} {tokens : List Token}
    (scanned : Token.scan limits source.toList = .ok tokens) :
    (source.toList.length ≤ limits.maxCharacters → tokens.length ≤ limits.maxDepth →
      ∀ error, parse limits source = .error error → error.kind ≠ .limitExceeded) ∧
    ((∀ error, parse limits source = .error error → error.kind ≠ .limitExceeded) →
      (∀ formula, parse limits source = .ok formula ↔
        ∃ tree : Derivation, Derives .expression tree ∧
          tree.kinds ++ [.endOfInput] = tokens.map Token.kind ∧ tree.formula = formula) ∧
      ((¬ ∃ tree : Derivation, Derives .expression tree ∧
          tree.kinds ++ [.endOfInput] = tokens.map Token.kind) →
        ∃ error, parse limits source = .error error)) := by
  have accepts (formula : Formula) (read : parse limits source = .ok formula) :
      ∃ tree : Derivation, Derives .expression tree ∧
        tree.kinds ++ [.endOfInput] = tokens.map Token.kind ∧ tree.formula = formula := by
    obtain ⟨tree, derived, stands⟩ := derived_of_ofChars scanned read
    exact ⟨tree, derived.derives, derived.spelled, stands⟩
  refine ⟨fun short roomy error failed => kind_ne_limitExceeded scanned short roomy failed,
    fun noLimit => ⟨fun formula => ⟨accepts formula, ?_⟩, fun underived => ?_⟩⟩
  · rintro ⟨tree, derives, spelled, rfl⟩
    have derived : tree.IsOf tokens := ⟨derives, spelled⟩
    by_cases fits : tree.FitsIn limits source.toList
    · exact ofChars_of_derived scanned derived fits
    · -- Outside the limits the text is refused for one, and none was to be exceeded.
      obtain ⟨error, refused, limit⟩ := ofChars_of_derived_of_not_fits scanned derived fits
      exact absurd limit (noLimit error refused)
  · cases read : parse limits source with
    | error error => exact ⟨error, rfl⟩
    | ok formula =>
      obtain ⟨tree, derives, spelled, _⟩ := accepts formula read
      exact absurd ⟨tree, derives, spelled⟩ underived

/-- A chain groups to the left, and a prefix operator belongs to its operand alone. -/
theorem parse_eq_ok_iff_derived_chain :
    ∃ tokens, Token.scan {} "a - b - -c".toList = .ok tokens ∧
      ∃ tree : Derivation, Derives .expression tree ∧
        tree.kinds ++ [.endOfInput] = tokens.map Token.kind ∧
        tree.formula = .binary .subtract (.binary .subtract (.identifier "a") (.identifier "b"))
          (.unary .negate (.identifier "c")) := by
  have scanned : Token.scan {} "a - b - -c".toList =
      .ok [⟨.identifier "a", ⟨0, 1⟩⟩, ⟨.operator "-", ⟨2, 3⟩⟩, ⟨.identifier "b", ⟨4, 5⟩⟩,
        ⟨.operator "-", ⟨6, 7⟩⟩, ⟨.operator "-", ⟨8, 9⟩⟩, ⟨.identifier "c", ⟨9, 10⟩⟩,
        ⟨.endOfInput, ⟨10, 10⟩⟩] := by
    decide +kernel
  obtain ⟨ample, agrees⟩ := parse_eq_ok_iff_derived scanned
  have noLimit := ample (by decide) (by decide)
  have read : parse {} "a - b - -c" = .ok (.binary .subtract
      (.binary .subtract (.identifier "a") (.identifier "b")) (.unary .negate (.identifier "c"))) := by
    decide +kernel
  exact ⟨_, scanned, ((agrees noLimit).1 _).1 read⟩

end Formula

end FieldFormula
