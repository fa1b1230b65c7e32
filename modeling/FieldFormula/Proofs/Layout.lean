import FieldFormula.Proofs.Grammar.Lookahead
import FieldFormula.Proofs.Tiling
import Mathlib.Data.List.Forall2

/-!
# Layout does not matter

The texts of the tokens determine what a source means. If they are written again with other blanks
around them, at least one between two of them, every token is found again: blanks continue none, also
where the tokens touched before. From then on only the kinds of the tokens matter, and spans are used
for nothing but to say where an error is.

## Main result

`parse_of_respaced`: a source and its respaced text yield the same formula, or errors with the same
kind and message.
-/

namespace FieldFormula

/-! ### Other blanks -/

/-- The texts in their order with blanks behind each, which may be missing behind the last one. -/
inductive SpacedOut : List String → String → Prop
  | nothing : SpacedOut [] ""
  | next {text blanks texts rest} (white : Text.allBlank blanks.toList = true)
    (apart : texts ≠ [] → blanks ≠ "") (later : SpacedOut texts rest) :
    SpacedOut (text :: texts) (text ++ blanks ++ rest)

/-- The texts in their order with blanks between them, and maybe before and behind them. -/
def Respaced (texts : List String) (source : String) : Prop :=
  ∃ blanks spaced, source = blanks ++ spaced ∧ Text.allBlank blanks.toList = true ∧
    SpacedOut texts spaced

theorem allAllowed_of_allBlank {text : List Char} (white : Text.allBlank text = true) :
    AllAllowed text := by
  intro c member
  exact Text.isAllowed_of_isBlank (List.all_eq_true.1 white c member)

theorem SpacedOut.allAllowed {texts : List String} {source : String}
    (spaced : SpacedOut texts source) (allowed : ∀ text ∈ texts, AllAllowed text.toList) :
    AllAllowed source.toList := by
  induction spaced with
  | nothing => exact fun c member => by cases member
  | next white _ _ ih =>
    rw [String.toList_append, String.toList_append]
    exact allAllowed_append (allAllowed_append (allowed _ (.head _)) (allAllowed_of_allBlank white))
      (ih fun text member => allowed text (.tail _ member))

namespace Token

/-! ### The tokens are found again -/

theorem Lexes.blanks {kinds : List Kind} {text : List Char} (lexes : Lexes text kinds) :
    ∀ {blanks : List Char}, Text.allBlank blanks = true → Lexes (blanks ++ text) kinds
  | [], _ => lexes
  | c :: blanks, white => by
    have parts : Text.isBlank c = true ∧ Text.allBlank blanks = true := by
      simpa [Text.allBlank] using white
    exact (lexes.blanks parts.2).blank parts.1

/-- **A blank ends every token**, as does the end of the text. -/
theorem Kind.Written.endsBefore {kind : Kind} {taken behind : List Char}
    (written : kind.Written taken) (white : ∀ c ∈ behind.head?, Text.isBlank c = true) :
    kind.EndsBefore behind := by
  have ended : EndsWord behind := by
    cases behind with
    | nil => exact endsWord_nil
    | cons c rest => exact endsWord_blank (white c rfl) rest
  cases written with
  | sign listed => exact endsBefore_of_sign listed behind
  | @operator symbol listed =>
    intro other listedOther starts
    have noEquals : behind.head? ≠ some '=' := fun equals => absurd (white '=' equals) (by decide)
    have within := ((isPrefix_append_iff listed listedOther noEquals).1 starts).length_le
    simpa only [String.length_toList] using within
  | identifier valid => exact ended.endsName
  | boolean value => exact ended.endsName
  | text quote noMark => trivial
  | number _ _ _ _ _ => exact endsBefore_number ended

/-- **Spaced out texts are scanned as the tokens that they spell.** -/
theorem lexes_of_spacedOut {texts : List String} {source : String} (spaced : SpacedOut texts source)
    {kinds : List Kind} (written : List.Forall₂ (fun text kind => Kind.Written kind text.toList)
      texts kinds) : Lexes source.toList (kinds ++ [.endOfInput]) := by
  induction spaced generalizing kinds with
  | nothing =>
    cases written
    exact lexes_nil
  | @next text blanks texts rest white apart later ih =>
    cases written with
    | cons spelled others =>
      have behind := (ih others).blanks white
      rw [String.toList_append, String.toList_append, List.append_assoc, List.cons_append]
      refine behind.token (spells_of_written spelled (spelled.endsBefore fun c first => ?_))
      cases characters : blanks.toList with
      | cons d more =>
        rw [characters] at white first
        simp [Text.allBlank] at white first
        exact first ▸ white.1
      | nil =>
        -- Without blanks behind it the text is the last one, so nothing at all follows it.
        have empty : blanks = "" := String.toList_eq_nil_iff.1 characters
        have last : texts = [] := by
          by_contra more
          exact apart more empty
        subst last
        cases later
        simp [characters] at first

theorem CutFrom.textIn_eq {token : Token} {source : String} (cut : token.CutFrom source.toList) :
    ∃ part, token.span.textIn source = String.ofList part ∧ part ⊆ source.toList ∧
      token.kind.Written part := by
  obtain ⟨before, part, after, split, span, _, written, _⟩ := cut
  refine ⟨part, ?_, ?_, written⟩
  · rw [span, Span.textIn_eq split]
  · rw [split]
    exact fun c inside => List.mem_append_right _ (List.mem_append_left _ inside)

/-- **A respaced source has tokens of the same kinds.** -/
theorem scan_respaced {limits : Limits} {source respaced : String} {tokens : List Token}
    (scanned : scan limits source.toList = .ok tokens)
    (layout : Respaced (tokens.dropLast.map fun token => token.span.textIn source) respaced) :
    ∃ others, scan limits respaced.toList = .ok others ∧ others.map kind = tokens.map kind := by
  obtain ⟨allowed, scans, few⟩ := scan_eq_ok_iff.1 scanned
  obtain ⟨own, rfl, cut⟩ := scans.cutFrom (leftOf_self _)
  rw [List.dropLast_concat] at layout
  obtain ⟨blanks, spaced, rfl, white, spacedOut⟩ := layout
  have written : List.Forall₂ (fun text kind => Kind.Written kind text.toList)
      (own.map fun token => token.span.textIn source) (own.map kind) := by
    rw [List.forall₂_map_left_iff, List.forall₂_map_right_iff, List.forall₂_same]
    intro token member
    obtain ⟨part, shows, _, spelled⟩ := (cut token member).2.textIn_eq
    rwa [shows, String.toList_ofList]
  have allowedTexts : ∀ text ∈ own.map fun token => token.span.textIn source,
      AllAllowed text.toList := by
    intro text member
    obtain ⟨token, inside, rfl⟩ := List.mem_map.1 member
    obtain ⟨part, shows, within, _⟩ := (cut token inside).2.textIn_eq
    rw [shows, String.toList_ofList]
    exact fun c there => allowed c (within there)
  obtain ⟨others, otherScans, same⟩ := ((lexes_of_spacedOut spacedOut written).blanks white) 0
  refine ⟨others, scan_eq_ok_iff.2 ⟨?_, ?_, ?_⟩, by simpa using same⟩
  · rw [String.toList_append]
    exact allAllowed_append (allAllowed_of_allBlank white) (spacedOut.allAllowed allowedTexts)
  · rwa [String.toList_append]
  · have lengths := congrArg List.length same
    simp only [List.length_map, List.length_append, List.length_singleton] at lengths few
    rwa [lengths]

end Token

/-! ### Results up to places -/

/-- The results differ at most in where an error is. -/
inductive SameButPlace {α : Type} : Except SyntaxError α → Except SyntaxError α → Prop
  | ok (value : α) : SameButPlace (.ok value) (.ok value)
  | error {error other : SyntaxError} (same : other.cause = error.cause) :
    SameButPlace (.error error) (.error other)

namespace SameButPlace

variable {α β : Type}

theorem bind {first other : Except SyntaxError α} {next otherNext : α → Except SyntaxError β}
    (here : SameButPlace first other)
    (later : ∀ value, SameButPlace (next value) (otherNext value)) :
    SameButPlace (first >>= next) (other >>= otherNext) := by
  cases here with
  | ok value => exact later value
  | error same => exact .error same

theorem ok_iff {first other : Except SyntaxError α} (same : SameButPlace first other) (value : α) :
    other = .ok value ↔ first = .ok value := by
  cases same with
  | ok value => rfl
  | error _ => simp

theorem exists_error {first other : Except SyntaxError α} {error : SyntaxError}
    (same : SameButPlace first other) (failed : first = .error error) :
    ∃ otherError, other = .error otherError ∧ otherError.cause = error.cause := by
  cases same with
  | ok value => cases failed
  | error same =>
    cases failed
    exact ⟨_, rfl, same⟩

end SameButPlace

variable {limits : Limits} {maxDepth : Nat} {tokens others : List Token}

namespace Token

/-- How many parentheses are open matters, but not where. -/
theorem matchParentheses_sameButPlace {opened otherOpened : List Span}
    (same : others.map kind = tokens.map kind) (asMany : otherOpened.length = opened.length) :
    SameButPlace (matchParentheses maxDepth opened tokens)
      (matchParentheses maxDepth otherOpened others) := by
  induction tokens generalizing others opened otherOpened with
  | nil =>
    obtain rfl := List.map_eq_nil_iff.1 same
    cases opened with
    | nil =>
      obtain rfl := List.length_eq_zero_iff.1 asMany
      exact .ok ()
    | cons innermost outer =>
      obtain ⟨otherInnermost, otherOuter, rfl⟩ := List.exists_cons_of_length_eq_add_one asMany
      exact .error rfl
  | cons token rest ih =>
    obtain ⟨other, otherRest, rfl, sameKind, sameRest⟩ := List.map_eq_cons_iff.1 same
    by_cases opening : token.kind = .openParen
    · have otherOpening := sameKind.trans opening
      by_cases room : opened.length < maxDepth
      · rw [matchParentheses_openParen opening room,
          matchParentheses_openParen otherOpening (asMany ▸ room)]
        exact ih sameRest (congrArg (· + 1) asMany)
      · have full := Nat.le_of_not_lt room
        rw [matchParentheses_openParen_full opening full,
          matchParentheses_openParen_full otherOpening (asMany ▸ full)]
        exact .error rfl
    · by_cases closing : token.kind = .closeParen
      · have otherClosing := sameKind.trans closing
        cases opened with
        | nil =>
          obtain rfl := List.length_eq_zero_iff.1 asMany
          rw [matchParentheses_closeParen_unmatched closing,
            matchParentheses_closeParen_unmatched otherClosing]
          exact .error rfl
        | cons innermost outer =>
          obtain ⟨otherInnermost, otherOuter, rfl⟩ := List.exists_cons_of_length_eq_add_one asMany
          rw [matchParentheses_closeParen closing, matchParentheses_closeParen otherClosing]
          exact ih sameRest (Nat.succ.inj asMany)
      · rw [matchParentheses_other opening closing,
          matchParentheses_other (sameKind ▸ opening) (sameKind ▸ closing)]
        exact ih sameRest asMany

end Token

namespace Formula

theorem ofTokens_sameButPlace (same : others.map Token.kind = tokens.map Token.kind)
    (ended : .endOfInput ∈ tokens.map Token.kind) :
    SameButPlace (ofTokens maxDepth tokens) (ofTokens maxDepth others) := by
  cases read : ofTokens maxDepth tokens with
  | ok formula =>
    rw [ofTokens_of_kinds_eq read same ended]
    exact .ok formula
  | error error =>
    obtain ⟨reached, _, _, alike⟩ := ofTokens_failsAt read ended
    obtain ⟨otherError, otherUnread, sameCause⟩ :=
      alike (Cursor.parallel_of_kinds_eq same ended) (Nat.zero_le _)
    rw [otherUnread]
    exact .error sameCause

theorem checkDepth_sameButPlace (text otherText : List Char) (formula : Formula) :
    SameButPlace (checkDepth limits text formula) (checkDepth limits otherText formula) := by
  unfold checkDepth
  split
  · exact .error rfl
  · exact .ok ()

/-- What is left to be done once the tokens are known. -/
theorem ofChars_of_scan {text : List Char} (short : text.length ≤ limits.maxCharacters)
    (scanned : Token.scan limits text = .ok tokens) (several : 1 < tokens.length) :
    ofChars limits text = (do
      Token.checkParentheses limits.maxDepth tokens
      let formula ← ofTokens limits.maxDepth tokens
      checkDepth limits text formula
      return formula) := by
  obtain ⟨_, scans, _⟩ := Token.scan_eq_ok_iff.1 scanned
  rw [ofChars, checkSource_of_short short (scans.not_allBlank several), scanned]
  rfl

/-- **Layout does not matter.** Let a source be scanned into at least one token, and let its token
texts be written again in their order with any blanks before, between and behind them, of which only
those between two texts must not be missing. If both are short enough, the other source yields a
formula exactly if this one yields it, and fails with the same kind and message if this one fails. -/
theorem parse_of_respaced {source respaced : String}
    (scanned : Token.scan limits source.toList = .ok tokens) (several : 1 < tokens.length)
    (layout : Respaced (tokens.dropLast.map fun token => token.span.textIn source) respaced)
    (short : source.toList.length ≤ limits.maxCharacters)
    (shortRespaced : respaced.toList.length ≤ limits.maxCharacters) :
    (∀ formula, parse limits respaced = .ok formula ↔ parse limits source = .ok formula) ∧
    ∀ error, parse limits source = .error error →
      ∃ other, parse limits respaced = .error other ∧ other.kind = error.kind ∧
        other.cause.message = error.cause.message := by
  obtain ⟨_, scans, _⟩ := Token.scan_eq_ok_iff.1 scanned
  obtain ⟨others, otherScanned, same⟩ := Token.scan_respaced scanned layout
  have asMany : others.length = tokens.length := by
    simpa only [List.length_map] using congrArg List.length same
  have sameButPlace : SameButPlace (parse limits source) (parse limits respaced) := by
    rw [parse, parse, ofChars_of_scan short scanned several,
      ofChars_of_scan shortRespaced otherScanned (asMany ▸ several)]
    refine (Token.matchParentheses_sameButPlace same rfl).bind fun _ => ?_
    refine (ofTokens_sameButPlace same scans.endOfInput_mem).bind fun formula => ?_
    exact (checkDepth_sameButPlace _ _ formula).bind fun _ => .ok formula
  refine ⟨sameButPlace.ok_iff, fun error failed => ?_⟩
  obtain ⟨other, otherFailed, sameCause⟩ := sameButPlace.exists_error failed
  refine ⟨other, otherFailed, ?_, congrArg SyntaxError.Cause.message sameCause⟩
  exact congrArg SyntaxError.Cause.kind sameCause

/-- Touching tokens moved apart by blanks of several bytes, with an error at the last one. -/
theorem parse_of_respaced_touching :
    parse {} "a<-.5'x'" = .error ⟨.unexpected (.text "x") .operatorOrEnd, ⟨5, 8⟩⟩ ∧
      Respaced ["a", "<", "-", ".5", "'x'"] "\u2003a\u3000< -\n.5\u00a0'x'" ∧
      ∃ other, parse {} "\u2003a\u3000< -\n.5\u00a0'x'" = .error other ∧
        other.kind = .unexpectedToken ∧
        other.cause.message =
          "unexpected string \"x\"; expected an operator or end of expression" := by
  let tokens : List Token := [⟨.identifier "a", ⟨0, 1⟩⟩, ⟨.operator "<", ⟨1, 2⟩⟩,
    ⟨.operator "-", ⟨2, 3⟩⟩, ⟨.number (.round false Binary64.unitsInOne 2), ⟨3, 5⟩⟩,
    ⟨.text "x", ⟨5, 8⟩⟩, ⟨.endOfInput, ⟨8, 8⟩⟩]
  have scanned : Token.scan {} "a<-.5'x'".toList = .ok tokens := by decide +kernel
  have texts : (tokens.dropLast.map fun token => token.span.textIn "a<-.5'x'") =
      ["a", "<", "-", ".5", "'x'"] := by
    decide +kernel
  have failed : parse {} "a<-.5'x'" = .error ⟨.unexpected (.text "x") .operatorOrEnd, ⟨5, 8⟩⟩ := by
    decide +kernel
  have spaced : SpacedOut ["a", "<", "-", ".5", "'x'"]
      ("a" ++ "\u3000" ++ ("<" ++ " " ++ ("-" ++ "\n" ++ (".5" ++ "\u00a0" ++
        ("'x'" ++ "" ++ ""))))) := by
    refine .next ?_ ?_ (.next ?_ ?_ (.next ?_ ?_ (.next ?_ ?_ (.next ?_ ?_ .nothing)))) <;> decide
  have layout : Respaced ["a", "<", "-", ".5", "'x'"] "\u2003a\u3000< -\n.5\u00a0'x'" :=
    ⟨"\u2003", _, by decide, by decide, spaced⟩
  obtain ⟨other, otherFailed, sameKind, sameMessage⟩ :=
    (parse_of_respaced scanned (by decide) (texts ▸ layout) (by decide) (by decide)).2 _ failed
  exact ⟨failed, layout, other, otherFailed, sameKind, sameMessage.trans (by decide +kernel)⟩

end Formula

end FieldFormula
