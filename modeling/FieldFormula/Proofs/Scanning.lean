import FieldFormula.Token.Scan
import Mathlib.Data.List.TakeWhile
import Mathlib.Tactic.SplitIfs

/-!
# How a text is scanned

`Token.Scans` relates a text to its tokens one after another, without a limit on their number.
`scanFrom_eq_ok_iff` shows that scanning under a limit yields these tokens exactly if there are few
enough of them, and `scanFrom_error` where an error comes from. A cause found at the front of a text
is one of `SyntaxError.Cause.OfFront`.
-/

namespace FieldFormula

/-- A cause why no token stands at the front of a text. -/
inductive SyntaxError.Cause.OfFront : SyntaxError.Cause → Prop
  | strayPoint : OfFront .strayPoint
  | assignment : OfFront .assignment
  | unknownCharacter (c : Char) : OfFront (.unknownCharacter c)
  | unterminatedText : OfFront .unterminatedText
  | invalidNumber (spelling : String) (flaw : SyntaxError.NumberFlaw) :
    OfFront (.invalidNumber spelling flaw)
  | pointAfterNumber (spelling : String) (beforeName : Bool) :
    OfFront (.pointAfterNumber spelling beforeName)

/-! ### Operators -/

theorem mem_of_foldr_longerSymbol {symbol : String} : ∀ {symbols : List String},
    symbols.foldr (fun symbol best => some (longerSymbol symbol best)) none = some symbol →
      symbol ∈ symbols
  | first :: others, found => by
    rw [List.foldr_cons, Option.some.injEq] at found
    unfold longerSymbol at found
    split at found
    · exact found ▸ .head _
    next best longest =>
      have behind := mem_of_foldr_longerSymbol longest
      split at found
      · exact found ▸ .head _
      · exact .tail _ (found ▸ behind)

/-- The symbol found is one of the table, and the text starts with it. -/
theorem longestSymbol?_eq_some {text : List Char} {symbol : String}
    (found : longestSymbol? text = some symbol) :
    symbol ∈ operatorSymbols ∧ symbol.toList <+: text := by
  simpa using mem_of_foldr_longerSymbol found

namespace Token

/-! ### The front of a text -/

/-- The signs that are tokens of their own. -/
def signs : List (Char × Kind) :=
  [('(', .openParen), (')', .closeParen), ('?', .question), (':', .colon)]

/-- What stands at the front of a text, by the first character. -/
inductive FrontOf (c : Char) (rest : List Char) : Front → Prop
  | sign {kind} (listed : (c, kind) ∈ signs) : FrontOf c rest (.ok kind, [c])
  | text (quote : c = '"' ∨ c = '\'') : FrontOf c rest (frontText c rest)
  | number (starts : Text.isDigit c = true ∨ c = '.') : FrontOf c rest (frontNumber (c :: rest))
  | point (stray : c = '.') : FrontOf c rest (.error .strayPoint, [c])
  | word (start : Text.isNameStart c = true) : FrontOf c rest (frontWord (c :: rest))
  | operator : FrontOf c rest (frontOperator c rest)

theorem front_cases (c : Char) (rest : List Char) : FrontOf c rest (front c rest) := by
  unfold front
  split_ifs with opening closing question colon quote digit point fraction start
  · exact .sign (by simp [signs, opening])
  · exact .sign (by simp [signs, closing])
  · exact .sign (by simp [signs, question])
  · exact .sign (by simp [signs, colon])
  · exact .text (by simpa using quote)
  · exact .number (.inl digit)
  · exact .number (.inr point)
  · exact .point point
  · exact .word start
  · exact .operator

/-- What is found at the front of a text, and the characters at its front that are taken for it. -/
inductive Finds (c : Char) (rest : List Char) : Except SyntaxError.Cause Kind → List Char → Prop
  | sign {kind} (listed : (c, kind) ∈ signs) : Finds c rest (.ok kind) [c]
  -- A quoted text ends at the first mark that is like the one it begins with.
  | text {inside after} (quote : c = '"' ∨ c = '\'') (noMark : c ∉ inside)
    (split : rest = inside ++ c :: after) :
    Finds c rest (.ok (.text (String.ofList inside))) (c :: inside ++ [c])
  | unterminated (quote : c = '"' ∨ c = '\'') (noMark : c ∉ rest) :
    Finds c rest (.error .unterminatedText) (c :: rest)
  | number {others after value} (starts : Text.isDigit c = true ∨ c = '.')
    (split : rest = others ++ after)
    (read : ((Decimal.parse? (c :: others)).map Decimal.toBinary64).filter Binary64.isFinite =
      some value) :
    Finds c rest (.ok (.number value)) (c :: others)
  -- A number may be wrong in itself or by what follows it.
  | invalidNumber {others after} (flaw : SyntaxError.NumberFlaw) (split : rest = others ++ after) :
    Finds c rest (.error (.invalidNumber (String.ofList (c :: others)) flaw)) (c :: others)
  | pointAfterNumber {others after} (beforeName : Bool) (split : rest = others ++ '.' :: after) :
    Finds c rest (.error (.pointAfterNumber (String.ofList (c :: others)) beforeName))
      (c :: others ++ ['.'])
  | strayPoint (stray : c = '.') : Finds c rest (.error .strayPoint) [c]
  | word {others after} (start : Text.isNameStart c = true)
    (parts : ∀ d ∈ others, Text.isNamePart d = true) (split : rest = others ++ after) :
    Finds c rest (.ok (.ofWord (String.ofList (c :: others)))) (c :: others)
  | operator {symbol others after} (listed : symbol ∈ operatorSymbols)
    (spelled : symbol.toList = c :: others) (split : rest = others ++ after) :
    Finds c rest (.ok (.operator symbol)) symbol.toList
  | assignment (equals : c = '=') : Finds c rest (.error .assignment) [c]
  | unknownCharacter : Finds c rest (.error (.unknownCharacter c)) [c]

variable {c : Char} {rest : List Char}

theorem notMem_takeWhile_ne (mark : Char) (body : List Char) :
    mark ∉ body.takeWhile (· != mark) := by
  intro member
  have differs := List.mem_takeWhile_imp member
  simp at differs

/-- The first character that is not inside a quoted text is the mark itself. -/
theorem eq_append_of_dropWhile_ne {mark last : Char} {body after : List Char}
    (terminated : body.dropWhile (· != mark) = last :: after) :
    body = body.takeWhile (· != mark) ++ mark :: after := by
  have inside := List.takeWhile_append_dropWhile (p := (· != mark)) (l := body)
  have closing : last = mark := by
    have head := List.head?_dropWhile_not (· != mark) body
    simpa [terminated] using head
  rw [terminated, closing] at inside
  exact inside.symm

theorem finds_frontText (quote : c = '"' ∨ c = '\'') :
    Finds c rest (frontText c rest).1 (frontText c rest).2 := by
  have noMark := notMem_takeWhile_ne c rest
  unfold frontText
  dsimp only
  split
  next unterminated =>
    have inside := List.takeWhile_append_dropWhile (p := (· != c)) (l := rest)
    rw [unterminated, List.append_nil] at inside
    rw [inside] at noMark ⊢
    exact .unterminated quote noMark
  next last after terminated => exact .text quote noMark (eq_append_of_dropWhile_ne terminated)

theorem finds_numberBefore {others after : List Char} (starts : Text.isDigit c = true ∨ c = '.')
    (split : rest = others ++ after) :
    Finds c rest (numberBefore (c :: others) after).1 (numberBefore (c :: others) after).2 := by
  unfold numberBefore
  split
  · exact .pointAfterNumber _ split
  · have longer : rest =
        others ++ after.takeWhile Text.isNamePart ++ after.dropWhile Text.isNamePart := by
      rw [split, List.append_assoc, List.takeWhile_append_dropWhile]
    dsimp only
    split
    · exact .invalidNumber .letters longer
    · split
      next value read => exact .number starts split read
      · exact .invalidNumber .outOfRange split

theorem finds_frontNumber (starts : Text.isDigit c = true ∨ c = '.') :
    Finds c rest (frontNumber (c :: rest)).1 (frontNumber (c :: rest)).2 := by
  unfold frontNumber Decimal.splitDigits
  rcases starts with digit | rfl
  · have whole := List.takeWhile_append_dropWhile (p := Text.isDigit) (l := rest)
    simp only [List.takeWhile_cons, List.dropWhile_cons, digit, if_true]
    split
    next afterPoint pointed =>
      have fraction := List.takeWhile_append_dropWhile (p := Text.isDigit) (l := afterPoint)
      rw [pointed] at whole
      split
      · refine .invalidNumber .missingFraction (?_ : rest = _ ++ ['.'] ++ afterPoint)
        simpa using whole.symm
      · refine finds_numberBefore (.inl digit)
          (?_ : rest = (_ ++ '.' :: afterPoint.takeWhile Text.isDigit) ++ _)
        rw [List.append_assoc, List.cons_append, fraction]
        exact whole.symm
    · exact finds_numberBefore (.inl digit) whole.symm
  · have point : Text.isDigit '.' = false := rfl
    have fraction := List.takeWhile_append_dropWhile (p := Text.isDigit) (l := rest)
    simp only [List.takeWhile_cons, List.dropWhile_cons, point, Bool.false_eq_true, if_false]
    split
    · exact .invalidNumber .missingFraction (rfl : rest = [] ++ rest)
    · exact finds_numberBefore (.inr rfl) fraction.symm

theorem finds_frontWord (start : Text.isNameStart c = true) :
    Finds c rest (frontWord (c :: rest)).1 (frontWord (c :: rest)).2 := by
  have part := Text.isNamePart_of_isNameStart start
  unfold frontWord
  simp only [List.takeWhile_cons, part, if_true]
  exact .word start (fun d member => List.mem_takeWhile_imp member)
    (List.takeWhile_append_dropWhile).symm

theorem finds_frontOperator : Finds c rest (frontOperator c rest).1 (frontOperator c rest).2 := by
  have visible : ∀ symbol ∈ operatorSymbols, symbol.toList ≠ [] := by decide
  unfold frontOperator
  split
  next symbol longest =>
    obtain ⟨listed, after, begins⟩ := longestSymbol?_eq_some longest
    obtain ⟨first, others, spelled⟩ := List.exists_cons_of_ne_nil (visible symbol listed)
    rw [spelled] at begins
    obtain ⟨rfl, split⟩ := List.cons.inj begins
    exact .operator listed spelled split.symm
  · dsimp only
    split
    next equals => exact .assignment equals
    · exact .unknownCharacter

/-- **All that can be found at the front of a text.** -/
theorem front_finds (c : Char) (rest : List Char) :
    Finds c rest (front c rest).1 (front c rest).2 := by
  have shape := front_cases c rest
  generalize front c rest = found at shape ⊢
  cases shape with
  | sign listed => exact .sign listed
  | text quote => exact finds_frontText quote
  | number starts => exact finds_frontNumber starts
  | point stray => exact .strayPoint stray
  | word start => exact finds_frontWord start
  | operator => exact finds_frontOperator

theorem finds_of_front {c : Char} {rest taken : List Char} {result : Except SyntaxError.Cause Kind}
    (found : front c rest = (result, taken)) : Finds c rest result taken := by
  have finds := front_finds c rest
  rwa [found] at finds

theorem Finds.error {taken : List Char} {cause : SyntaxError.Cause}
    (finds : Finds c rest (.error cause) taken) : cause.OfFront := by
  cases finds with
  | unterminated _ _ => exact .unterminatedText
  | invalidNumber flaw _ => exact .invalidNumber _ flaw
  | pointAfterNumber beforeName _ => exact .pointAfterNumber _ beforeName
  | strayPoint _ => exact .strayPoint
  | assignment _ => exact .assignment
  | unknownCharacter => exact .unknownCharacter c

theorem ofWord_ne_endOfInput (word : String) : Kind.ofWord word ≠ .endOfInput := by
  unfold Kind.ofWord
  split
  · simp
  · split <;> simp

/-- The end of the input is no token of the text. -/
theorem Finds.ne_endOfInput {taken : List Char} {kind : Kind}
    (finds : Finds c rest (.ok kind) taken) : kind ≠ .endOfInput := by
  cases finds with
  | sign listed =>
    rintro rfl
    simp [signs] at listed
  | text _ _ _ => simp
  | number _ _ _ => simp
  | word _ _ _ => exact ofWord_ne_endOfInput _
  | operator _ _ _ => simp

/-- What is found takes up characters, and they stand at the front of the text. -/
theorem Finds.taken {result : Except SyntaxError.Cause Kind} {taken : List Char}
    (finds : Finds c rest result taken) : taken ≠ [] ∧ taken <+: c :: rest := by
  cases finds with
  | sign _ => exact ⟨by simp, rest, rfl⟩
  | @text inside after _ _ split => exact ⟨by simp, after, by simp [split]⟩
  | unterminated _ _ => exact ⟨by simp, List.prefix_rfl⟩
  | @number _ after _ _ split _ => exact ⟨by simp, after, by simp [split]⟩
  | @invalidNumber _ after _ split => exact ⟨by simp, after, by simp [split]⟩
  | @pointAfterNumber _ after _ split => exact ⟨by simp, after, by simp [split]⟩
  | strayPoint _ => exact ⟨by simp, rest, rfl⟩
  | @word _ after _ _ split => exact ⟨by simp, after, by simp [split]⟩
  | @operator _ _ after _ spelled split => exact ⟨by simp [spelled], after, by simp [spelled, split]⟩
  | assignment _ => exact ⟨by simp, rest, rfl⟩
  | unknownCharacter => exact ⟨by simp, rest, rfl⟩

/-! ### Scanning token by token -/

/-- Where the first token of a text starts that stands `offset` bytes into the source. -/
def tokenStart (offset : Nat) (text : List Char) : Nat :=
  offset + byteLength (text.takeWhile Text.isBlank)

/-- The tokens of a text that stands `offset` bytes into the source. -/
inductive Scans : (offset : Nat) → List Char → List Token → Prop
  | ended {offset text} (blank : text.dropWhile Text.isBlank = []) :
    Scans offset text [⟨.endOfInput, ⟨tokenStart offset text, tokenStart offset text⟩⟩]
  | token {offset text c rest kind taken others} (shown : text.dropWhile Text.isBlank = c :: rest)
    (found : front c rest = (.ok kind, taken))
    (later : Scans (tokenStart offset text + byteLength taken) (rest.drop (taken.length - 1))
      others) :
    Scans offset text
      (⟨kind, ⟨tokenStart offset text, tokenStart offset text + byteLength taken⟩⟩ :: others)

variable {maxTokens count offset : Nat} {text rest taken : List Char} {c : Char}

theorem scanFrom_of_blank (blank : text.dropWhile Text.isBlank = []) :
    scanFrom maxTokens count offset text =
      .ok [⟨.endOfInput, ⟨tokenStart offset text, tokenStart offset text⟩⟩] := by
  rw [scanFrom]
  split
  · rfl
  next shown => simp [blank] at shown

theorem scanFrom_of_error {cause : SyntaxError.Cause}
    (shown : text.dropWhile Text.isBlank = c :: rest)
    (found : front c rest = (.error cause, taken)) :
    scanFrom maxTokens count offset text =
      .error ⟨cause, ⟨tokenStart offset text, tokenStart offset text + byteLength taken⟩⟩ := by
  rw [scanFrom]
  split
  next blank => simp [blank] at shown
  next same =>
    rw [shown] at same
    cases same
    simp [found, tokenStart]

theorem scanFrom_of_full {kind : Kind} (shown : text.dropWhile Text.isBlank = c :: rest)
    (found : front c rest = (.ok kind, taken)) (full : maxTokens ≤ count) :
    scanFrom maxTokens count offset text =
      .error ⟨.tooManyTokens maxTokens,
        ⟨tokenStart offset text, tokenStart offset text + byteLength taken⟩⟩ := by
  rw [scanFrom]
  split
  next blank => simp [blank] at shown
  next same =>
    rw [shown] at same
    cases same
    simp [found, full, tokenStart]

theorem scanFrom_of_token {kind : Kind} (shown : text.dropWhile Text.isBlank = c :: rest)
    (found : front c rest = (.ok kind, taken)) (room : count < maxTokens) :
    scanFrom maxTokens count offset text = do
      let others ← scanFrom maxTokens (count + 1) (tokenStart offset text + byteLength taken)
        (rest.drop (taken.length - 1))
      return ⟨kind, ⟨tokenStart offset text, tokenStart offset text + byteLength taken⟩⟩ ::
        others := by
  rw [scanFrom]
  split
  next blank => simp [blank] at shown
  next same =>
    rw [shown] at same
    cases same
    simp [found, Nat.not_le_of_lt room, tokenStart]

theorem Scans.length_pos {tokens : List Token} (scans : Scans offset text tokens) :
    0 < tokens.length := by
  cases scans <;> simp

/-- The token for the end of the input stands last and nowhere else. -/
theorem Scans.kinds_eq_append {tokens : List Token} (scans : Scans offset text tokens) :
    ∃ kinds, tokens.map kind = kinds ++ [.endOfInput] ∧ .endOfInput ∉ kinds := by
  induction scans with
  | ended blank => exact ⟨[], rfl, List.not_mem_nil⟩
  | @token _ _ c rest kind taken _ shown found later ih =>
    obtain ⟨kinds, spelled, absent⟩ := ih
    have proper := (finds_of_front found).ne_endOfInput
    exact ⟨kind :: kinds, by simp [spelled], by simp [absent, proper.symm]⟩

theorem Scans.endOfInput_mem {tokens : List Token} (scans : Scans offset text tokens) :
    .endOfInput ∈ tokens.map kind := by
  obtain ⟨kinds, spelled, _⟩ := scans.kinds_eq_append
  rw [spelled]
  exact List.mem_append_right _ (.head _)

/-- A text with a token besides that for the end of the input is not blank. -/
theorem Scans.not_allBlank {tokens : List Token} (scans : Scans offset text tokens)
    (several : 1 < tokens.length) : Text.allBlank text = false := by
  cases scans with
  | ended blank => simp at several
  | @token _ _ c rest _ _ _ shown _ _ =>
    -- The first character of the token is one of the text, and it is no blank.
    have member : c ∈ text := (List.dropWhile_sublist Text.isBlank).subset (shown ▸ .head _)
    have visible : Text.isBlank c = false := by
      have head := List.head_dropWhile_not Text.isBlank (l := text) (by simp [shown])
      simpa [shown] using head
    simp only [Text.allBlank, List.all_eq_false]
    exact ⟨c, member, by simp [visible]⟩

theorem Scans.scanFrom_eq_ok {tokens : List Token} (scans : Scans offset text tokens)
    (few : count + tokens.length ≤ maxTokens + 1) :
    scanFrom maxTokens count offset text = .ok tokens := by
  -- The count goes up as the tokens get fewer, so their sum stays within the limit.
  induction scans generalizing count with
  | ended blank => exact scanFrom_of_blank blank
  | token shown found later ih =>
    have more := later.length_pos
    simp only [List.length_cons] at few
    rw [scanFrom_of_token shown found (by omega), ih (by omega)]
    rfl

theorem Scans.scanFrom_eq_error {tokens : List Token} (scans : Scans offset text tokens)
    (within : count ≤ maxTokens) (many : maxTokens + 1 < count + tokens.length) :
    ∃ span, scanFrom maxTokens count offset text = .error ⟨.tooManyTokens maxTokens, span⟩ := by
  induction scans generalizing count with
  | ended blank =>
    simp only [List.length_singleton] at many
    omega
  | token shown found later ih =>
    simp only [List.length_cons] at many
    by_cases full : maxTokens ≤ count
    · -- This is the first token too many.
      exact ⟨_, scanFrom_of_full shown found full⟩
    · obtain ⟨span, refused⟩ := @ih (count + 1) (by omega) (by omega)
      refine ⟨span, ?_⟩
      rw [scanFrom_of_token shown found (by omega), refused]
      rfl

theorem scans_of_scanFrom_eq_ok : ∀ {tokens : List Token},
    scanFrom maxTokens count offset text = .ok tokens → Scans offset text tokens := by
  induction count, offset, text using scanFrom.induct maxTokens with
  | case1 count offset text blank =>
    intro tokens scanned
    rw [scanFrom_of_blank blank] at scanned
    cases scanned
    exact .ended blank
  | case2 count offset text c rest shown _ taken cause found =>
    intro tokens scanned
    rw [scanFrom_of_error shown found] at scanned
    cases scanned
  | case3 count offset text c rest shown _ taken kind full found =>
    intro tokens scanned
    rw [scanFrom_of_full shown found full] at scanned
    cases scanned
  | case4 count offset text start c rest shown _ taken span kind room found =>
    rename_i ih
    intro tokens scanned
    rw [scanFrom_of_token shown found (Nat.lt_of_not_le room)] at scanned
    cases later : scanFrom maxTokens (count + 1) (tokenStart offset text + byteLength taken)
        (rest.drop (taken.length - 1)) with
    | error error =>
      rw [later] at scanned
      cases scanned
    | ok others =>
      rw [later] at scanned
      cases scanned
      exact .token shown found (ih later)

/-- **Scanning yields the tokens of the text** exactly if the limit admits their number. The token
for the end of the input is not counted. -/
theorem scanFrom_eq_ok_iff {tokens : List Token} (within : count ≤ maxTokens) :
    scanFrom maxTokens count offset text = .ok tokens ↔
      Scans offset text tokens ∧ count + tokens.length ≤ maxTokens + 1 := by
  constructor
  · intro scanned
    have scans := scans_of_scanFrom_eq_ok scanned
    refine ⟨scans, Nat.le_of_not_lt fun many => ?_⟩
    obtain ⟨span, refused⟩ := scans.scanFrom_eq_error within many
    rw [scanned] at refused
    cases refused
  · rintro ⟨scans, few⟩
    exact scans.scanFrom_eq_ok few

/-! ### Errors in scanning -/

/-- Scanning stops with the error on a text that stands `offset` bytes into the source, when `count`
tokens precede it. -/
inductive Stops (maxTokens : Nat) : (count offset : Nat) → List Char → SyntaxError → Prop
  | flawed {count offset : Nat} {text rest taken : List Char} {c : Char}
    {cause : SyntaxError.Cause} (shown : text.dropWhile Text.isBlank = c :: rest)
    (found : front c rest = (.error cause, taken)) :
    Stops maxTokens count offset text
      ⟨cause, ⟨tokenStart offset text, tokenStart offset text + byteLength taken⟩⟩
  | full {count offset : Nat} {text rest taken : List Char} {c : Char} {kind : Kind}
    (shown : text.dropWhile Text.isBlank = c :: rest) (found : front c rest = (.ok kind, taken))
    (many : maxTokens ≤ count) :
    Stops maxTokens count offset text
      ⟨.tooManyTokens maxTokens,
        ⟨tokenStart offset text, tokenStart offset text + byteLength taken⟩⟩
  | later {count offset : Nat} {text rest taken : List Char} {c : Char} {kind : Kind}
    {error : SyntaxError} (shown : text.dropWhile Text.isBlank = c :: rest)
    (found : front c rest = (.ok kind, taken)) (room : count < maxTokens)
    (behind : Stops maxTokens (count + 1) (tokenStart offset text + byteLength taken)
      (rest.drop (taken.length - 1)) error) :
    Stops maxTokens count offset text error

theorem stops_of_scanFrom_eq_error {error : SyntaxError}
    (failed : scanFrom maxTokens count offset text = .error error) :
    Stops maxTokens count offset text error := by
  induction count, offset, text using scanFrom.induct maxTokens with
  | case1 count offset text blank =>
    rw [scanFrom_of_blank blank] at failed
    cases failed
  | case2 count offset text c rest shown _ taken cause found =>
    rw [scanFrom_of_error shown found] at failed
    cases failed
    exact .flawed shown found
  | case3 count offset text c rest shown _ taken kind many found =>
    rw [scanFrom_of_full shown found many] at failed
    cases failed
    exact .full shown found many
  | case4 count offset text start c rest shown _ taken span kind full found ih =>
    have room := Nat.lt_of_not_le full
    rw [scanFrom_of_token shown found room] at failed
    cases behind : scanFrom maxTokens (count + 1) (tokenStart offset text + byteLength taken)
        (rest.drop (taken.length - 1)) with
    | error other =>
      rw [behind] at failed
      cases failed
      exact .later shown found room (ih behind)
    | ok others =>
      rw [behind] at failed
      cases failed

/-- An error in scanning comes from the limit or from the front of some remaining text. -/
theorem scanFrom_error {error : SyntaxError}
    (failed : scanFrom maxTokens count offset text = .error error) :
    error.cause = .tooManyTokens maxTokens ∨ error.cause.OfFront := by
  have stops := stops_of_scanFrom_eq_error failed
  clear failed
  induction stops with
  | flawed _ found => exact .inr (finds_of_front found).error
  | full _ _ _ => exact .inl rfl
  | later _ _ _ _ ih => exact ih

end Token

end FieldFormula
