import FieldFormula.Proofs.SafeTokens
import FieldFormula.Proofs.SpelledTokens

/-!
# How tokens are written, and what ends them

`Token.Kind.Written` lists the spellings of each kind of token, and `Token.Kind.EndsBefore` says what
can stand behind a token that is as long as it can be. Neither refers to how a text is scanned.

## Main result

`spells_iff`: a token is found at the front of a text exactly if its spelling stands there, and
nothing behind the spelling continues it.
-/

namespace FieldFormula

theorem length_le_of_foldr_longerSymbol {symbol other : String} : ∀ {symbols : List String},
    symbols.foldr (fun symbol best => some (longerSymbol symbol best)) none = some symbol →
      other ∈ symbols → other.length ≤ symbol.length
  | first :: others, found, member => by
    rw [List.foldr_cons, Option.some.injEq] at found
    subst found
    cases longest : others.foldr (fun symbol best => some (longerSymbol symbol best)) none with
    | none =>
      cases others with
      | nil => simp_all [longerSymbol]
      | cons second others => simp at longest
    | some best =>
      have behind : other ∈ others → other.length ≤ best.length :=
        length_le_of_foldr_longerSymbol longest
      unfold longerSymbol
      dsimp only
      rcases List.mem_cons.1 member with rfl | later
      · split <;> omega
      · have within := behind later
        split <;> omega

/-- No symbol that the text starts with is longer than the one found. -/
theorem length_le_of_longestSymbol? {text : List Char} {symbol other : String}
    (found : longestSymbol? text = some symbol) (listed : other ∈ operatorSymbols)
    (starts : other.toList <+: text) : other.length ≤ symbol.length := by
  refine length_le_of_foldr_longerSymbol found (List.mem_filter.2 ⟨listed, ?_⟩)
  exact List.isPrefixOf_iff_prefix.2 starts

/-- A symbol that the text starts with and that is as long as any other is the one found. -/
theorem longestSymbol?_of_length_le {text : List Char} {symbol : String}
    (listed : symbol ∈ operatorSymbols) (starts : symbol.toList <+: text)
    (longest : ∀ other ∈ operatorSymbols, other.toList <+: text → other.length ≤ symbol.length) :
    longestSymbol? text = some symbol := by
  cases found : longestSymbol? text with
  | none =>
    have candidate : symbol ∈ operatorSymbols.filter fun other => other.toList.isPrefixOf text :=
      List.mem_filter.2 ⟨listed, List.isPrefixOf_iff_prefix.2 starts⟩
    unfold longestSymbol? at found
    cases candidates : operatorSymbols.filter fun other => other.toList.isPrefixOf text with
    | nil => simp [candidates] at candidate
    | cons first others => simp [candidates] at found
  | some best =>
    -- Two prefixes of one length are the same.
    obtain ⟨listedBest, startsBest⟩ := longestSymbol?_eq_some found
    have shorter := longest best listedBest startsBest
    have longer := length_le_of_longestSymbol? found listed starts
    have same := List.prefix_of_prefix_length_le startsBest starts
      (by simpa only [String.length_toList] using shorter)
    have lengths : best.toList.length = symbol.toList.length := by
      simp only [String.length_toList]
      omega
    rw [String.toList_inj.1 (same.eq_of_length lengths)]

/-- Words stand for infinities and for NaN only, so the finite numbers are those of numerals. -/
theorem Binary64.filter_parse? (text : List Char) :
    (parse? text).filter isFinite =
      ((Decimal.parse? text).map Decimal.toBinary64).filter isFinite := by
  unfold parse?
  split
  next decimal parsed => rw [parsed, Option.map_some]
  next none_parsed =>
    rw [none_parsed]
    dsimp only
    split_ifs <;> rfl

namespace Token

open Decimal (AllDigits allDigits_takeWhile pointed)

/-! ### Spellings and their ends -/

/-- The characters spell a token of the kind. -/
inductive Kind.Written : Kind → List Char → Prop
  | sign {c kind} (listed : (c, kind) ∈ signs) : Written kind [c]
  | operator {symbol} (listed : symbol ∈ operatorSymbols) : Written (.operator symbol) symbol.toList
  | identifier {name} (valid : Text.isName name = true) : Written (.identifier name) name.toList
  | boolean (value : Bool) : Written (.boolean value) (if value then "true" else "false").toList
  -- There is no way to write the quote mark itself inside a quoted text.
  | text {mark body} (quote : mark = '"' ∨ mark = '\'') (noMark : mark ∉ body) :
    Written (.text (String.ofList body)) (mark :: body ++ [mark])
  -- Digits, digits with a point between them, or a point and digits.
  | number {whole fraction value} (wholeDigits : AllDigits whole)
    (fractionDigits : AllDigits fraction) (someDigit : whole ≠ [] ∨ fraction ≠ [])
    (reads : Binary64.parse? (whole ++ pointed fraction) = some value)
    (finite : value.isFinite = true) : Written (.number value) (whole ++ pointed fraction)

/-- Nothing in the text behind a token of the kind could have made the token longer. -/
def Kind.EndsBefore : Kind → List Char → Prop
  | .operator symbol, behind =>
    ∀ other ∈ operatorSymbols, other.toList <+: symbol.toList ++ behind →
      other.length ≤ symbol.length
  | .identifier _, behind => EndsName behind
  | .boolean _, behind => EndsName behind
  | .number _, behind =>
    ∀ c ∈ behind.head?, Text.isDigit c = false ∧ c ≠ '.' ∧ Text.isNamePart c = false
  | _, _ => True

/-- The text begins with a token of the kind, which takes up these characters and no more. -/
def Begins (text : List Char) (kind : Kind) (taken : List Char) : Prop :=
  ∃ behind, text = taken ++ behind ∧ kind.Written taken ∧ kind.EndsBefore behind

/-! ### What is found is written -/

variable {c : Char} {rest taken : List Char} {kind : Kind}

theorem begins_of_frontText (quote : c = '"' ∨ c = '\'')
    (found : frontText c rest = (.ok kind, taken)) : Begins (c :: rest) kind taken := by
  unfold frontText at found
  dsimp only at found
  split at found
  · cases found
  next last after terminated =>
    cases found
    have split := eq_append_of_dropWhile_ne terminated
    refine ⟨after, ?_, .text quote (notMem_takeWhile_ne c rest), trivial⟩
    simpa using split

theorem endsBefore_number {value : Binary64} (ended : EndsWord rest) :
    (Kind.number value).EndsBefore rest :=
  fun c first => ⟨ended.noDigit c first, (ended c first).2, (ended c first).1⟩

theorem endsWord_of_takeWhile {behind : List Char} (noPart : behind.takeWhile Text.isNamePart = [])
    (noPoint : ∀ others, behind ≠ '.' :: others) : EndsWord behind := by
  intro c first
  obtain ⟨others, rfl⟩ := List.head?_eq_some_iff.1 first
  refine ⟨?_, fun point => noPoint others (point ▸ rfl)⟩
  cases part : Text.isNamePart c with
  | false => rfl
  | true => simp [part] at noPart

theorem begins_of_numberBefore {whole fraction : List Char} (wholeDigits : AllDigits whole)
    (fractionDigits : AllDigits fraction) (someDigit : whole ≠ [] ∨ fraction ≠ [])
    (found : numberBefore (whole ++ pointed fraction) rest = (.ok kind, taken)) :
    Begins (whole ++ pointed fraction ++ rest) kind taken := by
  unfold numberBefore at found
  split at found
  · cases found
  next noPoint =>
    dsimp only at found
    split at found
    · cases found
    next noLetters =>
      split at found
      next value read =>
        cases found
        rw [← Binary64.filter_parse?] at read
        obtain ⟨reads, finite⟩ := Option.filter_eq_some_iff.1 read
        have ended := endsWord_of_takeWhile (by simpa using noLetters) noPoint
        exact ⟨rest, rfl, .number wholeDigits fractionDigits someDigit reads finite,
          endsBefore_number ended⟩
      · cases found

theorem begins_of_frontNumber (starts : Text.isDigit c = true ∨ c = '.')
    (found : frontNumber (c :: rest) = (.ok kind, taken)) : Begins (c :: rest) kind taken := by
  have split := List.takeWhile_append_dropWhile (p := Text.isDigit) (l := c :: rest)
  have wholeDigits := allDigits_takeWhile (c :: rest)
  unfold frontNumber Decimal.splitDigits at found
  dsimp only at found
  split at found
  next afterPoint hasPoint =>
    have splitFraction := List.takeWhile_append_dropWhile (p := Text.isDigit) (l := afterPoint)
    split at found
    · cases found
    next someFraction =>
      have spelled : '.' :: afterPoint.takeWhile Text.isDigit =
          pointed (afterPoint.takeWhile Text.isDigit) := by
        rw [pointed]
        exact someFraction
      rw [spelled] at found
      have begins := begins_of_numberBefore wholeDigits (allDigits_takeWhile afterPoint)
        (.inr someFraction) found
      rwa [← spelled, List.append_assoc, List.cons_append, splitFraction, ← hasPoint,
        split] at begins
  next noPoint =>
    -- Without a point there are only the digits, and the first character is one of them.
    have someWhole : (c :: rest).takeWhile Text.isDigit ≠ [] := by
      rcases starts with digit | rfl
      · simp [digit]
      · exact absurd rfl (noPoint rest)
    have begins := @begins_of_numberBefore _ _ kind _ [] wholeDigits (by simp [AllDigits])
      (.inl someWhole) (by simpa [pointed] using found)
    simpa [pointed, split] using begins

/-- A word is written as it is, also where it is reserved for a boolean. -/
theorem written_ofWord {others : List Char} (start : Text.isNameStart c = true)
    (parts : ∀ d ∈ others, Text.isNamePart d = true) :
    (Kind.ofWord (String.ofList (c :: others))).Written (c :: others) := by
  have safe := ofWord_isSafe start parts
  obtain ⟨word, spelled⟩ : ∃ word : String, word.toList = c :: others :=
    ⟨String.ofList _, String.toList_ofList⟩
  rw [← spelled, String.ofList_toList] at safe ⊢
  unfold Kind.ofWord at safe ⊢
  split
  next same => exact same ▸ .boolean true
  next notTrue =>
    split
    next same => exact same ▸ .boolean false
    next notFalse =>
      rw [if_neg notTrue, if_neg notFalse] at safe
      exact .identifier safe

theorem endsBefore_ofWord {behind : List Char} (word : String) (ended : EndsName behind) :
    (Kind.ofWord word).EndsBefore behind := by
  unfold Kind.ofWord
  split
  · exact ended
  · split <;> exact ended

theorem begins_of_frontWord (start : Text.isNameStart c = true)
    (found : frontWord (c :: rest) = (.ok kind, taken)) : Begins (c :: rest) kind taken := by
  have part := Text.isNamePart_of_isNameStart start
  have split := List.takeWhile_append_dropWhile (p := Text.isNamePart) (l := rest)
  unfold frontWord at found
  simp only [List.takeWhile_cons, part, if_true] at found
  cases found
  have ended : EndsName (rest.dropWhile Text.isNamePart) := by
    intro d first
    have head := List.head?_dropWhile_not Text.isNamePart rest
    rw [first] at head
    simpa using head
  exact ⟨rest.dropWhile Text.isNamePart, by simp [split],
    written_ofWord start fun d member => List.mem_takeWhile_imp member, endsBefore_ofWord _ ended⟩

theorem begins_of_frontOperator (found : frontOperator c rest = (.ok kind, taken)) :
    Begins (c :: rest) kind taken := by
  unfold frontOperator at found
  split at found
  next symbol longest =>
    cases found
    obtain ⟨listed, behind, begins⟩ := longestSymbol?_eq_some longest
    refine ⟨behind, begins.symm, .operator listed, fun other listedOther starts => ?_⟩
    rw [begins] at starts
    exact length_le_of_longestSymbol? longest listedOther starts
  · cases congrArg Prod.fst found

theorem endsBefore_of_sign (listed : (c, kind) ∈ signs) (rest : List Char) :
    kind.EndsBefore rest := by
  simp only [signs, List.mem_cons, Prod.mk.injEq, List.not_mem_nil, or_false] at listed
  rcases listed with ⟨_, rfl⟩ | ⟨_, rfl⟩ | ⟨_, rfl⟩ | ⟨_, rfl⟩ <;> trivial

/-- **Whatever is found at the front of a text is written there**, and nothing behind it could have
made it longer. -/
theorem begins_of_front (found : front c rest = (.ok kind, taken)) :
    Begins (c :: rest) kind taken := by
  have shape := front_cases c rest
  rw [found] at shape
  generalize same : (Except.ok kind, taken) = front at shape
  cases shape with
  | sign listed =>
    cases same
    exact ⟨rest, rfl, .sign listed, endsBefore_of_sign listed rest⟩
  | text quote => exact begins_of_frontText quote same.symm
  | number starts => exact begins_of_frontNumber starts same.symm
  | point stray => cases same
  | word start => exact begins_of_frontWord start same.symm
  | operator => exact begins_of_frontOperator same.symm

/-! ### What is written is found -/

/-- **A written token is found** wherever nothing continues it. -/
theorem spells_of_written (written : kind.Written taken) (ended : kind.EndsBefore rest) :
    Spells taken kind rest := by
  cases written with
  | sign listed => exact spells_sign listed rest
  | operator listed =>
    exact spells_longestSymbol listed
      (longestSymbol?_of_length_le listed (List.prefix_append _ _) ended)
  | @identifier name valid =>
    obtain ⟨c, others, characters, start, parts, word⟩ := toList_eq_of_isName valid
    have spells := spells_word start parts ended
    rwa [← characters, String.ofList_toList, word] at spells
  | boolean value =>
    cases value with
    | true => exact @spells_word 't' ['r', 'u', 'e'] rest rfl (List.all_eq_true.1 rfl) ended
    | false => exact @spells_word 'f' ['a', 'l', 's', 'e'] rest rfl (List.all_eq_true.1 rfl) ended
  | text quote noMark => exact spells_quoted quote noMark rest
  | number wholeDigits fractionDigits someDigit reads finite =>
    refine spells_number wholeDigits fractionDigits someDigit ?_
      fun c first => ⟨(ended c first).2.2, (ended c first).2.1⟩
    rw [← Binary64.filter_parse?, reads, Option.filter_some, if_pos finite]

/-- **Maximal munch.** A token is found at the front of a text exactly if its spelling stands there
and nothing behind the spelling continues it. -/
theorem spells_iff : Spells taken kind rest ↔ kind.Written taken ∧ kind.EndsBefore rest := by
  constructor
  · intro spells
    obtain ⟨c, others, rfl, found⟩ := spells.found
    obtain ⟨behind, split, written, ended⟩ := begins_of_front found
    have same : rest = behind := by simpa using split
    exact ⟨written, same ▸ ended⟩
  · rintro ⟨written, ended⟩
    exact spells_of_written written ended

end Token

end FieldFormula
