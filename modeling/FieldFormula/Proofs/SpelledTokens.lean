import FieldFormula.Proofs.Number.Numeral
import FieldFormula.Proofs.Scanning

/-!
# Tokens as they are written

For each kind of token, the spelling of a token at the front of a text is taken for this token,
whatever follows it that cannot continue it. `Lexes` says of a text what its tokens are, wherever in
a source it stands, and `Lexes.token` adds one in front.
-/

namespace FieldFormula

/-! ### Operators -/

/-- A symbol that goes on where another one ends goes on with `=`. -/
theorem extends_with_equals : ∀ longer ∈ operatorSymbols, ∀ symbol ∈ operatorSymbols,
    symbol.toList <+: longer.toList →
      longer = symbol ∨ (longer.toList.drop symbol.toList.length).head? = some '=' := by
  decide +kernel

theorem longestSymbol?_symbol : ∀ symbol ∈ operatorSymbols,
    longestSymbol? symbol.toList = some symbol := by
  decide +kernel

/-- Text that does not start with `=` does not extend a symbol. -/
theorem isPrefix_append_iff {symbol other : String} {rest : List Char}
    (listed : symbol ∈ operatorSymbols) (listedOther : other ∈ operatorSymbols)
    (noEquals : rest.head? ≠ some '=') :
    other.toList <+: symbol.toList ++ rest ↔ other.toList <+: symbol.toList := by
  constructor
  · intro starts
    rcases List.prefix_or_prefix_of_prefix starts (List.prefix_append symbol.toList rest) with
      within | extends_
    · exact within
    · rcases extends_with_equals other listedOther symbol listed extends_ with rfl | equals
      · exact List.prefix_rfl
      · -- The longer symbol goes on with `=`, but the text behind the shorter one does not.
        obtain ⟨more, whole⟩ := extends_
        rw [← whole, List.drop_left] at equals
        rw [← whole, List.prefix_append_right_inj] at starts
        obtain ⟨others, rfl⟩ := starts
        cases more with
        | nil => cases equals
        | cons c more => exact absurd equals noEquals
  · intro within
    exact within.trans (List.prefix_append symbol.toList rest)

/-- **A symbol is read as itself** in front of text that does not start with `=`. -/
theorem longestSymbol?_append {symbol : String} {rest : List Char}
    (listed : symbol ∈ operatorSymbols) (noEquals : rest.head? ≠ some '=') :
    longestSymbol? (symbol.toList ++ rest) = some symbol := by
  have candidates : (operatorSymbols.filter fun other =>
        other.toList.isPrefixOf (symbol.toList ++ rest)) =
      operatorSymbols.filter fun other => other.toList.isPrefixOf symbol.toList := by
    apply List.filter_congr
    intro other listedOther
    rw [Bool.eq_iff_iff, List.isPrefixOf_iff_prefix, List.isPrefixOf_iff_prefix]
    exact isPrefix_append_iff listed listedOther noEquals
  rw [← longestSymbol?_symbol symbol listed, longestSymbol?, longestSymbol?, candidates]

namespace Token

/-! ### The front of a text -/

/-- The characters are those of the token, if this text follows them. -/
structure Spells (taken : List Char) (kind : Kind) (rest : List Char) : Prop where
  visible : ∀ c ∈ taken.head?, Text.isBlank c = false
  found : ∃ c others, taken = c :: others ∧ front c (others ++ rest) = (.ok kind, taken)

/-- The text cannot continue a word. -/
def EndsName (rest : List Char) : Prop :=
  ∀ c ∈ rest.head?, Text.isNamePart c = false

/-- The text cannot continue a word or a number. -/
def EndsWord (rest : List Char) : Prop :=
  ∀ c ∈ rest.head?, Text.isNamePart c = false ∧ c ≠ '.'

theorem EndsWord.endsName {rest : List Char} (ended : EndsWord rest) : EndsName rest :=
  fun c first => (ended c first).1

theorem endsWord_nil : EndsWord [] := by
  intro c member
  cases member

theorem takeWhile_append_of_endsName {word rest : List Char} {accepts : Char → Bool}
    (all : ∀ c ∈ word, accepts c = true) (parts : ∀ c, accepts c = true → Text.isNamePart c = true)
    (ended : EndsName rest) : (word ++ rest).takeWhile accepts = word := by
  rw [List.takeWhile_append_of_pos all]
  cases rest with
  | nil => simp
  | cons c others =>
    have refused : accepts c = false := by
      cases accepted : accepts c with
      | false => rfl
      | true => simpa [parts c accepted] using ended c (by simp)
    simp [refused]

/-! ### Characters -/

theorem toNat_of_isNameStart {c : Char} (start : Text.isNameStart c = true) :
    65 ≤ c.toNat ∧ c.toNat ≤ 122 := by
  have ranges : (decide ('A'.val ≤ c.val ∧ c.val ≤ 'Z'.val) ||
      (decide ('a'.val ≤ c.val) && decide (c.val ≤ 'z'.val)) || c == '_') = true := start
  simp only [Bool.or_eq_true, Bool.and_eq_true, decide_eq_true_eq, beq_iff_eq,
    UInt32.le_iff_toNat_le] at ranges
  rcases ranges with (⟨low, high⟩ | ⟨low, high⟩) | rfl
  · exact ⟨low, Nat.le_trans high (by decide)⟩
  · exact ⟨Nat.le_trans (by decide) low, high⟩
  · decide

theorem toNat_of_isDigit {c : Char} (digit : Text.isDigit c = true) :
    48 ≤ c.toNat ∧ c.toNat ≤ 57 := by
  simp only [Text.isDigit, Char.isDigit, Bool.and_eq_true, decide_eq_true_eq, ge_iff_le,
    UInt32.le_iff_toNat_le] at digit
  exact digit

theorem toNat_of_isNamePart {c : Char} (part : Text.isNamePart c = true) :
    48 ≤ c.toNat ∧ c.toNat ≤ 122 := by
  simp only [Text.isNamePart, Char.isAlphanum, Bool.or_eq_true, beq_iff_eq] at part
  rcases part with (letter | digit) | rfl
  · have range := @toNat_of_isNameStart c (by simp [Text.isNameStart, letter])
    omega
  · have range := @toNat_of_isDigit c digit
    omega
  · decide

theorem isBlank_of_toNat {c : Char} (low : 33 ≤ c.toNat) (high : c.toNat ≤ 126) :
    Text.isBlank c = false := by
  rw [← Bool.not_eq_true, Text.isBlank, CharRange.anyHolds_iff]
  rintro ⟨range, member, first, last⟩
  simp only [Text.blankRanges, List.mem_cons, List.not_mem_nil, or_false] at member
  rcases member with rfl | rfl | rfl | rfl | rfl | rfl | rfl | rfl | rfl | rfl <;>
    simp only at first last <;> omega

/-- The characters of words and numbers are far from all blanks. -/
theorem endsWord_blank {c : Char} (white : Text.isBlank c = true) (rest : List Char) :
    EndsWord (c :: rest) := by
  intro d first
  obtain rfl : c = d := by simpa using first
  constructor
  · cases part : Text.isNamePart c with
    | false => rfl
    | true =>
      have range := toNat_of_isNamePart part
      have visible : Text.isBlank c = false := isBlank_of_toNat (by omega) (by omega)
      simp [visible] at white
  · rintro rfl
    exact absurd white (by decide)

/-! ### Spellings -/

/-- **A sign is a token of its own**, whatever follows it. -/
theorem spells_sign {c : Char} {kind : Kind} (listed : (c, kind) ∈ signs) (rest : List Char) :
    Spells [c] kind rest := by
  simp only [signs, List.mem_cons, Prod.mk.injEq, List.not_mem_nil, or_false] at listed
  rcases listed with ⟨rfl, rfl⟩ | ⟨rfl, rfl⟩ | ⟨rfl, rfl⟩ | ⟨rfl, rfl⟩ <;>
    exact ⟨by simp; decide, _, [], rfl, rfl⟩

theorem front_of_isNameStart {c : Char} (start : Text.isNameStart c = true) (rest : List Char) :
    front c rest = frontWord (c :: rest) := by
  have range := toNat_of_isNameStart start
  -- The signs, the quote marks, the point and the digits all come before the letters.
  have differs : ∀ d : Char, d.toNat < 65 → c ≠ d := by
    rintro d low rfl
    omega
  have noDigit : ¬ Text.isDigit c = true := fun digit => by
    have digits := toNat_of_isDigit digit
    omega
  have noQuote : ¬ (c = '"' || c = '\'') = true := by
    simp [differs '"' (by decide), differs '\'' (by decide)]
  rw [front, if_neg (differs '(' (by decide)), if_neg (differs ')' (by decide)),
    if_neg (differs '?' (by decide)), if_neg (differs ':' (by decide)), if_neg noQuote,
    if_neg noDigit, if_neg (differs '.' (by decide)), if_pos start]

theorem front_of_isDigit {c : Char} (digit : Text.isDigit c = true) (rest : List Char) :
    front c rest = frontNumber (c :: rest) := by
  have range := toNat_of_isDigit digit
  have differs : ∀ d : Char, d.toNat < 48 ∨ 57 < d.toNat → c ≠ d := by
    rintro d outside rfl
    omega
  have noQuote : ¬ (c = '"' || c = '\'') = true := by
    simp [differs '"' (by decide), differs '\'' (by decide)]
  rw [front, if_neg (differs '(' (by decide)), if_neg (differs ')' (by decide)),
    if_neg (differs '?' (by decide)), if_neg (differs ':' (by decide)), if_neg noQuote,
    if_pos digit]

/-- **A word is one token.** -/
theorem spells_word {c : Char} {others rest : List Char} (start : Text.isNameStart c = true)
    (parts : ∀ d ∈ others, Text.isNamePart d = true) (ended : EndsName rest) :
    Spells (c :: others) (.ofWord (String.ofList (c :: others))) rest := by
  have range := toNat_of_isNameStart start
  refine ⟨by simpa using isBlank_of_toNat (by omega) (by omega), c, others, rfl, ?_⟩
  have word : (c :: others ++ rest).takeWhile Text.isNamePart = c :: others := by
    refine takeWhile_append_of_endsName ?_ (fun _ part => part) ended
    intro d member
    rcases List.mem_cons.1 member with rfl | inside
    · exact Text.isNamePart_of_isNameStart start
    · exact parts d inside
  rw [List.cons_append] at word
  rw [front_of_isNameStart start, frontWord, word]

theorem toList_eq_of_isName {name : String} (spelled : Text.isName name = true) :
    ∃ c others, name.toList = c :: others ∧ Text.isNameStart c = true ∧
      (∀ d ∈ others, Text.isNamePart d = true) ∧ Kind.ofWord name = .identifier name := by
  unfold Text.isName at spelled
  split at spelled
  · cases spelled
  next c others characters =>
    simp only [Bool.and_eq_true, List.all_eq_true, Bool.not_eq_true', Text.reservedWords,
      List.contains_eq_mem, decide_eq_false_iff_not, List.mem_cons, List.not_mem_nil, or_false,
      not_or] at spelled
    obtain ⟨⟨start, parts⟩, notTrue, notFalse⟩ := spelled
    exact ⟨c, others, characters, start, parts, by simp [Kind.ofWord, notTrue, notFalse]⟩

/-- **A quoted text is one token**, whatever stands in it besides its quote mark. -/
theorem spells_quoted {mark : Char} (quote : mark = '"' ∨ mark = '\'') {body : List Char}
    (noMark : mark ∉ body) (rest : List Char) :
    Spells (mark :: body ++ [mark]) (.text (String.ofList body)) rest := by
  have inside : ∀ d ∈ body, (d != mark) = true := by
    intro d member
    have differs : d ≠ mark := fun same => noMark (same ▸ member)
    simpa using differs
  have closed : frontText mark (body ++ [mark] ++ rest) =
      (.ok (.text (String.ofList body)), mark :: body ++ [mark]) := by
    rw [frontText, List.append_assoc, List.takeWhile_append_of_pos inside,
      List.dropWhile_append_of_pos inside]
    simp
  refine ⟨?_, mark, body ++ [mark], rfl, ?_⟩
  · rcases quote with rfl | rfl <;> simp <;> decide
  · rcases quote with rfl | rfl <;> exact closed

theorem isNamePart_of_isDigit {c : Char} (digit : Text.isDigit c = true) :
    Text.isNamePart c = true := by
  simp only [Text.isDigit] at digit
  simp [Text.isNamePart, Char.isAlphanum, digit]

theorem EndsWord.noDigit {rest : List Char} (ended : EndsWord rest) :
    ∀ c ∈ rest.head?, Text.isDigit c = false := by
  intro c member
  cases digit : Text.isDigit c with
  | false => rfl
  | true => simpa [isNamePart_of_isDigit digit] using ended c member

theorem numberBefore_of_endsWord {spelled rest : List Char} {value : Binary64}
    (ended : EndsWord rest)
    (read : ((Decimal.parse? spelled).map Decimal.toBinary64).filter Binary64.isFinite =
      some value) :
    numberBefore spelled rest = (.ok (.number value), spelled) := by
  have noLetters : rest.takeWhile Text.isNamePart = [] := by
    exact @takeWhile_append_of_endsName [] rest Text.isNamePart (by simp) (fun _ part => part)
      ended.endsName
  unfold numberBefore
  split
  next others => simpa using (ended '.' (by simp)).2
  · simp only [noLetters, read]
    rfl

theorem frontNumber_of_digits {whole fraction rest : List Char}
    (wholeDigits : Decimal.AllDigits whole) (fractionDigits : Decimal.AllDigits fraction)
    (ended : EndsWord rest) :
    frontNumber (whole ++ Decimal.pointed fraction ++ rest) =
      numberBefore (whole ++ Decimal.pointed fraction) rest := by
  cases fraction with
  | nil =>
    -- No point follows, since it would continue the number.
    rw [Decimal.pointed, List.append_nil, frontNumber,
      Decimal.splitDigits_append wholeDigits ended.noDigit]
    dsimp only
    split
    next others => simpa using (ended '.' (by simp)).2
    · rfl
  | cons d others =>
    have split : whole ++ Decimal.pointed (d :: others) ++ rest =
        whole ++ ('.' :: (d :: others ++ rest)) := by
      simp [Decimal.pointed]
    rw [split, frontNumber, Decimal.splitDigits_append wholeDigits
      (by simp [Decimal.isDigit_point])]
    have fractionSplit := Decimal.splitDigits_append fractionDigits ended.noDigit
    simp only [fractionSplit, Decimal.pointed]
    rfl

/-- A number starts with a digit, or with a point and a digit. -/
theorem front_of_digits {whole fraction : List Char} (wholeDigits : Decimal.AllDigits whole)
    (fractionDigits : Decimal.AllDigits fraction) (someDigit : whole ≠ [] ∨ fraction ≠ []) :
    ∃ c others, whole ++ Decimal.pointed fraction = c :: others ∧ Text.isBlank c = false ∧
      ∀ rest, front c (others ++ rest) = frontNumber (c :: (others ++ rest)) := by
  cases whole with
  | cons c others =>
    have digit := wholeDigits c (.head _)
    have range := toNat_of_isDigit digit
    exact ⟨c, _, rfl, isBlank_of_toNat (by omega) (by omega), fun rest => front_of_isDigit digit _⟩
  | nil =>
    obtain ⟨d, others, rfl⟩ := List.exists_cons_of_ne_nil (someDigit.resolve_left (by simp))
    have digit := fractionDigits d (.head _)
    refine ⟨'.', d :: others, rfl, by decide, fun rest => ?_⟩
    have point : front '.' (d :: others ++ rest) =
        if Text.isDigit d then frontNumber ('.' :: (d :: others ++ rest))
        else (.error .strayPoint, ['.']) :=
      rfl
    rw [point, if_pos digit]

/-- **A number is one token.** -/
theorem spells_number {whole fraction rest : List Char} {value : Binary64}
    (wholeDigits : Decimal.AllDigits whole) (fractionDigits : Decimal.AllDigits fraction)
    (someDigit : whole ≠ [] ∨ fraction ≠ [])
    (read : ((Decimal.parse? (whole ++ Decimal.pointed fraction)).map
      Decimal.toBinary64).filter Binary64.isFinite = some value) (ended : EndsWord rest) :
    Spells (whole ++ Decimal.pointed fraction) (.number value) rest := by
  have number := frontNumber_of_digits wholeDigits fractionDigits ended
  rw [numberBefore_of_endsWord ended read] at number
  obtain ⟨c, others, spelled, visible, begins⟩ := front_of_digits wholeDigits fractionDigits someDigit
  rw [spelled] at number ⊢
  exact ⟨by simpa using visible, c, others, rfl, (begins rest).trans number⟩

/-- **A numeral is one token.** -/
theorem spells_numeral {whole fraction rest : List Char}
    (numeral : Decimal.IsNumeral whole fraction)
    (finite : (Decimal.ofNumeral whole fraction).toBinary64.isFinite = true)
    (ended : EndsWord rest) :
    Spells (whole ++ Decimal.pointed fraction)
      (.number (Decimal.ofNumeral whole fraction).toBinary64) rest := by
  refine spells_number numeral.whole_digits numeral.fraction_digits (.inl numeral.whole_ne_nil) ?_ ended
  rw [numeral.parse?_eq, Option.map_some, Option.filter_some, if_pos finite]

def otherStarts : List Char :=
  ['(', ')', '?', ':', '"', '\'', '.']

theorem operator_start : ∀ symbol ∈ operatorSymbols, ∃ c others, symbol.toList = c :: others ∧
    Text.isBlank c = false ∧ c ∉ otherStarts ∧ Text.isDigit c = false ∧
      Text.isNameStart c = false := by
  have starts : ∀ symbol ∈ operatorSymbols, (symbol.toList.head?.any fun c =>
      !Text.isBlank c && !otherStarts.contains c && !Text.isDigit c && !Text.isNameStart c) =
        true := by
    decide +kernel
  intro symbol listed
  obtain ⟨c, first, plain⟩ := (Option.any_eq_true _ _).1 (starts symbol listed)
  obtain ⟨others, spelled⟩ := List.head?_eq_some_iff.1 first
  simp only [Bool.and_eq_true, Bool.not_eq_true', List.contains_eq_mem, decide_eq_false_iff_not]
    at plain
  obtain ⟨⟨⟨visible, noSign⟩, noDigit⟩, noName⟩ := plain
  exact ⟨c, others, spelled, visible, noSign, noDigit, noName⟩

/-- **A symbol is one token** where it is the longest one. -/
theorem spells_longestSymbol {symbol : String} {rest : List Char}
    (listed : symbol ∈ operatorSymbols)
    (longest : longestSymbol? (symbol.toList ++ rest) = some symbol) :
    Spells symbol.toList (.operator symbol) rest := by
  obtain ⟨c, others, spelled, visible, noSign, noDigit, noName⟩ := operator_start symbol listed
  rw [spelled, List.cons_append] at longest
  simp only [otherStarts, List.mem_cons, List.not_mem_nil, or_false, not_or] at noSign
  refine ⟨by simpa [spelled] using visible, c, others, spelled, ?_⟩
  simp [front, noSign, noDigit, noName, frontOperator, longest]

/-- **A symbol is one token** in front of text that does not start with `=`. -/
theorem spells_operator {symbol : String} {rest : List Char} (listed : symbol ∈ operatorSymbols)
    (noEquals : rest.head? ≠ some '=') : Spells symbol.toList (.operator symbol) rest :=
  spells_longestSymbol listed (longestSymbol?_append listed noEquals)

theorem Spells.head?_ne_equals {taken rest : List Char} {kind : Kind}
    (spells : Spells taken kind rest) (noOperator : ∀ symbol, kind ≠ .operator symbol) :
    taken.head? ≠ some '=' := by
  obtain ⟨c, others, rfl, found⟩ := spells.found
  intro equals
  obtain rfl : c = '=' := by simpa using equals
  have operator : front '=' (others ++ rest) = frontOperator '=' (others ++ rest) := rfl
  rw [operator, frontOperator] at found
  split at found
  · exact noOperator _ (Except.ok.inj (congrArg Prod.fst found)).symm
  · cases congrArg Prod.fst found

/-! ### The tokens of a text -/

/-- These are the tokens of the text, wherever it stands. -/
def Lexes (text : List Char) (kinds : List Kind) : Prop :=
  ∀ offset, ∃ tokens, Scans offset text tokens ∧ tokens.map kind = kinds

theorem lexes_nil : Lexes [] [.endOfInput] :=
  fun _ => ⟨_, .ended rfl, rfl⟩

theorem Lexes.blank {c : Char} {text : List Char} {kinds : List Kind}
    (white : Text.isBlank c = true) (lexes : Lexes text kinds) : Lexes (c :: text) kinds := by
  intro offset
  obtain ⟨tokens, scans, spelled⟩ := lexes (offset + c.utf8Size)
  refine ⟨tokens, ?_, spelled⟩
  -- The blank moves the text on by its bytes, and the first token stays where it is.
  have start : tokenStart offset (c :: text) = tokenStart (offset + c.utf8Size) text := by
    simp [tokenStart, white, byteLength, Nat.add_assoc]
  have shown : (c :: text).dropWhile Text.isBlank = text.dropWhile Text.isBlank := by
    simp [white]
  cases scans with
  | ended blank =>
    rw [← start]
    exact .ended (shown.trans blank)
  | token visible found later =>
    rw [← start] at later ⊢
    exact .token (shown.trans visible) found later

/-- **A spelled token comes before the tokens of what follows it.** -/
theorem Lexes.token {taken rest : List Char} {kind : Kind} {kinds : List Kind}
    (spells : Spells taken kind rest) (lexes : Lexes rest kinds) :
    Lexes (taken ++ rest) (kind :: kinds) := by
  obtain ⟨c, others, rfl, found⟩ := spells.found
  have visible : Text.isBlank c = false := spells.visible c (by simp)
  intro offset
  obtain ⟨tokens, scans, spelled⟩ :=
    lexes (tokenStart offset (c :: others ++ rest) + byteLength (c :: others))
  have shown : (c :: others ++ rest).dropWhile Text.isBlank = c :: (others ++ rest) := by
    simp [visible]
  have continued : Scans (tokenStart offset (c :: others ++ rest) + byteLength (c :: others))
      ((others ++ rest).drop ((c :: others).length - 1)) tokens := by
    simpa using scans
  exact ⟨_, .token shown found continued, by simp [spelled]⟩

end Token

end FieldFormula
