import FieldFormula.Proofs.Alphabet
import FieldFormula.Proofs.Canonical.Tree
import FieldFormula.Proofs.SpelledTokens

/-!
# The tokens of canonical text

Scanning the canonical text of a formula gives the tokens of its tree. The text is put together from
pieces, and `LexesAs` says of a piece what it gives in any place where it can stand: what follows it
is a blank, a closing parenthesis or the end, so nothing continues its last token.
-/

namespace FieldFormula

open Token (Spells EndsWord Lexes endsWord_nil endsWord_blank spells_sign toList_eq_of_isName)

namespace Formula

/-! ### Spellings of texts -/

theorem quoteMark_eq (text : List Char) : quoteMark text = '"' ∨ quoteMark text = '\'' := by
  unfold quoteMark
  split
  · exact .inr rfl
  · exact .inl rfl

theorem allowed_of_flaw? {value : String} (flawless : (Literal.text value).flaw? = none) :
    AllAllowed value.toList ∧ quoteMark value.toList ∉ value.toList := by
  unfold Literal.flaw? at flawless
  dsimp only at flawless
  split at flawless
  · cases flawless
  next allowed =>
    split at flawless
    · cases flawless
    next notBoth =>
      constructor
      · intro c member
        simpa using List.find?_eq_none.1 allowed c member
      · unfold quoteMark
        split
        next double => exact fun single => notBoth ⟨double, single⟩
        next noDouble => exact noDouble

/-! ### Texts that stay apart from what follows -/

/-- The text gives these tokens wherever no word continues it. It is made of allowed characters, and
since the first of them is no `=`, no operator before it is misread. -/
structure LexesAs (text : List Char) (kinds : List Token.Kind) : Prop where
  lexes : ∀ {rest later}, EndsWord rest → Lexes rest later → Lexes (text ++ rest) (kinds ++ later)
  noEquals : ∀ rest, (text ++ rest).head? ≠ some '='
  allowed : AllAllowed text

theorem endsWord_closeParen (rest : List Char) : EndsWord (')' :: rest) := by
  intro c member
  cases member
  decide

theorem allAllowed_symbol : ∀ symbol ∈ operatorSymbols, AllAllowed symbol.toList := by
  have each : ∀ symbol ∈ operatorSymbols, symbol.toList.all Text.isAllowed = true := by
    decide +kernel
  exact fun symbol listed => List.all_eq_true.1 (each symbol listed)

theorem lexesAs_of_spells {text : List Char} {kind : Token.Kind}
    (spells : ∀ {rest}, EndsWord rest → Spells text kind rest)
    (noOperator : ∀ symbol, kind ≠ .operator symbol) (allowed : AllAllowed text) :
    LexesAs text [kind] := by
  have alone := spells endsWord_nil
  have visible := alone.head?_ne_equals noOperator
  obtain ⟨c, others, rfl, _⟩ := alone.found
  exact ⟨fun ended lexes => Lexes.token (spells ended) lexes, fun rest => by simpa using visible,
    allowed⟩

theorem symbol_listed_of_prefixOp (op : PrefixOp) : op.symbol ∈ operatorSymbols :=
  List.mem_append_right _ (List.mem_map.2
    ⟨_, List.mem_of_find?_eq_some (prefixOfSymbol?_symbol op), rfl⟩)

theorem symbol_listed_of_infixOp (op : InfixOp) : op.symbol ∈ operatorSymbols := by
  obtain ⟨precedence, found⟩ := infixOfSymbol?_symbol op
  exact List.mem_append_left _ (List.mem_map.2 ⟨_, List.mem_of_find?_eq_some found, rfl⟩)

theorem LexesAs.prefixed {text : List Char} {kinds : List Token.Kind} (operand : LexesAs text kinds)
    (op : PrefixOp) : LexesAs (op.symbol.toList ++ text) (.operator op.symbol :: kinds) := by
  have listed := symbol_listed_of_prefixOp op
  refine ⟨fun {rest later} ended lexes => ?_, fun rest => ?_,
    allAllowed_append (allAllowed_symbol _ listed) operand.allowed⟩
  · -- The operand does not start with `=`, so the operator is not read as a longer one.
    rw [List.append_assoc]
    exact Lexes.token (Token.spells_operator listed (operand.noEquals rest))
      (operand.lexes ended lexes)
  · cases op <;> simp [PrefixOp.symbol]

theorem LexesAs.spaced {left sign right : List Char} {kind : Token.Kind}
    {leftKinds rightKinds : List Token.Kind} (before : LexesAs left leftKinds)
    (spells : ∀ rest, Spells sign kind (' ' :: rest)) (allowed : AllAllowed sign)
    (behind : LexesAs right rightKinds) :
    LexesAs (left ++ ' ' :: sign ++ ' ' :: right) (leftKinds ++ kind :: rightKinds) := by
  have split (rest : List Char) : left ++ ' ' :: sign ++ ' ' :: right ++ rest =
      left ++ (' ' :: (sign ++ (' ' :: (right ++ rest)))) := by
    simp
  have blank : Text.isBlank ' ' = true := by decide
  refine ⟨fun {rest later} ended lexes => ?_, fun rest => ?_, ?_⟩
  · -- The blanks keep the sign apart from both texts and are no tokens themselves.
    rw [split, List.append_assoc]
    apply before.lexes (endsWord_blank blank _)
    apply Lexes.blank blank
    apply Lexes.token (spells _)
    apply Lexes.blank blank
    exact behind.lexes ended lexes
  · rw [split]
    exact before.noEquals _
  · have space := Text.isAllowed_of_isBlank blank
    exact allAllowed_append (allAllowed_append before.allowed (allAllowed_cons space allowed))
      (allAllowed_cons space behind.allowed)

theorem LexesAs.parenthesized {inner : List Char} {kinds : List Token.Kind}
    (inside : LexesAs inner kinds) :
    LexesAs (parenthesized inner) (.openParen :: kinds ++ [.closeParen]) := by
  have split (rest : List Char) : Formula.parenthesized inner ++ rest =
      ['('] ++ (inner ++ ([')'] ++ rest)) := by
    simp [Formula.parenthesized]
  refine ⟨fun {rest later} ended lexes => ?_, fun rest => by simp [Formula.parenthesized], ?_⟩
  · rw [split, List.cons_append, List.append_assoc]
    apply Lexes.token (spells_sign (by simp [Token.signs]) _)
    apply inside.lexes (endsWord_closeParen _)
    exact Lexes.token (spells_sign (by simp [Token.signs]) _) lexes
  · exact allAllowed_append (allAllowed_cons rfl inside.allowed) (allAllowed_cons rfl (by simp [AllAllowed]))

/-! ### The leaves -/

theorem lexesAs_word {c : Char} {others : List Char} (start : Text.isNameStart c = true)
    (parts : ∀ d ∈ others, Text.isNamePart d = true) {kind : Token.Kind}
    (word : Token.Kind.ofWord (String.ofList (c :: others)) = kind)
    (noOperator : ∀ symbol, kind ≠ .operator symbol) : LexesAs (c :: others) [kind] := by
  refine lexesAs_of_spells (fun ended => word ▸ Token.spells_word start parts ended.endsName) noOperator ?_
  apply allAllowed_cons
  · exact Text.isAllowed_of_isNamePart (Text.isNamePart_of_isNameStart start)
  · exact fun d member => Text.isAllowed_of_isNamePart (parts d member)

theorem lexesAs_identifier {name : String} (spelled : Text.isName name = true) :
    LexesAs name.toList [.identifier name] := by
  obtain ⟨c, others, characters, start, parts, word⟩ := toList_eq_of_isName spelled
  rw [characters]
  refine lexesAs_word start parts ?_ (by simp)
  rw [← characters, String.ofList_toList, word]

theorem lexesAs_boolean (value : Bool) :
    LexesAs (Literal.boolean value).spelling [.boolean value] := by
  cases value with
  | true => exact @lexesAs_word 't' ['r', 'u', 'e'] rfl (List.all_eq_true.1 rfl) _ rfl (by simp)
  | false => exact @lexesAs_word 'f' ['a', 'l', 's', 'e'] rfl (List.all_eq_true.1 rfl) _ rfl (by simp)

theorem lexesAs_text {value : String} (flawless : (Literal.text value).flaw? = none) :
    LexesAs (Literal.text value).spelling [.text value] := by
  obtain ⟨allowed, noMark⟩ := allowed_of_flaw? flawless
  have quote := quoteMark_eq value.toList
  have markAllowed : Text.isAllowed (quoteMark value.toList) = true := by
    rcases quote with same | same <;> rw [same] <;> decide
  refine lexesAs_of_spells (fun {rest} _ => ?_) (by simp) ?_
  · have token := Token.spells_quoted quote noMark rest
    rwa [String.ofList_toList] at token
  · apply allAllowed_append (allAllowed_cons markAllowed allowed)
    exact allAllowed_cons markAllowed (by simp [AllAllowed])

theorem allAllowed_numeral {whole fraction : List Char}
    (numeral : Decimal.IsNumeral whole fraction) : AllAllowed (whole ++ Decimal.pointed fraction) := by
  have digits {text : List Char} (all : Decimal.AllDigits text) : AllAllowed text := fun c member =>
    Text.isAllowed_of_isNamePart (Token.isNamePart_of_isDigit (all c member))
  apply allAllowed_append (digits numeral.whole_digits)
  cases fraction with
  | nil => simp [Decimal.pointed, AllAllowed]
  | cons c others => exact allAllowed_cons rfl (digits numeral.fraction_digits)

/-- A number without a minus sign is one token. -/
theorem lexesAs_number {x : Binary64} (finite : x.isFinite = true)
    (unsigned : x.isNegative = false) : LexesAs x.spelling [.number x] := by
  obtain ⟨whole, fraction, numeral, spelled, read⟩ := Binary64.exists_numeral finite unsigned
  have finiteNumeral : (Decimal.ofNumeral whole fraction).toBinary64.isFinite = true := by
    rw [read]
    exact finite
  rw [spelled, ← read]
  exact lexesAs_of_spells (fun ended => Token.spells_numeral numeral finiteNumeral ended) (by simp)
    (allAllowed_numeral numeral)

theorem spelling_of_isNegative {x : Binary64} (finite : x.isFinite = true)
    (negative : x.isNegative = true) : x.spelling = '-' :: x.negate.spelling := by
  cases x with
  | nan => cases finite
  | infinite sign => cases finite
  | finite sign units representable =>
    obtain rfl : sign = true := negative
    simp [Binary64.spelling, Binary64.negate, Decimal.positional]

/-- **The spelling of a constant gives the tokens of its tree.** -/
theorem lexesAs_literal {value : Literal} (flawless : value.flaw? = none) :
    LexesAs value.spelling value.derivation.kinds := by
  cases value with
  | number x =>
    have finite : x.isFinite = true := by
      cases finite : x.isFinite with
      | true => rfl
      | false => simp [Literal.flaw?, finite] at flawless
    rw [Literal.derivation, Literal.spelling]
    cases sign : x.isNegative with
    | false => exact lexesAs_number finite sign
    | true =>
      -- The minus sign is the operator of the tree, before the number without it.
      have finiteOpposite : x.negate.isFinite = true := x.isFinite_negate.trans finite
      have noSign : x.negate.isNegative = false := by
        cases x <;> simp_all [Binary64.negate, Binary64.isNegative, Binary64.isFinite]
      rw [spelling_of_isNegative finite sign]
      exact (lexesAs_number finiteOpposite noSign).prefixed .negate
  | text value => exact lexesAs_text flawless
  | boolean value => exact lexesAs_boolean value

/-! ### Whole formulas -/

theorem flaw?_eq_none {formula : Formula} (admitted : formula.refusal? = none) :
    formula.flaw? = none := by
  simpa [refusal?] using admitted

theorem lexesAs_infix {left right : List Char} {leftKinds rightKinds : List Token.Kind}
    (before : LexesAs left leftKinds) (op : InfixOp) (behind : LexesAs right rightKinds) :
    LexesAs (spellInfix left op.symbol right)
      (.openParen :: (leftKinds ++ .operator op.symbol :: rightKinds) ++ [.closeParen]) := by
  have listed := symbol_listed_of_infixOp op
  have inside := before.spaced (fun rest => Token.spells_operator listed (by simp))
    (allAllowed_symbol _ listed) behind
  exact inside.parenthesized

/-- **The canonical text gives the tokens of its tree.** -/
theorem lexesAs_spelling {formula : Formula} (admitted : formula.Admitted) :
    LexesAs formula.spelling formula.derivation.kinds := by
  induction formula with
  | literal value => exact lexesAs_literal (flaw?_eq_none (admitted _ (mem_walk_self _)))
  | identifier name =>
    have flawless := flaw?_eq_none (admitted _ (mem_walk_self (identifier name)))
    have spelled : Text.isName name = true := by
      cases spelled : Text.isName name with
      | true => rfl
      | false => simp [flaw?, spelled] at flawless
    exact lexesAs_identifier spelled
  | unary op operand ih =>
    exact ((ih (admitted.of_child (by simp [children]))).prefixed op).parenthesized
  | binary op left right ihl ihr =>
    exact lexesAs_infix (ihl (admitted.of_child (by simp [children]))) (.binary op)
      (ihr (admitted.of_child (by simp [children])))
  | logical op left right ihl ihr =>
    exact lexesAs_infix (ihl (admitted.of_child (by simp [children]))) (.logical op)
      (ihr (admitted.of_child (by simp [children])))
  | conditional test consequent alternate iht ihc iha =>
    have tested := iht (admitted.of_child (by simp [children]))
    have chosen := ihc (admitted.of_child (by simp [children]))
    have otherwise := iha (admitted.of_child (by simp [children]))
    have question (rest : List Char) : Spells ['?'] .question rest :=
      spells_sign (by simp [Token.signs]) rest
    have colon (rest : List Char) : Spells [':'] .colon rest :=
      spells_sign (by simp [Token.signs]) rest
    have branches := (tested.spaced (fun rest => question _)
      (allAllowed_cons rfl (by simp [AllAllowed])) chosen).spaced (fun rest => colon _)
      (allAllowed_cons rfl (by simp [AllAllowed])) otherwise
    have written : test.spelling ++ ' ' :: ['?'] ++ ' ' :: consequent.spelling ++ ' ' :: [':'] ++
        ' ' :: alternate.spelling = test.spelling ++ [' ', '?', ' '] ++ consequent.spelling ++
          [' ', ':', ' '] ++ alternate.spelling := by
      simp
    rw [written] at branches
    exact branches.parenthesized

end Formula

end FieldFormula
