import FieldFormula.Formula.Admissible
import FieldFormula.Proofs.Alphabet
import FieldFormula.Proofs.Number.Rounding
import FieldFormula.Proofs.Number.Spelling

/-!
# Tokens of an allowed text

Scanning makes sure of what `Formula.refusal?` asks of a node: names are spelled like names and are
no reserved words, numbers are finite, and quoted texts hold allowed characters and at most one of
the quote marks. `Scans.isSafe` carries this from the characters to all tokens of a text.
-/

namespace FieldFormula

namespace Token

/-! ### Safe tokens -/

/-- A formula may have the token: if it stands for a node, the node is admitted, and a number has no
minus sign. -/
def Kind.IsSafe : Kind → Prop
  | .number value => value.isFinite = true ∧ value.isNegative = false
  | .text value => (Literal.text value).flaw? = none
  | .identifier name => Text.isName name = true
  | _ => True

variable {c : Char} {rest text : List Char} {kind : Kind}

theorem text_isSafe {inside : List Char} (quote : c = '"' ∨ c = '\'') (noMark : c ∉ inside)
    (allowed : AllAllowed inside) : (Kind.text (String.ofList inside)).IsSafe := by
  have noForeign : inside.find? (fun c => !Text.isAllowed c) = none := by
    rw [List.find?_eq_none]
    intro c member
    simp [allowed c member]
  have oneQuote : ¬ ('"' ∈ inside ∧ '\'' ∈ inside) := by
    rintro ⟨double, single⟩
    rcases quote with rfl | rfl
    · exact noMark double
    · exact noMark single
  simp only [Kind.IsSafe, Literal.flaw?, String.toList_ofList, noForeign, if_neg oneQuote]

/-- What is read from the digits has passed the range check, and no sign stands before them. -/
theorem number_isSafe {others : List Char} {value : Binary64}
    (starts : Text.isDigit c = true ∨ c = '.')
    (read : ((Decimal.parse? (c :: others)).map Decimal.toBinary64).filter Binary64.isFinite =
      some value) : (Kind.number value).IsSafe := by
  have noMinus : c ≠ '-' := by
    rintro rfl
    simp [Text.isDigit] at starts
  obtain ⟨numeral, finite⟩ := Option.filter_eq_some_iff.1 read
  obtain ⟨d, parsed, rfl⟩ := Option.map_eq_some_iff.1 numeral
  refine ⟨finite, ?_⟩
  rw [Decimal.isNegative_toBinary64]
  exact (Decimal.parse?_eq_some_iff.1 parsed).unsigned (by simpa using noMinus)

theorem ofWord_isSafe (start : Text.isNameStart c = true) (parts : ∀ d ∈ rest, Text.isNamePart d) :
    (Kind.ofWord (String.ofList (c :: rest))).IsSafe := by
  unfold Kind.ofWord
  split
  · trivial
  · split
    · trivial
    next notTrue notFalse =>
      have free : String.ofList (c :: rest) ∉ Text.reservedWords := by
        rw [Text.reservedWords, List.mem_cons, List.mem_singleton]
        rintro (same | same)
        · exact notTrue same
        · exact notFalse same
      simp only [Kind.IsSafe, Text.isName, String.toList_ofList, start, List.all_eq_true.2 parts,
        List.contains_eq_mem, free, decide_false, Bool.not_false, Bool.and_self]

/-- **The token at the front of an allowed text is safe.** -/
theorem Finds.isSafe {taken : List Char} (finds : Finds c rest (.ok kind) taken)
    (allowed : AllAllowed rest) : kind.IsSafe := by
  cases finds with
  | sign listed =>
    simp only [signs, List.mem_cons, Prod.mk.injEq, List.not_mem_nil, or_false] at listed
    rcases listed with ⟨_, rfl⟩ | ⟨_, rfl⟩ | ⟨_, rfl⟩ | ⟨_, rfl⟩ <;> trivial
  | text quote noMark split =>
    exact text_isSafe quote noMark fun d member => allowed d (split ▸ List.mem_append_left _ member)
  | number starts _ read => exact number_isSafe starts read
  | word start parts _ => exact ofWord_isSafe start parts
  | operator _ _ _ => trivial

/-- **All tokens of an allowed text are safe.** -/
theorem Scans.isSafe {offset : Nat} {tokens : List Token} (scans : Scans offset text tokens)
    (allowed : AllAllowed text) : ∀ token ∈ tokens, token.kind.IsSafe := by
  induction scans with
  | ended blank =>
    intro token member
    obtain rfl := List.mem_singleton.1 member
    trivial
  | @token _ text c rest kind taken others shown found later ih =>
    -- The rest of the text is allowed as a part of it, and what follows the token as a part of that.
    have rest_subset : rest ⊆ text := fun d member =>
      (List.dropWhile_sublist Text.isBlank).subset (shown ▸ List.mem_cons_of_mem c member)
    have rest_allowed : AllAllowed rest := fun d member => allowed d (rest_subset member)
    intro token member
    rcases List.mem_cons.1 member with rfl | behind
    · exact (finds_of_front found).isSafe rest_allowed
    · exact ih (fun d member => rest_allowed d (List.mem_of_mem_drop member)) token behind

end Token

end FieldFormula
