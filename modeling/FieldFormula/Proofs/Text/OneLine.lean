import FieldFormula.Proofs.Number.Numeral
import FieldFormula.Proofs.SpelledTokens

/-!
# Texts on one line

A message is put together from fixed words, from numbers, from names, and from quoted text that may
come from anywhere. Each of these pieces stays on its line, and so does what is joined from them.
-/

namespace FieldFormula

/-- No character of the text ends or disturbs its line. -/
def OnOneLine (text : String) : Prop :=
  ∀ c ∈ text.toList, Text.breaksLine c = false

instance (text : String) : Decidable (OnOneLine text) :=
  decidable_of_iff (text.toList.all fun c => !Text.breaksLine c) (by simp [OnOneLine])

namespace OnOneLine

@[simp] theorem append_iff {text more : String} :
    OnOneLine (text ++ more) ↔ OnOneLine text ∧ OnOneLine more := by
  simp only [OnOneLine, String.toList_append, List.mem_append, or_imp, forall_and]

theorem ofList_iff {text : List Char} :
    OnOneLine (String.ofList text) ↔ ∀ c ∈ text, Text.breaksLine c = false := by
  rw [OnOneLine, String.toList_ofList]

theorem intercalate {separator : String} {texts : List String} (between : OnOneLine separator)
    (each : ∀ text ∈ texts, OnOneLine text) : OnOneLine (separator.intercalate texts) := by
  induction texts with
  | nil => simp [OnOneLine]
  | cons text rest ih =>
    have first := each text (.head _)
    have others := ih fun other member => each other (.tail _ member)
    cases rest with
    | nil => simpa using first
    | cons second rest =>
      rw [String.intercalate_cons_cons, append_iff, append_iff]
      exact ⟨⟨first, between⟩, others⟩

end OnOneLine

namespace Text

theorem breaksLine_of_ascii {c : Char} (low : 0x20 ≤ c.toNat) (high : c.toNat < 0x7f) :
    breaksLine c = false := by
  simp only [breaksLine, Bool.or_eq_false_iff, Bool.and_eq_false_iff, decide_eq_false_iff_not,
    beq_eq_false_iff_ne]
  omega

/-! ### Numbers -/

theorem breaksLine_of_isDigit {c : Char} (digit : isDigit c = true) : breaksLine c = false := by
  have range := Token.toNat_of_isDigit digit
  exact breaksLine_of_ascii (by omega) (by omega)

theorem breaksLine_digitChar : ∀ digit < 16, breaksLine (Nat.digitChar digit) = false := by
  decide

theorem breaksLine_of_mem_toDigits {base n : Nat} (proper : 1 < base) (small : base ≤ 16) {c : Char}
    (member : c ∈ Nat.toDigits base n) : breaksLine c = false := by
  induction n using Nat.strongRecOn with
  | _ n ih =>
    rw [Nat.toDigits_eq_if proper] at member
    split at member
    · rw [List.mem_singleton.1 member]
      exact breaksLine_digitChar n (by omega)
    · rcases List.mem_append.1 member with front | last
      · exact ih (n / base) (Nat.div_lt_self (by omega) proper) front
      · have below : n % base < base := Nat.mod_lt n (by omega)
        rw [List.mem_singleton.1 last]
        exact breaksLine_digitChar _ (by omega)

@[simp] theorem onOneLine_natural (n : Nat) : OnOneLine (toString n) := by
  rw [Nat.toString_eq_ofList_toDigits, OnOneLine.ofList_iff]
  exact fun c member => breaksLine_of_mem_toDigits (by decide) (by decide) member

end Text

namespace Decimal

theorem IsNumeral.breaksLine {whole fraction : List Char} (numeral : IsNumeral whole fraction) :
    ∀ c ∈ whole ++ pointed fraction, Text.breaksLine c = false := by
  intro c member
  rcases List.mem_append.1 member with inWhole | inFraction
  · exact Text.breaksLine_of_isDigit (numeral.whole_digits c inWhole)
  · cases fraction with
    | nil => cases inFraction
    | cons digit others =>
      rcases List.mem_cons.1 inFraction with rfl | digits
      · rfl
      · exact Text.breaksLine_of_isDigit (numeral.fraction_digits c digits)

/-- The sign of a decimal stands in front of the numeral without it. -/
theorem breaksLine_of_mem_positional (d : Decimal) {c : Char} (member : c ∈ d.positional) :
    Text.breaksLine c = false := by
  obtain ⟨whole, fraction, numeral, written, _⟩ :=
    @exists_numeral_positional { d with negative := false } rfl
  have plain := numeral.breaksLine
  rw [← written] at plain
  obtain ⟨negative, coefficient, exponent⟩ := d
  cases negative with
  | false => exact plain c member
  | true =>
    rcases List.mem_cons.1 member with rfl | unsigned
    · rfl
    · exact plain c unsigned

end Decimal

@[simp] theorem Binary64.onOneLine_toText (x : Binary64) : OnOneLine x.toText := by
  cases x with
  | nan => decide
  | infinite negative => cases negative <;> decide
  | finite negative units representable =>
    rw [toText, OnOneLine.ofList_iff]
    exact fun c member => Decimal.breaksLine_of_mem_positional _ member

namespace Text

/-! ### Names -/

theorem breaksLine_of_isNamePart {c : Char} (part : isNamePart c = true) :
    breaksLine c = false := by
  simp only [isNamePart, Char.isAlphanum, Bool.or_eq_true] at part
  rcases part with (letter | digit) | underscore
  · have range := Token.toNat_of_isNameStart (c := c) (by simp [isNameStart, letter])
    exact breaksLine_of_ascii (by omega) (by omega)
  · exact breaksLine_of_isDigit digit
  · rw [beq_iff_eq.1 underscore]
    rfl

theorem onOneLine_of_isName {name : String} (spelled : isName name = true) : OnOneLine name := by
  unfold isName at spelled
  intro c member
  split at spelled
  next empty => simp [empty] at member
  next first others shown =>
    simp only [Bool.and_eq_true, List.all_eq_true] at spelled
    obtain ⟨⟨start, parts⟩, _⟩ := spelled
    rw [shown] at member
    rcases List.mem_cons.1 member with rfl | later
    · exact breaksLine_of_isNamePart (isNamePart_of_isNameStart start)
    · exact breaksLine_of_isNamePart (parts c later)

/-! ### Quoted text -/

private theorem breaksLine_pair {c d : Char} (first : breaksLine c = false)
    (second : breaksLine d = false) : ∀ e ∈ [c, d], breaksLine e = false := by
  simpa using ⟨first, second⟩

/-- What is not printable is written with a backslash. -/
theorem breaksLine_escape {mark : Char} (markStays : breaksLine mark = false) (c : Char) :
    ∀ d ∈ escape mark c, breaksLine d = false := by
  unfold escape escapeCodePoint
  split_ifs with null tab feed newline backslashOrMark printable
  · exact breaksLine_pair rfl rfl
  · exact breaksLine_pair rfl rfl
  · exact breaksLine_pair rfl rfl
  · exact breaksLine_pair rfl rfl
  · simp only [Bool.or_eq_true, decide_eq_true_eq] at backslashOrMark
    rcases backslashOrMark with rfl | rfl
    · exact breaksLine_pair rfl rfl
    · exact breaksLine_pair rfl markStays
  · simp only [Bool.and_eq_true] at printable
    exact List.forall_mem_singleton.2 (breaksLine_of_isPrintable printable.1)
  · have digits : ∀ d ∈ Nat.toDigits 16 c.toNat, breaksLine d = false :=
      fun d digit => breaksLine_of_mem_toDigits (by decide) (by decide) digit
    simp only [List.forall_mem_append]
    exact ⟨⟨List.forall_mem_cons.2 ⟨rfl, breaksLine_pair rfl rfl⟩, digits⟩,
      List.forall_mem_singleton.2 rfl⟩

/-- **A quoted text stays on its line**, whatever the text. -/
@[simp] theorem onOneLine_quoteText (text : String) : OnOneLine (quoteText text) := by
  have inside : ∀ d ∈ text.toList.flatMap (escape '"'), breaksLine d = false := by
    intro d member
    obtain ⟨c, _, escaped⟩ := List.mem_flatMap.1 member
    exact breaksLine_escape rfl c d escaped
  rw [quoteText, OnOneLine.ofList_iff, List.forall_mem_append, List.forall_mem_cons]
  exact ⟨⟨rfl, inside⟩, List.forall_mem_singleton.2 rfl⟩

@[simp] theorem onOneLine_quoteChar (c : Char) : OnOneLine (quoteChar c) := by
  rw [quoteChar, OnOneLine.ofList_iff, List.forall_mem_append, List.forall_mem_cons]
  exact ⟨⟨rfl, breaksLine_escape rfl c⟩, List.forall_mem_singleton.2 rfl⟩

@[simp] theorem onOneLine_quoteList (texts : List String) : OnOneLine (quoteList texts) := by
  have listed : OnOneLine (", ".intercalate (texts.map quoteText)) := by
    refine OnOneLine.intercalate (by decide) fun text member => ?_
    obtain ⟨inner, _, rfl⟩ := List.mem_map.1 member
    exact onOneLine_quoteText inner
  rw [quoteList, OnOneLine.append_iff, OnOneLine.append_iff]
  exact ⟨⟨by decide, listed⟩, by decide⟩

end Text

end FieldFormula
