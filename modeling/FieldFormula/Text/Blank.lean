import FieldFormula.Text.CharRange

/-!
# Blank characters

Blanks separate the tokens of a formula and surround numbers written as text. They are the
characters with the Unicode property `White_Space`.
-/

namespace FieldFormula.Text

/-- The characters with the Unicode property `White_Space`. -/
def blankRanges : List CharRange :=
  [⟨0x9, 0xd⟩, ⟨0x20, 0x20⟩, ⟨0x85, 0x85⟩, ⟨0xa0, 0xa0⟩, ⟨0x1680, 0x1680⟩, ⟨0x2000, 0x200a⟩,
    ⟨0x2028, 0x2029⟩, ⟨0x202f, 0x202f⟩, ⟨0x205f, 0x205f⟩, ⟨0x3000, 0x3000⟩]

def isBlank (c : Char) : Bool :=
  CharRange.anyHolds blankRanges c

/-- The text holds nothing but blanks. -/
def allBlank (text : List Char) : Bool :=
  text.all isBlank

def trimStart (text : List Char) : List Char :=
  text.dropWhile isBlank

/-- The text without the blanks at either end. -/
def trim (text : List Char) : List Char :=
  (trimStart (trimStart text).reverse).reverse

/-! ### Nothing but blanks -/

theorem trim_eq_nil_iff {text : List Char} : trim text = [] ↔ allBlank text = true := by
  have start_nil : ∀ {cs : List Char}, trimStart cs = [] ↔ ∀ c ∈ cs, isBlank c = true := by
    intro cs
    induction cs with
    | nil => simp [trimStart]
    | cons c rest ih =>
      simp only [trimStart] at ih
      by_cases blank : isBlank c = true <;> simp [trimStart, List.dropWhile, blank, ih]
  rw [trim, List.reverse_eq_nil_iff, start_nil, allBlank, List.all_eq_true]
  constructor
  · intro rest_blank
    have no_rest : trimStart text = [] := by
      cases shown : trimStart text with
      | nil => rfl
      | cons c rest =>
        have blank := rest_blank c (by simp [shown])
        have head := List.head?_dropWhile_not isBlank text
        simp only [trimStart] at shown
        simp [shown, blank] at head
    exact start_nil.1 no_rest
  · intro all_blank c member
    exact all_blank c ((List.dropWhile_sublist isBlank).subset (List.mem_reverse.1 member))

end FieldFormula.Text
