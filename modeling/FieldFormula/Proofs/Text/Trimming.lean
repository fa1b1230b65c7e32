import FieldFormula.Text.Blank
import Mathlib.Data.List.TakeWhile

/-!
# Trimming

`Text.trim` drops blanks from one end of a text and, after turning it around, from the other.
`Text.TrimsTo` says what is left without going through the text: the text is the body with blanks
around it, and the body neither starts nor ends with one.

## Main result

`trim_eq_iff`: trimming leaves the body.
-/

namespace FieldFormula.Text

/-- The body is what is left of a text without the blanks around it. -/
structure TrimsTo (text body : List Char) : Prop where
  surrounded : ∃ before after, allBlank before = true ∧ allBlank after = true ∧
    text = before ++ (body ++ after)
  first_visible : ∀ c ∈ body.head?, isBlank c = false
  last_visible : ∀ c ∈ body.getLast?, isBlank c = false

theorem allBlank_append {text more : List Char} :
    allBlank (text ++ more) = true ↔ allBlank text = true ∧ allBlank more = true := by
  simp [allBlank]

theorem allBlank_reverse (text : List Char) : allBlank text.reverse = allBlank text := by
  simp [allBlank]

theorem allBlank_takeWhile (text : List Char) : allBlank (text.takeWhile isBlank) = true :=
  List.all_eq_true.2 fun _ member => List.mem_takeWhile_imp member

theorem trimStart_append {before text : List Char} (blank : allBlank before = true)
    (visible : ∀ c ∈ text.head?, isBlank c = false) : trimStart (before ++ text) = text := by
  rw [trimStart, List.dropWhile_append_of_pos (List.all_eq_true.1 blank)]
  cases text with
  | nil => rfl
  | cons c others =>
    have seen : isBlank c = false := visible c rfl
    rw [List.dropWhile_cons_of_neg (by simp [seen])]

theorem TrimsTo.trim_eq {text body : List Char} (trims : TrimsTo text body) : trim text = body := by
  obtain ⟨before, after, beforeBlank, afterBlank, rfl⟩ := trims.surrounded
  cases body with
  | nil =>
    rw [trim_eq_nil_iff, List.nil_append, allBlank_append]
    exact ⟨beforeBlank, afterBlank⟩
  | cons c others =>
    have startVisible : ∀ d ∈ (c :: others ++ after).head?, isBlank d = false :=
      trims.first_visible
    have endVisible : ∀ d ∈ (c :: others).reverse.head?, isBlank d = false := by
      rw [List.head?_reverse]
      exact trims.last_visible
    rw [trim, trimStart_append beforeBlank startVisible, List.reverse_append,
      trimStart_append (by rwa [allBlank_reverse]) endVisible, List.reverse_reverse]

theorem exists_trimStart (text : List Char) :
    ∃ before, allBlank before = true ∧ text = before ++ trimStart text :=
  ⟨text.takeWhile isBlank, allBlank_takeWhile text, List.takeWhile_append_dropWhile.symm⟩

theorem visible_trimStart (text : List Char) : ∀ c ∈ (trimStart text).head?, isBlank c = false := by
  intro c first
  have head := List.head?_dropWhile_not isBlank text
  rw [trimStart] at first
  rw [first] at head
  simpa using head

theorem trimsTo_trim (text : List Char) : TrimsTo text (trim text) := by
  obtain ⟨before, beforeBlank, split⟩ := exists_trimStart text
  -- The blanks at the end are those in front of the reversed text.
  obtain ⟨after, afterBlank, split'⟩ := exists_trimStart (trimStart text).reverse
  have kept : trimStart text = trim text ++ after.reverse := by
    rw [trim, ← List.reverse_append, ← split', List.reverse_reverse]
  refine ⟨⟨before, after.reverse, beforeBlank, by rwa [allBlank_reverse], by rw [← kept, ← split]⟩,
    ?_, ?_⟩
  · intro c first
    refine visible_trimStart text c ?_
    rw [kept, List.head?_append, Option.mem_def.1 first]
    rfl
  · rw [trim, List.getLast?_reverse]
    exact visible_trimStart _

theorem trim_eq_iff {text body : List Char} : trim text = body ↔ TrimsTo text body := by
  constructor
  · rintro rfl
    exact trimsTo_trim text
  · exact TrimsTo.trim_eq

end FieldFormula.Text
