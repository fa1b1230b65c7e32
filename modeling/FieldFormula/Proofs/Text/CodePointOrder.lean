import FieldFormula.Value.Operation
import Mathlib.Tactic.SplitIfs

/-!
# The order of texts

Texts are ordered by the code points of their characters, which are compared one after another; of
two texts of which one begins with the other, the shorter one comes first. `compare_utf8`
shows that the bytes of their UTF-8 forms are in the same order: of two characters the one with the
lower code point has the lower byte at the first place at which their bytes differ, and there is such
a place before either of them ends.
-/

namespace FieldFormula.Text

/-- The code points of a text. -/
def codePoints (text : List Char) : List Nat :=
  text.map Char.toNat

/-- The bytes of a character in UTF-8. -/
def utf8Char (c : Char) : List Nat :=
  (String.utf8EncodeChar c).map UInt8.toNat

/-- The bytes of a text in UTF-8. -/
def utf8 (text : String) : List Nat :=
  text.toByteArray.data.toList.map UInt8.toNat

theorem utf8_eq (text : String) : utf8 text = text.toList.flatMap utf8Char := by
  have bytes : text.toByteArray = (text.toList.flatMap String.utf8EncodeChar).toByteArray := by
    rw [← List.utf8Encode.eq_1, String.utf8Encode_toList]
  rw [utf8, bytes, List.toList_data_toByteArray, List.map_flatMap]
  rfl

theorem compareTexts_eq_codePoints (left right : List Char) :
    Value.compareTexts left right = compare (codePoints left) (codePoints right) := by
  induction left generalizing right with
  | nil => cases right <;> rfl
  | cons c others ih =>
    cases right with
    | nil => rfl
    | cons d behind =>
      rw [Value.compareTexts, ih]
      exact List.compare_cons_cons.symm

/-! ### Bytes -/

/-- Both have a byte at the first place at which they differ, and there the first has the lower. -/
def DiffersBelow : List Nat → List Nat → Prop
  | a :: left, b :: right => a < b ∨ a = b ∧ DiffersBelow left right
  | _, _ => False

theorem DiffersBelow.compare_append {left right : List Nat} (below : DiffersBelow left right)
    (more rest : List Nat) : compare (left ++ more) (right ++ rest) = .lt := by
  induction left generalizing right with
  | nil => cases below
  | cons a others ih =>
    cases right with
    | nil => cases below
    | cons b behind =>
      rw [List.cons_append, List.cons_append, List.compare_cons_cons]
      rcases below with lower | ⟨rfl, later⟩
      · rw [Nat.compare_eq_lt.2 lower]
        rfl
      · rw [ih later, Nat.compare_eq_eq.2 rfl]
        rfl

theorem compare_append_left (same left right : List Nat) :
    compare (same ++ left) (same ++ right) = compare left right := by
  induction same with
  | nil => rfl
  | cons a others ih =>
    rw [List.cons_append, List.cons_append, List.compare_cons_cons, ih, Nat.compare_eq_eq.2 rfl]
    rfl

theorem toNat_lt (c : Char) : c.toNat < 0x110000 := by
  have valid := c.valid
  simp only [UInt32.isValidChar, Nat.isValidChar, Char.toNat_val] at valid
  omega

/-- The bytes of a character have six binary digits each, but for the first one, which also tells
how many bytes there are. -/
theorem utf8Char_eq (c : Char) :
    utf8Char c =
      if c.toNat ≤ 0x7f then [c.toNat]
      else if c.toNat ≤ 0x7ff then [c.toNat / 64 + 0xc0, c.toNat % 64 + 0x80]
      else if c.toNat ≤ 0xffff then
        [c.toNat / 4096 + 0xe0, c.toNat / 64 % 64 + 0x80, c.toNat % 64 + 0x80]
      else
        [c.toNat / 262144 + 0xf0, c.toNat / 4096 % 64 + 0x80, c.toNat / 64 % 64 + 0x80,
          c.toNat % 64 + 0x80] := by
  have largest := toNat_lt c
  simp only [utf8Char, String.utf8EncodeChar, Char.toNat_val]
  split_ifs <;> simp <;> omega

theorem differsBelow_utf8Char {c d : Char} (lower : c.toNat < d.toNat) :
    DiffersBelow (utf8Char c) (utf8Char d) := by
  have largest := toNat_lt d
  rw [utf8Char_eq, utf8Char_eq]
  -- A character of more bytes has the higher first byte.
  split_ifs <;> simp only [DiffersBelow] <;> omega

/-- What follows a character is compared only if the characters are the same. -/
theorem compare_utf8Char_append (c d : Char) (more rest : List Nat) :
    compare (utf8Char c ++ more) (utf8Char d ++ rest) =
      (compare c.toNat d.toNat).then (compare more rest) := by
  rcases Nat.lt_trichotomy c.toNat d.toNat with lower | same | higher
  · rw [(differsBelow_utf8Char lower).compare_append, Nat.compare_eq_lt.2 lower]
    rfl
  · obtain rfl := Char.toNat_inj.1 same
    rw [compare_append_left, Nat.compare_eq_eq.2 rfl]
    rfl
  · rw [Std.OrientedOrd.eq_swap, (differsBelow_utf8Char higher).compare_append,
      Nat.compare_eq_gt.2 higher]
    rfl

theorem exists_cons_utf8Char (c : Char) : ∃ byte bytes, utf8Char c = byte :: bytes := by
  rw [utf8Char_eq]
  split_ifs <;> exact ⟨_, _, rfl⟩

theorem compare_flatMap_utf8Char (left right : List Char) :
    compare (left.flatMap utf8Char) (right.flatMap utf8Char) =
      compare (codePoints left) (codePoints right) := by
  induction left generalizing right with
  | nil =>
    cases right with
    | nil => rfl
    | cons d behind =>
      obtain ⟨byte, bytes, shown⟩ := exists_cons_utf8Char d
      rw [List.flatMap_cons, shown]
      rfl
  | cons c others ih =>
    cases right with
    | nil =>
      obtain ⟨byte, bytes, shown⟩ := exists_cons_utf8Char c
      rw [List.flatMap_cons, shown]
      rfl
    | cons d behind =>
      rw [List.flatMap_cons, List.flatMap_cons, compare_utf8Char_append, ih]
      exact List.compare_cons_cons.symm

/-- **The order of texts is the order of their bytes.** -/
theorem compare_utf8 (left right : String) :
    compare (utf8 left) (utf8 right) =
      compare (codePoints left.toList) (codePoints right.toList) := by
  rw [utf8_eq, utf8_eq, compare_flatMap_utf8Char]

end FieldFormula.Text
