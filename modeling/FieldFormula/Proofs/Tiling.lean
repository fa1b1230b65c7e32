import FieldFormula.Proofs.Lexemes
import FieldFormula.Proofs.Places
import Mathlib.Data.String.Basic

/-!
# How tokens tile a text

The tokens of a text stand next to one another in its order, with nothing but blanks around them.
What a span shows is cut out of the source byte by byte, so a token that began or ended inside a
character would not show its own spelling.

## Main result

`tile_of_scan`: the tokens of a source tile it, each is written where its span says, and none could
be longer.
-/

namespace FieldFormula

/-! ### What a span shows -/

/-- The part of the source between the two ends of the span. -/
def Span.textIn (span : Span) (source : String) : String :=
  String.Pos.Raw.extract source ⟨span.start⟩ ⟨span.stop⟩

theorem utf8Len_eq_byteLength (text : List Char) : String.utf8Len text = byteLength text := by
  induction text with
  | nil => rfl
  | cons c rest ih => rw [String.utf8Len_cons, ih, byteLength, Nat.add_comm]

/-- A span that begins and ends between characters shows the characters between them. -/
theorem Span.textIn_eq {source : String} {before part after : List Char}
    (split : source.toList = before ++ (part ++ after)) :
    Span.textIn ⟨byteLength before, byteLength before + byteLength part⟩ source =
      String.ofList part := by
  have cut := String.extract_of_valid before part after
  rwa [utf8Len_eq_byteLength, utf8Len_eq_byteLength, List.append_assoc, ← split,
    String.ofList_toList] at cut

namespace Token

/-! ### Tiles -/

/-- The token is written where its span says, from one character boundary to another, and nothing
behind it could have made it longer. -/
structure ShownIn (token : Token) (source : String) : Prop where
  nonempty : token.span.start < token.span.stop
  start_isValid : String.Pos.Raw.IsValid source ⟨token.span.start⟩
  stop_isValid : String.Pos.Raw.IsValid source ⟨token.span.stop⟩
  written : token.kind.Written (token.span.textIn source).toList
  ended : token.kind.EndsBefore (Span.textIn ⟨token.span.stop, source.utf8ByteSize⟩ source).toList

/-- The character that starts at the given byte lies inside the token. -/
def Covers (token : Token) (start : Nat) (c : Char) : Prop :=
  token.span.start ≤ start ∧ start + c.utf8Size ≤ token.span.stop

/-- The tokens are shown in the source in this order, and whatever is not part of one is blank. -/
structure Tile (tokens : List Token) (source : String) : Prop where
  shown : ∀ token ∈ tokens, token.ShownIn source
  ordered : tokens.Pairwise fun first second => first.span.stop ≤ second.span.start
  blank : ∀ before c after, source.toList = before ++ c :: after →
    (∃ token ∈ tokens, token.Covers (byteLength before) c) ∨ Text.isBlank c = true

/-! ### What is scanned is tiled -/

variable {c : Char} {rest text source taken : List Char} {offset : Nat} {kind : Kind}
  {tokens : List Token}

/-- Like `ShownIn`, with the source cut into characters. -/
def CutFrom (token : Token) (source : List Char) : Prop :=
  ∃ before part after, source = before ++ (part ++ after) ∧
    token.span = ⟨byteLength before, byteLength before + byteLength part⟩ ∧ part ≠ [] ∧
    token.kind.Written part ∧ token.kind.EndsBefore after

theorem CutFrom.shownIn {token : Token} {source : String} (cut : token.CutFrom source.toList) :
    token.ShownIn source := by
  obtain ⟨before, part, after, split, span, visible, written, ended⟩ := cut
  have bytes := byteLength_pos visible
  have splitBehind : source.toList = (before ++ part) ++ (after ++ []) := by simp [split]
  have size : source.utf8ByteSize = byteLength (before ++ part) + byteLength after := by
    rw [← byteLength_append, ← utf8ByteSize_ofList, List.append_assoc, ← split, String.ofList_toList]
  refine ⟨?_, ?_, ?_, ?_, ?_⟩ <;> rw [span]
  · exact Nat.lt_add_of_pos_right bytes
  · exact isValid_byteLength split
  · rw [← byteLength_append]
    exact isValid_byteLength (splitBehind.trans (by rw [List.append_nil]))
  · rwa [Span.textIn_eq split, String.toList_ofList]
  · dsimp only
    rwa [← byteLength_append, size, Span.textIn_eq splitBehind, String.toList_ofList]

/-- A token that is found is cut off the front of the text. -/
theorem LeftOf.cutFrom (left : LeftOf source offset text)
    (shown : text.dropWhile Text.isBlank = c :: rest) (found : front c rest = (.ok kind, taken)) :
    CutFrom ⟨kind, ⟨tokenStart offset text, tokenStart offset text + byteLength taken⟩⟩ source := by
  obtain ⟨before, split, start⟩ := left.split shown found
  have visible := (finds_of_front found).taken.1
  obtain ⟨behind, whole, written, ended⟩ := begins_of_front found
  obtain ⟨first, others, rfl⟩ := List.exists_cons_of_ne_nil visible
  obtain ⟨-, rfl⟩ := List.cons.inj whole
  exact ⟨before, first :: others, behind, by simpa using split, by rw [start], visible, written,
    ended⟩

/-- **The end of the input stands at the end of the source**, behind tokens that are cut from it. -/
theorem Scans.cutFrom (scans : Scans offset text tokens) (left : LeftOf source offset text) :
    ∃ own, tokens = own ++ [⟨.endOfInput, ⟨byteLength source, byteLength source⟩⟩] ∧
      ∀ token ∈ own, token.kind ≠ .endOfInput ∧ token.CutFrom source := by
  induction scans with
  | @ended offset text blank =>
    obtain ⟨before, rfl, rfl⟩ := left
    have blanks := List.takeWhile_append_dropWhile (p := Text.isBlank) (l := text)
    rw [blank, List.append_nil] at blanks
    exact ⟨[], by simp [tokenStart, blanks, byteLength_append], by simp⟩
  | @token _ _ c rest kind taken others shown found later ih =>
    obtain ⟨own, rfl, cut⟩ := ih (left.step shown found)
    refine ⟨_ :: own, rfl, fun token member => ?_⟩
    rcases List.mem_cons.1 member with rfl | behind
    · exact ⟨(finds_of_front found).ne_endOfInput, left.cutFrom shown found⟩
    · exact cut token behind

theorem Scans.offset_le_start (scans : Scans offset text tokens) :
    ∀ token ∈ tokens, offset ≤ token.span.start := by
  induction scans with
  | ended blank => simp [tokenStart]
  | @token offset text c rest kind taken others shown found later ih =>
    have first : offset ≤ tokenStart offset text := Nat.le_add_right _ _
    intro token member
    rcases List.mem_cons.1 member with rfl | behind
    · exact first
    · have next := ih token behind
      omega

theorem Scans.ordered (scans : Scans offset text tokens) :
    tokens.Pairwise fun first second => first.span.stop ≤ second.span.start := by
  induction scans with
  | ended blank => exact List.pairwise_singleton _ _
  | token shown found later ih => exact .cons later.offset_le_start ih

/-- An element of two joined lists stands in the first one or in the second one. -/
theorem split_append {α : Type} {first second before after : List α} {x : α}
    (split : first ++ second = before ++ x :: after) :
    x ∈ first ∧ (∃ more, first = before ++ x :: more) ∨
      ∃ more, before = first ++ more ∧ second = more ++ x :: after := by
  rcases List.append_eq_append_iff.1 split with ⟨more, longer, behind⟩ | ⟨more, shorter, behind⟩
  · exact .inr ⟨more, longer, behind⟩
  · cases more with
    | nil => exact .inr ⟨[], by simp [shorter], behind.symm⟩
    | cons y more =>
      obtain ⟨rfl, -⟩ := List.cons.inj behind
      exact .inl ⟨by simp [shorter], more, shorter⟩

theorem Scans.nodup_spans (scans : Scans offset text tokens) : (tokens.map span).Nodup := by
  induction scans with
  | ended blank => exact List.pairwise_singleton _ _
  | token shown found later ih =>
    -- Each later token starts behind this one, which is not empty.
    have bytes := byteLength_pos (finds_of_front found).taken.1
    refine List.nodup_cons.2 ⟨fun member => ?_, ih⟩
    obtain ⟨other, behind, same⟩ := List.mem_map.1 member
    have starts := later.offset_le_start other behind
    rw [same] at starts
    dsimp only at starts
    omega

/-- **No character is lost**: each is a blank or part of a token. -/
theorem Scans.covers (scans : Scans offset text tokens) : ∀ before d after,
    text = before ++ d :: after →
      (∃ token ∈ tokens, token.Covers (offset + byteLength before) d) ∨ Text.isBlank d = true := by
  induction scans with
  | @ended offset text blank =>
    intro before d after split
    have all := List.dropWhile_eq_nil_iff.1 blank
    exact .inr (all d (by simp [split]))
  | @token offset text c rest kind taken others shown found later ih =>
    intro before d after split
    rw [eq_append_of_front shown found] at split
    rcases split_append split with ⟨member, -⟩ | ⟨behindBlanks, rfl, splitShown⟩
    · exact .inr (List.mem_takeWhile_imp member)
    have start : offset + byteLength (text.takeWhile Text.isBlank ++ behindBlanks) =
        tokenStart offset text + byteLength behindBlanks := by
      rw [byteLength_append, ← Nat.add_assoc, tokenStart]
    rw [start]
    rcases split_append splitShown with ⟨-, more, inside⟩ | ⟨behindToken, rfl, splitBehind⟩
    · refine .inl ⟨_, .head _, Nat.le_add_right _ _, ?_⟩
      rw [inside, byteLength_append, byteLength]
      dsimp only
      omega
    · rcases ih behindToken d after splitBehind with ⟨token, member, covers⟩ | blank
      · refine .inl ⟨token, .tail _ member, ?_⟩
        rwa [byteLength_append, ← Nat.add_assoc]
      · exact .inr blank

theorem not_covers_of_empty {token : Token} {start : Nat}
    (empty : token.span.start = token.span.stop) : ¬ token.Covers start c := by
  rintro ⟨first, last⟩
  have bytes := c.utf8Size_pos
  omega

/-- **The tokens of a source tile it.** Behind them the end of the input stands at the end of the
source. Each other token is written in the bytes that it spans, from one character boundary to another,
and nothing behind these could have made it longer. The tokens stand in the order of the source without
overlapping, and every character outside of them is a blank. -/
theorem tile_of_scan {limits : Limits} {source : String} {tokens : List Token}
    (scanned : scan limits source.toList = .ok tokens) :
    ∃ own, tokens = own ++ [⟨.endOfInput, ⟨source.utf8ByteSize, source.utf8ByteSize⟩⟩] ∧
      (∀ token ∈ own, token.kind ≠ .endOfInput) ∧ Tile own source := by
  obtain ⟨_, scans, _⟩ := scan_eq_ok_iff.1 scanned
  have ordered := scans.ordered
  have covers := scans.covers
  obtain ⟨own, rfl, cut⟩ := scans.cutFrom (leftOf_self _)
  have size : source.utf8ByteSize = byteLength source.toList := by
    rw [← utf8ByteSize_ofList, String.ofList_toList]
  rw [size]
  refine ⟨own, rfl, fun token member => (cut token member).1,
    fun token member => (cut token member).2.shownIn, (List.pairwise_append.1 ordered).1, ?_⟩
  intro before c after split
  rcases covers before c after split with ⟨token, member, covered⟩ | blank
  · rw [Nat.zero_add] at covered
    rcases List.mem_append.1 member with inside | last
    · exact .inl ⟨token, inside, covered⟩
    · -- The end of the input has no place for a character.
      obtain rfl := List.mem_singleton.1 last
      exact absurd covered (not_covers_of_empty rfl)
  · exact .inr blank

/-- Blanks of two and three bytes, a point, a symbol that begins with two other ones, and a quote
mark inside of other ones. -/
theorem tile_of_scan_touching :
    let own : List Token := [⟨.number (.round false Binary64.unitsInOne 2), ⟨3, 5⟩⟩,
      ⟨.operator "!==", ⟨5, 8⟩⟩, ⟨.text "it's", ⟨8, 14⟩⟩]
    scan {} "\u3000.5!==\"it's\"\u00a0".toList = .ok (own ++ [⟨.endOfInput, ⟨16, 16⟩⟩]) ∧
      Tile own "\u3000.5!==\"it's\"\u00a0" := by
  intro own
  have scanned : scan {} "\u3000.5!==\"it's\"\u00a0".toList =
      .ok (own ++ [⟨.endOfInput, ⟨16, 16⟩⟩]) := by
    decide +kernel
  obtain ⟨tiles, tokens, -, tile⟩ := tile_of_scan scanned
  obtain rfl := List.append_inj_left' tokens rfl
  exact ⟨scanned, tile⟩

end Token

end FieldFormula
