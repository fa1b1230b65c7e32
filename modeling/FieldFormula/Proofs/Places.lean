import FieldFormula.Proofs.Alphabet
import FieldFormula.Proofs.Grammar.Blame
import FieldFormula.Proofs.Grammar.Parentheses

/-!
# Where syntax errors point

Offsets count the bytes of a text, but nothing is read in smaller steps than characters. While a text is
scanned, the offset is the length of what lies behind, so a token begins and ends between characters.
Each error shows the whole text, a token, or a part at the front of what is left, and so does not cut
any character either.

## Main result

`span_of_parse`: the span of a syntax error lies in the source, its ends lie between characters, and it
is empty only at the end of the source.
-/

namespace FieldFormula

/-! ### Parts of a text -/

/-- The span is that of a part of the text. The part is empty only if nothing follows it. -/
def Span.Marks (span : Span) (text : List Char) : Prop :=
  ∃ before part after, text = before ++ (part ++ after) ∧
    span = ⟨byteLength before, byteLength before + byteLength part⟩ ∧ (part = [] → after = [])

theorem Span.ofText_marks (text : List Char) : (Span.ofText text).Marks text :=
  ⟨[], text, [], by simp, by simp [Span.ofText, byteLength], fun _ => rfl⟩

theorem byteLength_pos {text : List Char} (shown : text ≠ []) : 0 < byteLength text := by
  obtain ⟨c, rest, rfl⟩ := List.exists_cons_of_ne_nil shown
  exact Nat.lt_of_lt_of_le c.utf8Size_pos (Nat.le_add_right _ _)

theorem utf8ByteSize_ofList (text : List Char) :
    (String.ofList text).utf8ByteSize = byteLength text := by
  induction text with
  | nil => rfl
  | cons c rest ih =>
    rw [String.ofList_cons, String.utf8ByteSize_append, String.utf8ByteSize_singleton, ih, byteLength]

/-- The byte behind the first characters of a text is where the next character begins. -/
theorem isValid_byteLength {source : String} {before after : List Char}
    (split : source.toList = before ++ after) :
    String.Pos.Raw.IsValid source ⟨byteLength before⟩ := by
  rw [String.Pos.Raw.isValid_iff_exists_append]
  refine ⟨String.ofList before, String.ofList after, ?_, ?_⟩
  · rw [← String.ofList_append, ← split, String.ofList_toList]
  · rw [← utf8ByteSize_ofList]
    rfl

namespace Token

/-! ### Scanning -/

variable {c : Char} {rest text source taken : List Char} {offset : Nat}
  {result : Except SyntaxError.Cause Kind}

/-- The text is what is left of the source behind its first `offset` bytes. -/
def LeftOf (source : List Char) (offset : Nat) (text : List Char) : Prop :=
  ∃ before, source = before ++ text ∧ offset = byteLength before

theorem LeftOf.marks_end (left : LeftOf source offset text)
    (blank : text.dropWhile Text.isBlank = []) :
    Span.Marks ⟨tokenStart offset text, tokenStart offset text⟩ source := by
  obtain ⟨before, rfl, rfl⟩ := left
  have blanks := List.takeWhile_append_dropWhile (p := Text.isBlank) (l := text)
  rw [blank, List.append_nil] at blanks
  refine ⟨before ++ text, [], [], by simp, ?_, fun _ => rfl⟩
  simp [tokenStart, blanks, byteLength_append, byteLength]

/-- What is found stands behind the blanks at the front of a text. -/
theorem eq_append_of_front (shown : text.dropWhile Text.isBlank = c :: rest)
    (found : front c rest = (result, taken)) :
    text = text.takeWhile Text.isBlank ++ (taken ++ rest.drop (taken.length - 1)) := by
  obtain ⟨visible, more, whole⟩ := (finds_of_front found).taken
  obtain ⟨first, others, rfl⟩ := List.exists_cons_of_ne_nil visible
  obtain ⟨rfl, rfl⟩ := List.cons.inj whole
  have blanks := List.takeWhile_append_dropWhile (p := Text.isBlank) (l := text)
  simpa [shown] using blanks.symm

theorem LeftOf.split (left : LeftOf source offset text)
    (shown : text.dropWhile Text.isBlank = c :: rest) (found : front c rest = (result, taken)) :
    ∃ before, source = before ++ (taken ++ rest.drop (taken.length - 1)) ∧
      tokenStart offset text = byteLength before := by
  obtain ⟨before, rfl, rfl⟩ := left
  refine ⟨before ++ text.takeWhile Text.isBlank, ?_, ?_⟩
  · rw [List.append_assoc, ← eq_append_of_front shown found]
  · rw [byteLength_append, tokenStart]

theorem LeftOf.marks (left : LeftOf source offset text)
    (shown : text.dropWhile Text.isBlank = c :: rest) (found : front c rest = (result, taken)) :
    Span.Marks ⟨tokenStart offset text, tokenStart offset text + byteLength taken⟩ source := by
  obtain ⟨before, rfl, start⟩ := left.split shown found
  have visible := (finds_of_front found).taken.1
  exact ⟨before, taken, _, rfl, by rw [start], fun empty => absurd empty visible⟩

theorem LeftOf.step (left : LeftOf source offset text)
    (shown : text.dropWhile Text.isBlank = c :: rest) (found : front c rest = (result, taken)) :
    LeftOf source (tokenStart offset text + byteLength taken) (rest.drop (taken.length - 1)) := by
  obtain ⟨before, rfl, start⟩ := left.split shown found
  exact ⟨before ++ taken, by simp, by rw [byteLength_append, start]⟩

/-- **Tokens show parts of the source.** -/
theorem Scans.marks {tokens : List Token} (scans : Scans offset text tokens)
    (left : LeftOf source offset text) : ∀ token ∈ tokens, token.span.Marks source := by
  induction scans with
  | ended blank =>
    intro token member
    obtain rfl := List.mem_singleton.1 member
    exact left.marks_end blank
  | @token offset text c rest kind taken others shown found later ih =>
    intro token member
    rcases List.mem_cons.1 member with rfl | behind
    · exact left.marks shown found
    · exact ih (left.step shown found) token behind

/-- **An error in scanning shows a part of the source.** -/
theorem Stops.marks {maxTokens count : Nat} {error : SyntaxError}
    (stops : Stops maxTokens count offset text error) (left : LeftOf source offset text) :
    error.span.Marks source := by
  induction stops with
  | flawed shown found => exact left.marks shown found
  | full shown found _ => exact left.marks shown found
  | later shown found _ _ ih => exact ih (left.step shown found)

theorem leftOf_self (source : List Char) : LeftOf source 0 source :=
  ⟨[], rfl, rfl⟩

theorem marks_of_scan {limits : Limits} {error : SyntaxError}
    (failed : scan limits source = .error error) : error.span.Marks source := by
  rcases scan_error failed with foreign | front
  · obtain ⟨before, c, after, split, rfl⟩ := checkAlphabet_error foreign
    exact ⟨before, [c], after, split, by simp [byteLength], by simp⟩
  · exact (stops_of_scanFrom_eq_error front).marks (leftOf_self source)

theorem marks_of_mem {limits : Limits} {tokens : List Token}
    (scanned : scan limits source = .ok tokens) {span : Span}
    (occurs : span ∈ tokens.map Token.span) : span.Marks source := by
  obtain ⟨_, scans, _⟩ := scan_eq_ok_iff.1 scanned
  obtain ⟨token, member, rfl⟩ := List.mem_map.1 occurs
  exact scans.marks (leftOf_self source) token member

end Token

/-! ### All stages -/

namespace Formula

/-- **Whatever stage rejects a text, its error shows a part of the text.** -/
theorem RejectedBy.marks {limits : Limits} {text : List Char} {error : SyntaxError}
    (rejected : RejectedBy limits text error) : error.span.Marks text := by
  cases rejected with
  | length _ => exact Span.ofText_marks text
  | blank _ _ => exact Span.ofText_marks text
  | scan _ _ unscanned => exact Token.marks_of_scan unscanned
  | parentheses _ _ scanned unmatched =>
    exact Token.marks_of_mem scanned (Token.unmatched_of_matchParentheses unmatched).span_mem
  | grammar _ _ scanned _ unread =>
    obtain ⟨_, scans, _⟩ := Token.scan_eq_ok_iff.1 scanned
    exact Token.marks_of_mem scanned (blames_of_ofTokens scans.endOfInput_mem unread).span_mem
  | depth _ _ _ _ _ _ => exact Span.ofText_marks text

/-- **A syntax error points into the source.** Its span lies within the bytes of the source and cuts no
character at either end, and it is empty only at the end of the source. So it can be cut out. -/
theorem span_of_parse {limits : Limits} {source : String} {error : SyntaxError}
    (failed : parse limits source = .error error) :
    error.span.start ≤ error.span.stop ∧ error.span.stop ≤ source.utf8ByteSize ∧
    String.Pos.Raw.IsValid source ⟨error.span.start⟩ ∧
    String.Pos.Raw.IsValid source ⟨error.span.stop⟩ ∧
    (error.span.start = error.span.stop →
      error.span.start = source.utf8ByteSize ∧ error.span.stop = source.utf8ByteSize) ∧
    ∃ before part after : String, source = before ++ part ++ after ∧
      before.utf8ByteSize = error.span.start ∧ (before ++ part).utf8ByteSize = error.span.stop := by
  obtain ⟨before, part, after, split, span, ending⟩ := (ofChars_eq_error_iff.1 failed).marks
  have whole : source = String.ofList before ++ String.ofList part ++ String.ofList after := by
    rw [← String.ofList_append, ← String.ofList_append, List.append_assoc, ← split,
      String.ofList_toList]
  have size : source.utf8ByteSize = byteLength before + byteLength part + byteLength after := by
    rw [whole, String.utf8ByteSize_append, String.utf8ByteSize_append]
    simp only [utf8ByteSize_ofList]
  rw [span]
  dsimp only
  refine ⟨Nat.le_add_right _ _, by omega, isValid_byteLength split, ?_, fun empty => ?_,
    String.ofList before, String.ofList part, String.ofList after, whole, utf8ByteSize_ofList before,
    ?_⟩
  · rw [← byteLength_append]
    exact isValid_byteLength (by rw [split, List.append_assoc])
  · -- A part without bytes has no characters, so nothing follows it.
    have none : part = [] := by
      by_contra visible
      have bytes := byteLength_pos visible
      omega
    have last : byteLength after = 0 := by rw [ending none, byteLength]
    omega
  · rw [String.utf8ByteSize_append, utf8ByteSize_ofList, utf8ByteSize_ofList]

/-- Blanks of three bytes stand before and in a text that is never closed. -/
theorem span_of_parse_unterminated :
    parse {} "a\u3000== 'b\u3000" = .error ⟨.unterminatedText, ⟨7, 12⟩⟩ ∧
      String.Pos.Raw.IsValid "a\u3000== 'b\u3000" ⟨7⟩ ∧
      String.Pos.Raw.IsValid "a\u3000== 'b\u3000" ⟨12⟩ ∧
      ∃ before part after : String, "a\u3000== 'b\u3000" = before ++ part ++ after ∧
        before.utf8ByteSize = 7 ∧ (before ++ part).utf8ByteSize = 12 := by
  have failed : parse {} "a\u3000== 'b\u3000" = .error ⟨.unterminatedText, ⟨7, 12⟩⟩ := by
    decide +kernel
  obtain ⟨_, _, starts, stops, _, cut⟩ := span_of_parse failed
  exact ⟨failed, starts, stops, cut⟩

end Formula

end FieldFormula
