/-
  CallTracing/Text/Blank.lean
  ===========================
  **Blanks and trimming.**  A blank is a character with the `White_Space` property: the ASCII
  controls from tab to carriage return, the space, the next-line control, and the typographic
  spaces up to the ideographic one.  Settings, header values and log lines are trimmed of blanks
  at both ends before they are read.

  Everything is defined on the characters of a text, with a `String` wrapper at the end.
  `trimmed_spec` is the law of trimming: only blanks go, from the two ends.
-/

namespace CallTracing.Text

/-- Whether a character is white space. -/
def isBlank (c : Char) : Bool :=
  let code := c.toNat
  decide (9 ≤ code ∧ code ≤ 13) || code == 0x20 || code == 0x85 || code == 0xA0 ||
    code == 0x1680 || decide (0x2000 ≤ code ∧ code ≤ 0x200A) || code == 0x2028 ||
    code == 0x2029 || code == 0x202F || code == 0x205F || code == 0x3000

/-- Drop the blanks at the end. -/
def trimmedEnd (text : List Char) : List Char :=
  (text.reverse.dropWhile isBlank).reverse

/-- Drop the blanks at both ends. -/
def trimmed (text : List Char) : List Char :=
  trimmedEnd (text.dropWhile isBlank)

/-- A text without the blanks at its ends. -/
def trim (text : String) : String :=
  String.ofList (trimmed text.toList)

/-! ### Laws -/

theorem trimmedEnd_spec (text : List Char) :
    ∃ back, text = trimmedEnd text ++ back ∧ ∀ c ∈ back, isBlank c = true := by
  refine ⟨(text.reverse.takeWhile isBlank).reverse, ?_, ?_⟩
  · rw [trimmedEnd, ← List.reverse_append, List.takeWhile_append_dropWhile, List.reverse_reverse]
  · intro c hc
    exact List.all_eq_true.1 (List.all_takeWhile) c (List.mem_reverse.1 hc)

/-- Trimming takes blanks away at the two ends, and nothing else. -/
theorem trimmed_spec (text : List Char) :
    ∃ front back, text = front ++ trimmed text ++ back ∧
      (∀ c ∈ front, isBlank c = true) ∧ ∀ c ∈ back, isBlank c = true := by
  obtain ⟨back, hback, hblank⟩ := trimmedEnd_spec (text.dropWhile isBlank)
  refine ⟨text.takeWhile isBlank, back, ?_, ?_, hblank⟩
  · rw [trimmed, List.append_assoc, ← hback, List.takeWhile_append_dropWhile]
  · intro c hc
    exact List.all_eq_true.1 (List.all_takeWhile) c hc

end CallTracing.Text
