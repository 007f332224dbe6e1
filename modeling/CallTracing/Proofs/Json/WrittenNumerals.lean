/-
  CallTracing/Proofs/Json/WrittenNumerals.lean
  ============================================
  **The numerals of a written text are the texts of its numbers.**

  The text of a value is searched for numerals as any text is, without being read.  What is found
  are the texts of the value's numbers, one for one and in their order (`numerals_text`), each a
  numeral that says what its number is (`say_numbers`).

  So numbers can be compared in the text: if a value is read from its text and written again, the
  text stays the same just where every number was read as it was written (`text_reread_iff`).
-/
import CallTracing.Proofs.Json.RoundTrip

namespace CallTracing.Json

/-! ### Numerals found -/

theorem numerals_string_append (chars rest : List Char) :
    numerals ('"' :: (escaped chars ++ '"' :: rest)) = numerals rest := by
  rw [numerals_quote, drop_stringLength (readString_escaped chars rest)]

theorem numerals_memberText (member : String × Json) (rest : List Char) :
    numerals (memberText member ++ rest) = numerals ((text member.2).toList ++ rest) := by
  simp only [memberText, List.cons_append, List.append_assoc]
  rw [numerals_string_append, numerals_plain (by decide) rfl]

/-- The texts of numbers. -/
def numberTexts (numbers : List JsonNumber) : List (List Char) :=
  numbers.map fun n => n.text.toList

mutual

theorem numerals_value (v : Json) (h : ∀ n ∈ numbers v, n.IsKept ∧ n.isFinite = true)
    {rest : List Char} (hrest : Stops rest) :
    numerals ((text v).toList ++ rest) = numberTexts (numbers v) ++ numerals rest := by
  cases v with
  | null => rfl
  | bool b => cases b <;> rfl
  | number n =>
    obtain ⟨hkept, hfinite⟩ := h n List.mem_cons_self
    exact numerals_run (isRun_text hkept hfinite) hrest
  | string s =>
    rw [toList_text_string, List.cons_append, List.append_assoc]
    exact numerals_string_append s.toList rest
  | array items =>
    rw [toList_text_array, List.cons_append, List.append_assoc, numerals_plain (by decide) rfl]
    exact numerals_items items h (stops_cons rfl rest)
  | object members =>
    rw [toList_text_object, List.cons_append, List.append_assoc, numerals_plain (by decide) rfl]
    exact numerals_members members h (stops_cons rfl rest)

theorem numerals_items (items : List Json)
    (h : ∀ n ∈ numbersItems items, n.IsKept ∧ n.isFinite = true) {rest : List Char}
    (hrest : Stops rest) :
    numerals (itemsText items ++ rest) = numberTexts (numbersItems items) ++ numerals rest := by
  cases items with
  | nil => rfl
  | cons item items =>
    obtain ⟨hitem, hitems⟩ := List.forall_mem_append.mp h
    by_cases hlast : items = []
    · rw [hlast, itemsText_singleton, numbersItems, numbersItems, List.append_nil]
      exact numerals_value item hitem hrest
    · rw [itemsText_cons item hlast, List.append_assoc, List.cons_append,
        numerals_value item hitem (stops_cons rfl _), numerals_plain (by decide) rfl,
        numerals_items items hitems hrest, ← List.append_assoc]
      exact congrArg (· ++ _) List.map_append.symm

theorem numerals_members (members : List (String × Json))
    (h : ∀ n ∈ numbersMembers members, n.IsKept ∧ n.isFinite = true) {rest : List Char}
    (hrest : Stops rest) :
    numerals (membersText members ++ rest) =
      numberTexts (numbersMembers members) ++ numerals rest := by
  cases members with
  | nil => rfl
  | cons member members =>
    obtain ⟨hvalue, hmembers⟩ := List.forall_mem_append.mp h
    by_cases hlast : members = []
    · rw [hlast, membersText_singleton, numerals_memberText, numbersMembers, numbersMembers,
        List.append_nil]
      exact numerals_value member.2 hvalue hrest
    · rw [membersText_cons member hlast, List.append_assoc, List.cons_append, numerals_memberText,
        numerals_value member.2 hvalue (stops_cons rfl _), numerals_plain (by decide) rfl,
        numerals_members members hmembers hrest, ← List.append_assoc]
      exact congrArg (· ++ _) List.map_append.symm

end

variable {v : Json}

theorem numerals_text (h : ∀ n ∈ numbers v, n.IsKept ∧ n.isFinite = true) :
    numerals (text v).toList = numberTexts (numbers v) := by
  have hfound := numerals_value v h stops_nil
  rw [List.append_nil, numerals_nil, List.append_nil] at hfound
  exact hfound

/-! ### What they say -/

/-- A literal that is a numeral and says what a number is. -/
def LiteralSays (literal : List Char) (n : JsonNumber) : Prop :=
  ∃ numeral, readNumeral literal = some (numeral, []) ∧ numeral.Says n

theorem literalSays_text {n : JsonNumber} (h : n.IsKept ∧ n.isFinite = true) :
    LiteralSays n.text.toList n := by
  obtain ⟨numeral, hspells, hsays⟩ := JsonNumber.spells_text h.1 h.2
  exact ⟨numeral, hspells.readNumeral, hsays⟩

theorem say_numbers (h : ∀ n ∈ numbers v, n.IsKept ∧ n.isFinite = true) :
    List.Forall₂ LiteralSays (numerals (text v).toList) (numbers v) := by
  rw [numerals_text h]
  unfold numberTexts
  rw [List.forall₂_map_left_iff, List.forall₂_same]
  exact fun n hn => literalSays_text (h n hn)

/-- Reading a value from its text and writing it again leaves the text as it is just where every
number is read as it was written. -/
theorem text_reread_iff (h : ∀ n ∈ numbers v, n.IsKept ∧ n.isFinite = true)
    (hfinite : ∀ n ∈ numbers v.reread, n.isFinite = true) :
    text v.reread = text v ↔ IsSteady v := by
  constructor
  · intro htext n hn
    have hread : ∀ m ∈ numbers v.reread, m.IsKept ∧ m.isFinite = true :=
      fun m hm => ⟨isKept_numbers_reread (fun n hn => (h n hn).1) m hm, hfinite m hm⟩
    have hnumerals := numerals_text hread
    rw [htext, numerals_text h, numbers_reread] at hnumerals
    unfold numberTexts at hnumerals
    rw [List.map_map, List.map_inj_left] at hnumerals
    have hsame := String.toList_inj.mp (hnumerals n hn)
    refine JsonNumber.text_inj (hread _ ?_) (h n hn) hsame.symm
    rw [numbers_reread]
    exact List.mem_map.mpr ⟨n, hn, rfl⟩
  · intro hsteady
    rw [reread_eq_self v hsteady]

end CallTracing.Json
