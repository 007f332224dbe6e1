/-
  CallTracing/Proofs/Json/Compact.lean
  ====================================
  **The text of a value is compact and stands on one line.**

  Outside of its strings a text can be looked at without being read as JSON, in the way in which it
  is searched for numerals (`outside`).  The writer leaves no blank there, and inside of a string it
  writes an escape for a line break, so nothing that it writes breaks a line (`isCompact_text`).
-/
import CallTracing.Proofs.Json.RoundTrip

namespace CallTracing.Json

/-- The characters outside of strings, behind some characters that are passed over. -/
def outsideFrom : Nat → List Char → List Char
  | _, [] => []
  | skip + 1, _ :: rest => outsideFrom skip rest
  | 0, c :: rest =>
    if c = '"' then outsideFrom (stringLength rest) rest else c :: outsideFrom 0 rest

/-- The characters of a text outside of its strings. -/
def outside (text : List Char) : List Char := outsideFrom 0 text

/-- Whether a character is no blank and opens no string. -/
def isPlain (c : Char) : Bool := c != '"' && !isSpace c

/-- A text without blanks between its tokens and without line breaks. -/
structure IsCompact (text : List Char) : Prop where
  blank : ∀ c ∈ outside text, isSpace c = false
  line : '\n' ∉ text

theorem outsideFrom_eq (skip : Nat) (text : List Char) :
    outsideFrom skip text = outside (text.drop skip) := by
  induction text generalizing skip with
  | nil => cases skip <;> rfl
  | cons c rest ih =>
    cases skip with
    | zero => rfl
    | succ skip => exact ih skip

theorem isCompact_nil : IsCompact [] :=
  ⟨fun _ hc => absurd hc List.not_mem_nil, List.not_mem_nil⟩

/-! ### Tokens -/

section

variable {rest : List Char}

theorem isCompact_cons {c : Char} (hc : isPlain c = true) (h : IsCompact rest) :
    IsCompact (c :: rest) := by
  simp only [isPlain, Bool.and_eq_true, bne_iff_ne, Bool.not_eq_true'] at hc
  obtain ⟨hquote, hspace⟩ := hc
  have houtside : outside (c :: rest) = c :: outside rest := if_neg hquote
  refine ⟨?_, ?_⟩
  · rw [houtside]
    exact List.forall_mem_cons.mpr ⟨hspace, h.blank⟩
  · rw [List.mem_cons, not_or]
    refine ⟨?_, h.line⟩
    rintro rfl
    cases hspace

theorem isCompact_append {token : List Char} (htoken : token.all isPlain = true)
    (h : IsCompact rest) : IsCompact (token ++ rest) := by
  induction token with
  | nil => exact h
  | cons c token ih =>
    rw [List.all_cons, Bool.and_eq_true] at htoken
    exact isCompact_cons htoken.1 (ih htoken.2)

theorem not_mem_escapedChar (c : Char) : '\n' ∉ (escapedChar c).toList := by
  unfold escapedChar
  split
  · decide
  split
  · decide
  split
  · decide
  split
  · decide
  split
  · decide
  split
  · decide
  split
  · decide
  split
  · next h =>
    have hdigits : ∀ code < 32,
        '\n' ∉ ['0', '0', Nat.digitChar (code / 16), Nat.digitChar (code % 16)] := by decide
    rw [String.toList_append, (hexPadded_control c.toNat h).1, List.mem_append, not_or]
    exact ⟨by decide, hdigits c.toNat h⟩
  · next h =>
    rw [Char.toString_eq_singleton, String.toList_singleton, List.mem_singleton]
    rintro rfl
    exact h (by decide)

theorem isCompact_string (chars : List Char) (h : IsCompact rest) :
    IsCompact ('"' :: (escaped chars ++ '"' :: rest)) := by
  have hquote : ∀ more, outside ('"' :: more) = outside (more.drop (stringLength more)) :=
    fun more => outsideFrom_eq (stringLength more) more
  have hescaped : '\n' ∉ escaped chars := by
    unfold escaped
    rw [List.mem_flatMap]
    rintro ⟨c, -, hc⟩
    exact not_mem_escapedChar c hc
  refine ⟨?_, ?_⟩
  · rw [hquote, drop_stringLength (readString_escaped chars rest)]
    exact h.blank
  · rw [List.mem_cons, List.mem_append, List.mem_cons]
    rintro (hfirst | hinside | hlast | hrest)
    · cases hfirst
    · exact hescaped hinside
    · cases hlast
    · exact h.line hrest

end

theorem isPlain_of_inNumeral {c : Char} (h : inNumeral c = true) : isPlain c = true := by
  have hquote : c ≠ '"' := by
    rintro rfl
    cases h
  have hspace : isSpace c ≠ true := by
    intro hspace
    rw [(of_isSpace hspace).2] at h
    cases h
  simp [isPlain, hquote, hspace]

/-- The text of a number is a numeral. -/
theorem all_isPlain_text {n : JsonNumber} (hkept : n.IsKept) (hfinite : n.isFinite = true) :
    n.text.toList.all isPlain = true := by
  exact List.all_eq_true.mpr fun c hc =>
    isPlain_of_inNumeral ((isRun_text hkept hfinite).inside c hc)

/-! ### Values -/

mutual

theorem isCompact_value (v : Json) (h : ∀ n ∈ numbers v, n.IsKept ∧ n.isFinite = true)
    {rest : List Char} (hrest : IsCompact rest) : IsCompact ((text v).toList ++ rest) := by
  cases v with
  | null => exact isCompact_append rfl hrest
  | bool b => exact isCompact_append (by cases b <;> rfl) hrest
  | number n =>
    obtain ⟨hkept, hfinite⟩ := h n List.mem_cons_self
    exact isCompact_append (all_isPlain_text hkept hfinite) hrest
  | string s =>
    rw [toList_text_string, List.cons_append, List.append_assoc]
    exact isCompact_string s.toList hrest
  | array items =>
    rw [toList_text_array, List.cons_append, List.append_assoc]
    exact isCompact_cons rfl (isCompact_items items h (isCompact_cons rfl hrest))
  | object members =>
    rw [toList_text_object, List.cons_append, List.append_assoc]
    exact isCompact_cons rfl (isCompact_members members h (isCompact_cons rfl hrest))

theorem isCompact_items (items : List Json)
    (h : ∀ n ∈ numbersItems items, n.IsKept ∧ n.isFinite = true) {rest : List Char}
    (hrest : IsCompact rest) : IsCompact (itemsText items ++ rest) := by
  cases items with
  | nil => exact hrest
  | cons item items =>
    obtain ⟨hitem, hitems⟩ := List.forall_mem_append.mp h
    by_cases hlast : items = []
    · rw [hlast, itemsText_singleton]
      exact isCompact_value item hitem hrest
    · rw [itemsText_cons item hlast, List.append_assoc]
      exact isCompact_value item hitem
        (isCompact_cons rfl (isCompact_items items hitems hrest))

theorem isCompact_members (members : List (String × Json))
    (h : ∀ n ∈ numbersMembers members, n.IsKept ∧ n.isFinite = true) {rest : List Char}
    (hrest : IsCompact rest) : IsCompact (membersText members ++ rest) := by
  cases members with
  | nil => exact hrest
  | cons member members =>
    obtain ⟨name, value⟩ := member
    obtain ⟨hvalue, hmembers⟩ := List.forall_mem_append.mp h
    have hmember (more : List Char) (hmore : IsCompact more) :
        IsCompact (memberText (name, value) ++ more) := by
      rw [memberText, List.cons_append, List.append_assoc]
      exact isCompact_string name.toList
        (isCompact_cons rfl (isCompact_value value hvalue hmore))
    by_cases hlast : members = []
    · rw [hlast, membersText_singleton]
      exact hmember rest hrest
    · rw [membersText_cons _ hlast, List.append_assoc]
      exact hmember _ (isCompact_cons rfl (isCompact_members members hmembers hrest))

end

theorem isCompact_text {v : Json} (h : ∀ n ∈ numbers v, n.IsKept ∧ n.isFinite = true) :
    IsCompact (text v).toList := by
  have hcompact := isCompact_value v h isCompact_nil
  rw [List.append_nil] at hcompact
  exact hcompact

end CallTracing.Json
