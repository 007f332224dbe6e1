/-
  CallTracing/Proofs/Text/Letters.lean
  ====================================
  **ASCII letters, and spellings of names in any case.**

  The kinds of ASCII characters are ranges of codes.  Lower case by the full mappings changes the
  letters of an ASCII text one by one (`lowerFrom_ascii`).  A text that differs from a lower-case name
  by the case of its letters, with blanks around it, is read as the name
  (`Spells.lowerFrom_trimmed`); and for a name without the letter k no other character than an ASCII
  letter is one of its letters in lower case (`lowerFrom_eq_iff`).
-/
import CallTracing.Text.Blank
import CallTracing.Text.Casing
import Mathlib.Data.List.TakeWhile

namespace CallTracing

/-! ### Kinds of characters -/

theorem isUpper_iff {c : Char} : c.isUpper = true ↔ 65 ≤ c.toNat ∧ c.toNat ≤ 90 := by
  show decide (c.val ≥ 65 ∧ c.val ≤ 90) = true ↔ _
  rw [decide_eq_true_eq]
  exact Iff.rfl

theorem isLower_iff {c : Char} : c.isLower = true ↔ 97 ≤ c.toNat ∧ c.toNat ≤ 122 := by
  show (decide (c.val ≥ 97) && decide (c.val ≤ 122)) = true ↔ _
  rw [Bool.and_eq_true, decide_eq_true_eq, decide_eq_true_eq]
  exact Iff.rfl

theorem isDigit_iff {c : Char} : c.isDigit = true ↔ 48 ≤ c.toNat ∧ c.toNat ≤ 57 := by
  show (decide (c.val ≥ 48) && decide (c.val ≤ 57)) = true ↔ _
  rw [Bool.and_eq_true, decide_eq_true_eq, decide_eq_true_eq]
  exact Iff.rfl

theorem isAlphanum_iff {c : Char} :
    c.isAlphanum = true ↔ c.isUpper = true ∨ c.isLower = true ∨ c.isDigit = true := by
  show ((c.isUpper || c.isLower) || c.isDigit) = true ↔ _
  rw [Bool.or_eq_true, Bool.or_eq_true, or_assoc]

theorem toLower_of_not_isUpper {c : Char} (h : c.isUpper = false) : c.toLower = c :=
  dif_neg (of_decide_eq_false h)

namespace Text

/-! ### Lower case -/

theorem lowerFrom_ascii {text : List Char} (h : ∀ c ∈ text, c.toNat < 128) (before : List Char) :
    lowerFrom before text = text.map Char.toLower := by
  induction text generalizing before with
  | nil => rfl
  | cons c rest ih =>
    obtain ⟨hc, hrest⟩ := List.forall_mem_cons.mp h
    have hsigma : c ≠ 'Σ' := by
      rintro rfl
      exact absurd hc (by decide)
    rw [lowerFrom, if_neg hsigma, lowerChar, if_pos hc, ih hrest]
    rfl

/-- Besides the ASCII letters only the Kelvin sign has a lower case among them. -/
theorem lowerRuns_beyond : lowerRuns.all (fun run => decide (run.last < 128) ||
    decide (128 ≤ run.first + run.shift) || run.first == 0x212A && run.last == 0x212A) = true := by
  decide +kernel

theorem le_shifted_lowerRuns {code : Nat} (h : 128 ≤ code) (hkelvin : code ≠ 0x212A) :
    128 ≤ shifted lowerRuns code := by
  unfold shifted
  split
  · next run hfound =>
    have hcovers := @List.find?_some _ _ run lowerRuns hfound
    have hrun := List.all_eq_true.mp lowerRuns_beyond run (List.mem_of_find?_eq_some hfound)
    simp only [CaseRun.covers, Bool.and_eq_true, decide_eq_true_eq] at hcovers
    simp only [Bool.or_eq_true, Bool.and_eq_true, decide_eq_true_eq, beq_iff_eq] at hrun
    omega
  · exact h

/-- Whether a character is a letter of a name other than the one that the Kelvin sign becomes. -/
def IsPlainLetter (c : Char) : Prop := (c.isLower = true ∨ c = '_') ∧ c ≠ 'k'

theorem IsPlainLetter.toNat_lt {c : Char} (h : IsPlainLetter c) : 95 ≤ c.toNat ∧ c.toNat ≤ 122 := by
  obtain ⟨hlower | rfl, -⟩ := h
  · have hrange := isLower_iff.mp hlower
    omega
  · decide

/-- A code that is none of a character stands for the null character. -/
theorem toNat_ofNat_eq_or (code : Nat) :
    (Char.ofNat code).toNat = code ∨ (Char.ofNat code).toNat = 0 := by
  by_cases hvalid : code.isValidChar
  · exact Or.inl (congrArg Char.toNat (dif_pos hvalid))
  · exact Or.inr (congrArg Char.toNat (dif_neg hvalid))

theorem toNat_lt_of_lowerChar {c : Char} (h : ∀ d ∈ lowerChar c, IsPlainLetter d) :
    c.toNat < 128 := by
  by_contra hlarge
  unfold lowerChar at h
  rw [if_neg hlarge] at h
  by_cases hdotted : c.toNat = 0x130
  · rw [if_pos hdotted] at h
    have hmark := (h (Char.ofNat 0x307) (by simp)).toNat_lt
    exact absurd hmark (by decide)
  · rw [if_neg hdotted, List.forall_mem_singleton] at h
    by_cases hkelvin : c.toNat = 0x212A
    · rw [hkelvin] at h
      exact h.2 (by decide +kernel)
    · have hbeyond := le_shifted_lowerRuns (Nat.le_of_not_lt hlarge) hkelvin
      have hrange := h.toNat_lt
      rcases toNat_ofNat_eq_or (shifted lowerRuns c.toNat) with hcode | hcode <;> omega

theorem ascii_of_lowerFrom {text before : List Char}
    (h : ∀ d ∈ lowerFrom before text, IsPlainLetter d) : ∀ c ∈ text, c.toNat < 128 := by
  induction text generalizing before with
  | nil => exact List.forall_mem_nil _
  | cons c rest ih =>
    rw [lowerFrom] at h
    obtain ⟨hfirst, hrest⟩ := List.forall_mem_append.mp h
    refine List.forall_mem_cons.mpr ⟨?_, ih hrest⟩
    by_cases hsigma : c = 'Σ'
    · rw [if_pos hsigma, List.forall_mem_singleton] at hfirst
      have hrange := hfirst.toNat_lt
      split at hrange <;> exact absurd hrange (by decide)
    · rw [if_neg hsigma] at hfirst
      exact toNat_lt_of_lowerChar hfirst

/-! ### Trimming -/

/-- A text with blanks around it. -/
def Padded (word text : List Char) : Prop :=
  ∃ front back, text = front ++ word ++ back ∧ (∀ c ∈ front, isBlank c = true) ∧
    ∀ c ∈ back, isBlank c = true

theorem trimmedEnd_append {text back : List Char} (h : ∀ c ∈ back, isBlank c = true) :
    trimmedEnd (text ++ back) = trimmedEnd text := by
  unfold trimmedEnd
  rw [List.reverse_append, List.dropWhile_append_of_pos]
  intro c hc
  exact h c (List.mem_reverse.mp hc)

theorem trimmed_padded {word text : List Char} (h : Padded word text) :
    trimmed text = trimmed word := by
  obtain ⟨front, back, rfl, hfront, hback⟩ := h
  unfold trimmed
  rw [List.append_assoc, List.dropWhile_append_of_pos hfront, List.dropWhile_append]
  split
  · -- The word is blank as well.
    next hempty => rw [List.dropWhile_eq_nil_iff.mpr hback, List.isEmpty_iff.mp hempty]
  · exact trimmedEnd_append hback

theorem trimmed_of_blank {text : List Char} (h : ∀ c ∈ text, isBlank c = true) :
    trimmed text = [] := by
  unfold trimmed
  rw [List.dropWhile_eq_nil_iff.mpr h]
  rfl

theorem trimmed_of_not_blank {text : List Char} (h : ∀ c ∈ text, isBlank c = false) :
    trimmed text = text := by
  have hfront : text.dropWhile isBlank = text := by
    apply List.dropWhile_eq_self_iff.mpr
    intro hlength
    simp [h _ (List.getElem_mem hlength)]
  have hback : text.reverse.dropWhile isBlank = text.reverse := by
    apply List.dropWhile_eq_self_iff.mpr
    intro hlength
    rw [h _ (List.mem_reverse.mp (List.getElem_mem hlength))]
    simp
  unfold trimmed trimmedEnd
  rw [hfront, hback, List.reverse_reverse]

/-! ### Spellings -/

/-- Whether a text is a name, of lower-case letters and underscores. -/
def IsName (name : List Char) : Prop := name.all (fun c => c.isLower || c == '_') = true

instance : DecidablePred IsName := fun _ => inferInstanceAs (Decidable (_ = true))

theorem IsName.of_mem {name : List Char} {c : Char} (h : IsName name) (hc : c ∈ name) :
    c.isLower = true ∨ c = '_' := by
  have hletter := List.all_eq_true.mp h c hc
  rwa [Bool.or_eq_true, beq_iff_eq] at hletter

/-- A text that is a name but for the case of its letters and the blanks around it. -/
def Spells (name text : List Char) : Prop := ∃ word, Padded word text ∧ word.map Char.toLower = name

theorem of_toLower {c : Char} (h : c.toLower.isLower = true ∨ c.toLower = '_') :
    c.toNat < 128 ∧ isBlank c = false ∧ c ≠ ',' := by
  have hcode : 65 ≤ c.toNat ∧ c.toNat ≤ 122 := by
    cases hupper : c.isUpper with
    | true =>
      have hrange := isUpper_iff.mp hupper
      omega
    | false =>
      rw [toLower_of_not_isUpper hupper] at h
      rcases h with hlower | rfl
      · have hrange := isLower_iff.mp hlower
        omega
      · decide
  refine ⟨by omega, ?_, ?_⟩
  · simp only [isBlank, Bool.or_eq_false_iff, decide_eq_false_iff_not, beq_eq_false_iff_ne]
    omega
  · rintro rfl
    exact absurd hcode (by decide)

theorem Padded.refl (word : List Char) : Padded word word := ⟨[], [], by simp, by simp, by simp⟩

theorem Padded.not_mem {word text : List Char} {c : Char} (h : Padded word text)
    (hc : isBlank c = false) (hword : c ∉ word) : c ∉ text := by
  obtain ⟨front, back, rfl, hfront, hback⟩ := h
  intro hmem
  simp only [List.mem_append] at hmem
  rcases hmem with (hmem | hmem) | hmem
  · simp [hfront c hmem] at hc
  · exact hword hmem
  · simp [hback c hmem] at hc

section

variable {name text : List Char}

theorem Spells.of_map_trimmed (h : (trimmed text).map Char.toLower = name) : Spells name text :=
  ⟨trimmed text, trimmed_spec text, h⟩

theorem Spells.not_mem_comma (h : Spells name text) (hname : IsName name) : ',' ∉ text := by
  obtain ⟨word, hpadded, rfl⟩ := h
  refine hpadded.not_mem (by decide) fun hmem => ?_
  exact (of_toLower (hname.of_mem (List.mem_map_of_mem hmem))).2.2 rfl

theorem Spells.map_trimmed (h : Spells name text) (hname : IsName name) :
    (trimmed text).map Char.toLower = name := by
  obtain ⟨word, hpadded, rfl⟩ := h
  rw [trimmed_padded hpadded, trimmed_of_not_blank]
  intro c hc
  exact (of_toLower (hname.of_mem (List.mem_map_of_mem hc))).2.1

theorem Spells.lowerFrom_trimmed (h : Spells name text) (hname : IsName name) :
    lowerFrom [] (trimmed text) = name := by
  have htrimmed := h.map_trimmed hname
  rw [lowerFrom_ascii, htrimmed]
  intro c hc
  refine (of_toLower (hname.of_mem ?_)).1
  rw [← htrimmed]
  exact List.mem_map_of_mem hc

/-- In lower case a text is such a name just where it differs from it by the case of ASCII
letters. -/
theorem lowerFrom_eq_iff (hname : IsName name) (hkelvin : 'k' ∉ name) (before : List Char) :
    lowerFrom before text = name ↔ text.map Char.toLower = name := by
  have hascii : (∀ c ∈ text, c.toNat < 128) →
      (lowerFrom before text = name ↔ text.map Char.toLower = name) := by
    intro h
    rw [lowerFrom_ascii h]
  constructor
  · intro h
    have hplain : ∀ d ∈ lowerFrom before text, IsPlainLetter d := by
      intro d hd
      rw [h] at hd
      exact ⟨hname.of_mem hd, fun hk => hkelvin (hk ▸ hd)⟩
    exact (hascii (ascii_of_lowerFrom hplain)).mp h
  · intro h
    refine (hascii fun c hc => ?_).mpr h
    exact (of_toLower (hname.of_mem (h ▸ List.mem_map_of_mem hc))).1

end

end Text

end CallTracing
