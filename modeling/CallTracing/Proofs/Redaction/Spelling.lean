/-
  CallTracing/Proofs/Redaction/Spelling.lean
  ==========================================
  **The characters of names and values.**

  A name is matched whatever the case of its letters.  Reading every form of a letter as the letter
  itself (`folded`) turns this into an equation: a name is read where the folded text begins with it
  (`name?_eq_some_iff`).  So no two of the names of secrets are read at one place, and everything that
  can stand in a name is a character of words, of bearer tokens, and of values.

  Names end at a character that is in none of them, runs of characters at the first that does not
  belong to them.  What follows such a character is not looked at (`name?_stop`, `leading_stop`,
  `atMostOne_stop`).
-/
import CallTracing.Proofs.Redaction.KeyIds
import CallTracing.Proofs.Text.Letters

namespace CallTracing.Redaction

/-! ### Letters -/

/-- The letter that a character is a form of; other characters stay what they are. -/
def folded (c : Char) : Char :=
  if c = longS then 's' else if c = kelvinSign then 'k' else c.toLower

/-- The letters that names are made of. -/
def IsNameLetter (c : Char) : Prop := c.isLower = true ∨ c = '_'

theorem isUpper_of_plain {c : Char} (h : c.isLower = true ∨ c.isDigit = true) :
    c.isUpper = false := by
  rw [Bool.eq_false_iff, ne_eq, isUpper_iff]
  rw [isLower_iff, isDigit_iff] at h
  omega

theorem isNameLetter_of_all {name : List Char}
    (h : name.all (fun c => c.isLower || c == '_') = true) : ∀ c ∈ name, IsNameLetter c := by
  intro c hc
  have hletter := List.all_eq_true.mp h c hc
  rwa [Bool.or_eq_true, beq_iff_eq] at hletter

theorem toLower_of_isNameLetter {c : Char} (h : IsNameLetter c) : c.toLower = c := by
  rcases h with hlower | rfl
  · exact toLower_of_not_isUpper (isUpper_of_plain (Or.inl hlower))
  · rfl

/-- Lower-case letters and digits are forms of nothing else. -/
theorem folded_of_plain {c : Char} (h : c.isLower = true ∨ c.isDigit = true) : folded c = c := by
  have hs : c ≠ longS := by
    rintro rfl
    revert h
    decide
  have hk : c ≠ kelvinSign := by
    rintro rfl
    revert h
    decide
  unfold folded
  rw [if_neg hs, if_neg hk]
  exact toLower_of_not_isUpper (isUpper_of_plain h)

theorem isForm_iff {letter c : Char} (h : IsNameLetter letter) :
    isForm letter c = true ↔ folded c = letter := by
  have hlong : letter ≠ longS := by
    rintro rfl
    revert h
    unfold IsNameLetter
    decide
  have hkelvin : letter ≠ kelvinSign := by
    rintro rfl
    revert h
    unfold IsNameLetter
    decide
  have hparts : isForm letter c = true ↔ c = letter ∨ c.toLower = letter ∨
      (letter = 's' ∧ c = longS) ∨ (letter = 'k' ∧ c = kelvinSign) := by
    unfold isForm
    simp only [Bool.or_eq_true, beq_iff_eq, Bool.and_eq_true, or_assoc]
  rw [hparts]
  unfold folded
  by_cases hs : c = longS
  · have hlower : longS.toLower = longS := by decide
    have hother : longS ≠ kelvinSign := by decide
    subst hs
    rw [if_pos rfl, hlower]
    constructor
    · rintro (rfl | rfl | ⟨rfl, -⟩ | ⟨-, h⟩)
      · exact absurd rfl hlong
      · exact absurd rfl hlong
      · rfl
      · exact absurd h hother
    · rintro rfl
      exact Or.inr (Or.inr (Or.inl ⟨rfl, rfl⟩))
  · rw [if_neg hs]
    by_cases hk : c = kelvinSign
    · have hlower : kelvinSign.toLower = kelvinSign := by decide
      subst hk
      rw [if_pos rfl, hlower]
      constructor
      · rintro (rfl | rfl | ⟨-, h⟩ | ⟨rfl, -⟩)
        · exact absurd rfl hkelvin
        · exact absurd rfl hkelvin
        · exact absurd h hs
        · rfl
      · rintro rfl
        exact Or.inr (Or.inr (Or.inr ⟨rfl, rfl⟩))
    · rw [if_neg hk]
      constructor
      · rintro (rfl | hlower | ⟨-, h⟩ | ⟨-, h⟩)
        · exact toLower_of_isNameLetter h
        · exact hlower
        · exact absurd h hs
        · exact absurd h hk
      · intro hlower
        exact Or.inr (Or.inl hlower)

/-- A name is read where the folded text begins with it. -/
theorem name?_eq_some_iff {name text read rest : List Char} (h : ∀ c ∈ name, IsNameLetter c) :
    name? name text = some (read, rest) ↔ text = read ++ rest ∧ read.map folded = name := by
  induction name generalizing text read with
  | nil =>
    show some ([], text) = some (read, rest) ↔ _
    constructor
    · rintro ⟨⟩
      exact ⟨rfl, rfl⟩
    · rintro ⟨rfl, hread⟩
      rw [List.map_eq_nil_iff.mp hread]
      rfl
  | cons letter name ih =>
    obtain ⟨hletter, hname⟩ := List.forall_mem_cons.mp h
    cases text with
    | nil =>
      refine iff_of_false (by simp [name?]) ?_
      rintro ⟨htext, hread⟩
      rw [(List.append_eq_nil_iff.mp htext.symm).1] at hread
      cases hread
    | cons c text =>
      unfold name?
      by_cases hform : isForm letter c = true
      · rw [if_pos hform, Option.map_eq_some_iff]
        constructor
        · rintro ⟨⟨read', rest'⟩, hrest, heq⟩
          obtain ⟨rfl, rfl⟩ := Prod.mk.inj heq
          obtain ⟨rfl, hread⟩ := (ih hname).mp hrest
          exact ⟨rfl, by rw [List.map_cons, hread, (isForm_iff hletter).mp hform]⟩
        · rintro ⟨htext, hread⟩
          cases read with
          | nil => cases hread
          | cons d read =>
            obtain ⟨rfl, htail⟩ := List.cons_eq_cons.mp htext
            exact ⟨(read, rest), (ih hname).mpr ⟨htail, (List.cons_eq_cons.mp hread).2⟩, rfl⟩
      · rw [if_neg hform]
        refine iff_of_false (by simp) ?_
        rintro ⟨htext, hread⟩
        cases read with
        | nil => cases hread
        | cons d read =>
          obtain ⟨rfl, -⟩ := List.cons_eq_cons.mp htext
          exact hform ((isForm_iff hletter).mpr (List.cons_eq_cons.mp hread).1)

/-! ### What stops a reading -/

theorem name?_stop {name : List Char} {stop : Char}
    (h : ∀ letter ∈ name, isForm letter stop = false) (front rest : List Char) :
    name? name (front ++ stop :: rest) =
      (name? name front).map fun read => (read.1, read.2 ++ stop :: rest) := by
  induction name generalizing front with
  | nil => rfl
  | cons letter name ih =>
    obtain ⟨hletter, hname⟩ := List.forall_mem_cons.mp h
    cases front with
    | nil =>
      simp [name?, hletter]
    | cons c front =>
      rw [List.cons_append, name?, name?, ih hname]
      split
      · cases name? name front <;> rfl
      · rfl

variable {property : Char → Bool}

theorem leading_stop {stop : Char} (h : property stop = false) (front rest : List Char) :
    leading property (front ++ stop :: rest) =
      ((leading property front).1, (leading property front).2 ++ stop :: rest) := by
  induction front with
  | nil => simp [leading, h]
  | cons c front ih =>
    unfold leading at ih ⊢
    obtain ⟨htake, hdrop⟩ := Prod.mk.inj ih
    cases hc : property c with
    | true => simp [hc, htake, hdrop]
    | false => simp [hc]

/-- A run goes on behind characters that belong to it. -/
theorem leading_append {front : List Char} (h : ∀ c ∈ front, property c = true)
    (rest : List Char) :
    leading property (front ++ rest) = (front ++ (leading property rest).1,
      (leading property rest).2) := by
  unfold leading
  rw [List.takeWhile_append_of_pos h, List.dropWhile_append_of_pos h]

/-- A run ends at the first character that does not belong to it, whatever follows. -/
theorem leading_inside {front : List Char} (h : ¬∀ c ∈ front, property c = true)
    (rest : List Char) :
    leading property (front ++ rest) =
      ((leading property front).1, (leading property front).2 ++ rest) := by
  obtain ⟨c, hc⟩ := Classical.not_forall.mp h
  obtain ⟨hmem, hstop⟩ := Classical.not_imp.mp hc
  obtain ⟨first, last, rfl⟩ := List.append_of_mem hmem
  have hfalse : property c = false := by simpa using hstop
  rw [List.append_assoc, List.cons_append, leading_stop hfalse, leading_stop hfalse,
    List.append_assoc]
  rfl

theorem atMostOne_stop {stop : Char} (h : property stop = false) (front rest : List Char) :
    atMostOne property (front ++ stop :: rest) =
      ((atMostOne property front).1, (atMostOne property front).2 ++ stop :: rest) := by
  cases front with
  | nil => simp [atMostOne, h]
  | cons c front =>
    unfold atMostOne
    cases hc : property c with
    | true => simp [hc]
    | false => simp [hc]

/-! ### Kinds of characters -/

/-- The characters of words that are ASCII. -/
def plainRanges : List (Nat × Nat) := [(48, 57), (65, 90), (95, 95), (97, 122)]

theorem isWordChar_of_plain {c : Char} (h : Text.inRanges plainRanges c.toNat = true) :
    isWordChar c = true := by
  obtain ⟨range, hrange, hin⟩ := List.any_eq_true.mp h
  exact List.any_eq_true.mpr ⟨range, List.mem_of_mem_take (i := 4) hrange, hin⟩

theorem isWordChar_of_isAlphanum {c : Char} (h : c.isAlphanum = true) : isWordChar c = true := by
  refine isWordChar_of_plain ?_
  rw [isAlphanum_iff, isUpper_iff, isLower_iff, isDigit_iff] at h
  simp only [Text.inRanges, plainRanges, List.any_cons, List.any_nil, Bool.or_eq_true,
    Bool.and_eq_true, decide_eq_true_eq]
  omega

/-- What is a form of a letter of names. -/
theorem of_folded {c : Char} (h : IsNameLetter (folded c)) :
    c.isAlphanum = true ∨ c = '_' ∨ c = longS ∨ c = kelvinSign := by
  unfold folded at h
  by_cases hs : c = longS
  · exact Or.inr (Or.inr (Or.inl hs))
  · by_cases hk : c = kelvinSign
    · exact Or.inr (Or.inr (Or.inr hk))
    · rw [if_neg hs, if_neg hk] at h
      by_cases hupper : c.isUpper = true
      · exact Or.inl (isAlphanum_iff.mpr (Or.inl hupper))
      · rw [toLower_of_not_isUpper (by simpa using hupper)] at h
        rcases h with hlower | hunder
        · exact Or.inl (isAlphanum_iff.mpr (Or.inr (Or.inl hlower)))
        · exact Or.inr (Or.inl hunder)

theorem isWordChar_of_folded {c : Char} (h : IsNameLetter (folded c)) : isWordChar c = true := by
  rcases of_folded h with halpha | rfl | rfl | rfl
  · exact isWordChar_of_isAlphanum halpha
  · decide +kernel
  · decide +kernel
  · decide +kernel

theorem isTokenChar_of_folded {c : Char} (h : IsNameLetter (folded c)) :
    isTokenChar c = true := by
  rcases of_folded h with halpha | rfl | rfl | rfl
  · simp [isTokenChar, halpha]
  · decide
  · decide
  · decide

/-- The codes of the characters that no value has. -/
def delimiterCodes : List Nat :=
  [9, 10, 11, 12, 13, 0x20, 0x85, 0xA0, 0x1680, 0x2000, 0x2001, 0x2002, 0x2003, 0x2004, 0x2005,
    0x2006, 0x2007, 0x2008, 0x2009, 0x200A, 0x2028, 0x2029, 0x202F, 0x205F, 0x3000, 34, 39, 44, 59,
    38]

theorem toNat_of_not_isValueChar {c : Char} (h : isValueChar c = false) :
    c.toNat ∈ delimiterCodes := by
  simp only [isValueChar, Text.isBlank, isQuote, Bool.not_eq_false', Bool.or_eq_true, beq_iff_eq,
    decide_eq_true_eq] at h
  have hcode : ∀ d : Char, c = d → c.toNat = d.toNat := fun d hd => by rw [hd]
  simp only [delimiterCodes, List.mem_cons, List.not_mem_nil, or_false]
  rcases h with (((h | h) | h) | h) | h
  · omega
  · rcases h with h | h
    · have := hcode _ h
      simp at this
      omega
    · omega
  · have := hcode _ h
    simp at this
    omega
  · have := hcode _ h
    simp at this
    omega
  · have := hcode _ h
    simp at this
    omega

/-- Characters of words belong to values. -/
theorem isValueChar_of_isWordChar {c : Char} (h : isWordChar c = true) : isValueChar c = true := by
  have htable : ∀ code ∈ delimiterCodes, Text.inRanges Text.wordRanges code = false := by
    decide +kernel
  cases hvalue : isValueChar c with
  | true => rfl
  | false =>
    have hword := htable _ (toNat_of_not_isValueChar hvalue)
    rw [isWordChar, hword] at h
    cases h

end CallTracing.Redaction
