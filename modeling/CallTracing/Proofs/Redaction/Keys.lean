/-
  CallTracing/Proofs/Redaction/Keys.lean
  ======================================
  **Keys and values of assignments.**

  A key is the name of a secret in any case, perhaps with a closing quote and blanks behind it; its
  value begins right behind the sign.  The searches for access key ids and for bearer tokens find
  nothing in either (`redactFrom_assigns`), and the search for assigned secrets finds the value, if it
  gets to the key at all (`assignedSecret_key`).
-/
import CallTracing.Proofs.Lists
import CallTracing.Proofs.Redaction.Matchers

namespace CallTracing.Redaction

/-! ### Keys and values -/

/-- All names of secrets, with and without what may stand before them. -/
def secretWords : List (List Char) := secretNames ++ secretNames.map (secretStem ++ ·)

theorem isNameLetter_secretWords : ∀ name ∈ secretWords, ∀ c ∈ name, IsNameLetter c := by
  have hall : ∀ name ∈ secretWords, name.all (fun c => c.isLower || c == '_') = true := by decide
  exact fun name hname => isNameLetter_of_all (hall name hname)

/-- A key to which a secret may be assigned: a name, whatever its case, that may be followed by a
closing quote and by blanks. -/
structure SecretKey where
  word : List Char
  closing : List Char
  blanks : List Char
  isSecret : word.map folded ∈ secretWords
  isClosing : closing = [] ∨ ∃ c, isQuote c = true ∧ closing = [c]
  isBlanks : ∀ c ∈ blanks, Text.isBlank c = true

/-- A value that is long enough not to be hidden as a whole, of lower-case letters and digits, other
than the word in front of bearer tokens. -/
structure SecretValue (value : List Char) : Prop where
  long : 5 < value.length
  chars : ∀ c ∈ value, c.isLower = true ∨ c.isDigit = true
  ne : value ≠ "bearer".toList

namespace SecretKey

/-- What stands between the name and the sign. -/
def gap (key : SecretKey) : List Char := key.closing ++ key.blanks

/-- A value assigned to a key, and what follows it. -/
def assigns (key : SecretKey) (value rest : List Char) : List Char :=
  key.word ++ (key.gap ++ '=' :: (value ++ rest))

variable (key : SecretKey)

theorem isNameLetter_word {c : Char} (h : c ∈ key.word) : IsNameLetter (folded c) :=
  isNameLetter_secretWords _ key.isSecret _ (List.mem_map_of_mem h)

theorem isWordChar_word : ∀ c ∈ key.word, isWordChar c = true :=
  fun _ hc => isWordChar_of_folded (key.isNameLetter_word hc)

theorem exists_word : ∃ first second rest, key.word = first :: second :: rest ∧
    [folded first, folded second] ∈ secretWords.map (·.take 2) := by
  have hlong : ∀ name ∈ secretWords, 2 ≤ name.length := by decide
  have hlength := hlong _ key.isSecret
  have htake := List.mem_map_of_mem (f := fun name => name.take 2) key.isSecret
  cases hword : key.word with
  | nil =>
    rw [hword] at hlength
    exact absurd hlength (by decide)
  | cons first tail =>
    cases tail with
    | nil =>
      rw [hword] at hlength
      exact absurd hlength (by simp)
    | cons second rest =>
      rw [hword] at htake
      exact ⟨first, second, rest, rfl, htake⟩

/-- Characters between the name and the sign belong to no value. -/
theorem isValueChar_gap : ∀ c ∈ key.gap, isValueChar c = false := by
  intro c hc
  rcases List.mem_append.mp hc with hclosing | hblanks
  · rcases key.isClosing with hnil | ⟨quote, hquote, hone⟩
    · rw [hnil] at hclosing
      cases hclosing
    · rw [hone, List.mem_singleton] at hclosing
      subst hclosing
      simp [isValueChar, hquote]
  · simp [isValueChar, key.isBlanks c hblanks]

end SecretKey

namespace SecretValue

variable {value : List Char}

theorem of_all (hlong : 5 < value.length)
    (hchars : value.all (fun c => c.isLower || c.isDigit) = true) (hne : value ≠ "bearer".toList) :
    SecretValue value where
  long := hlong
  chars := fun c hc => (Bool.or_eq_true _ _).mp (List.all_eq_true.mp hchars c hc)
  ne := hne

theorem isWordChar (h : SecretValue value) : ∀ c ∈ value, isWordChar c = true :=
  fun c hc => isWordChar_of_isAlphanum (isAlphanum_iff.mpr (Or.inr (h.chars c hc)))

theorem exists_cons (h : SecretValue value) : ∃ first rest, value = first :: rest := by
  cases value with
  | nil => exact absurd h.long (by decide)
  | cons first rest => exact ⟨first, rest, rfl⟩

end SecretValue

/-! ### Delimiters -/

/-- A text that is empty or begins with a character that no value has. -/
def Delimited (text : List Char) : Prop := ∀ c rest, text = c :: rest → isValueChar c = false

theorem isWordChar_of_not_isValueChar {c : Char} (h : isValueChar c = false) :
    isWordChar c = false := by
  cases hword : isWordChar c with
  | false => rfl
  | true =>
    rw [isValueChar_of_isWordChar hword] at h
    cases h

section

variable {matcher : Matcher} {before : Option Char} {text rest value : List Char}

/-- What stands before a delimiter does not matter behind it. -/
theorem redactFrom_of_delimited (hwords : matcher.AtWords) (h : Delimited text)
    (before : Option Char) : redactFrom matcher 0 before text = redact matcher text := by
  refine redactFrom_of_endsWord hwords ?_ before
  cases text with
  | nil => rfl
  | cons c rest => simp [endsWord, startsWord, isWordChar_of_not_isValueChar (h c rest rfl)]

theorem delimited_redact (hwords : matcher.AtWords) (h : Delimited text) :
    Delimited (redact matcher text) := by
  cases text with
  | nil => exact h
  | cons c rest =>
    have hc := h c rest rfl
    unfold redact
    rw [redactFrom_none (hwords.outside _ _ _ (isWordChar_of_not_isValueChar hc))]
    rintro d tail ⟨⟩
    exact hc

/-- A value that is not matched itself stays as it is. -/
theorem redactFrom_value (hwords : matcher.AtWords) (hvalue : SecretValue value)
    (hrest : Delimited rest) (hnone : matcher before (value ++ rest) = none) :
    redactFrom matcher 0 before (value ++ rest) = value ++ redact matcher rest := by
  rw [redactFrom_word hwords hvalue.isWordChar hnone, redactFrom_of_delimited hwords hrest]

/-- What stands behind the name of a key, and a value that is not matched itself. -/
theorem redactFrom_behind (hwords : matcher.AtWords) {gap : List Char}
    (hgap : ∀ c ∈ gap, isWordChar c = false) (hvalue : SecretValue value) (hrest : Delimited rest)
    (hnone : ∀ before, matcher before (value ++ rest) = none) (before : Option Char) :
    redactFrom matcher 0 before (gap ++ (value ++ rest)) =
      gap ++ (value ++ redact matcher rest) := by
  rw [redactFrom_gap hwords hgap, redactFrom_value hwords hvalue hrest (hnone _)]

end

namespace SecretKey

variable (key : SecretKey)

/-- The gap and the sign. -/
def assignment : List Char := key.gap ++ ['=']

theorem assigns_eq (value rest : List Char) :
    key.assigns value rest = key.word ++ (key.assignment ++ (value ++ rest)) := by
  simp [assigns, assignment]

theorem isWordChar_assignment : ∀ c ∈ key.assignment, isWordChar c = false := by
  intro c hc
  rcases List.mem_append.mp hc with hgap | hsign
  · exact isWordChar_of_not_isValueChar (key.isValueChar_gap c hgap)
  · rw [List.mem_singleton.mp hsign]
    decide +kernel

end SecretKey

/-! ### What the first two searches leave -/

section

variable {matcher : Matcher} {value rest : List Char}

/-- A search that finds neither the key nor the value. -/
theorem redactFrom_assigns (hwords : matcher.AtWords) {key : SecretKey}
    (hkey : ∀ before rest, matcher before (key.word ++ rest) = none) (hvalue : SecretValue value)
    (hrest : Delimited rest) (hnone : ∀ before, matcher before (value ++ rest) = none)
    (before : Option Char) :
    redactFrom matcher 0 before (key.assigns value rest) =
      key.assigns value (redact matcher rest) := by
  rw [key.assigns_eq, redactFrom_word hwords key.isWordChar_word (hkey _ _),
    redactFrom_behind hwords key.isWordChar_assignment hvalue hrest hnone, ← key.assigns_eq]

end

theorem accessKeyId_key (key : SecretKey) (before : Option Char) (rest : List Char) :
    accessKeyId before (key.word ++ rest) = none := by
  cases hmatch : accessKeyId before (key.word ++ rest) with
  | none => rfl
  | some found =>
    obtain ⟨first, second, tail, hword, hletters⟩ := key.exists_word
    have hstem := stem_of_accessKeyId hmatch
    rw [hword] at hstem
    have hstart : ((first :: second :: tail ++ rest).take 4).take 2 = [first, second] := rfl
    have htable : ∀ stem ∈ keyIdStems, (stem.take 2).map folded ∉ secretWords.map (·.take 2) := by
      decide
    refine absurd ?_ (htable _ hstem)
    rw [hstart]
    exact hletters

theorem accessKeyId_value {value : List Char} (h : SecretValue value) (before : Option Char)
    (rest : List Char) : accessKeyId before (value ++ rest) = none := by
  cases hmatch : accessKeyId before (value ++ rest) with
  | none => rfl
  | some found =>
    obtain ⟨first, tail, rfl⟩ := h.exists_cons
    have hstems : ∀ stem ∈ keyIdStems, stem.head? = some 'A' := by decide
    have hfirst : first = 'A' := Option.some.inj (hstems _ (stem_of_accessKeyId hmatch))
    subst hfirst
    exact absurd (h.chars 'A' List.mem_cons_self) (by decide)

theorem bearerToken_key (key : SecretKey) (before : Option Char) (rest : List Char) :
    bearerToken before (key.word ++ rest) = none := by
  obtain ⟨first, second, tail, hword, hletters⟩ := key.exists_word
  have hname : name? "bearer".toList (key.word ++ rest) = none := by
    cases hread : name? "bearer".toList (key.word ++ rest) with
    | none => rfl
    | some read =>
      obtain ⟨htext, hfolded⟩ := (name?_eq_some_iff isNameLetter_bearer).mp hread
      have htable : ∀ letters ∈ secretWords.map (·.take 2), letters.head? ≠ some 'b' := by decide
      refine absurd ?_ (htable _ hletters)
      cases hword' : read.1 with
      | nil =>
        rw [hword'] at hfolded
        cases hfolded
      | cons c rest =>
        rw [hword'] at hfolded htext
        rw [hword] at htext
        obtain ⟨rfl, -⟩ := List.cons_eq_cons.mp htext
        exact congrArg List.head? (congrArg (List.take 1) hfolded)
  rw [parts_bearerToken.eq, hname]
  exact ite_self _

/-- A value is the word in front of no token. -/
theorem bearerToken_value {value rest : List Char} (h : SecretValue value)
    (before : Option Char) : bearerToken before (value ++ rest) = none := by
  have hfollow : (name? "bearer".toList (value ++ rest)).bind
      (fun read => followBearer read.1 read.2) = none := by
    cases hread : name? "bearer".toList (value ++ rest) with
    | none => rfl
    | some read =>
      obtain ⟨htext, hfolded⟩ := (name?_eq_some_iff isNameLetter_bearer).mp hread
      have hlength : read.1.length ≤ value.length := by
        have hsix := congrArg List.length hfolded
        have hlong := h.long
        rw [List.length_map] at hsix
        have hbearer : "bearer".toList.length = 6 := rfl
        omega
      obtain ⟨more, rfl⟩ := List.prefix_of_prefix_length_le
        ⟨read.2, htext.symm⟩ (List.prefix_append value rest) hlength
      have hmore : read.2 = more ++ rest := by
        rw [List.append_assoc] at htext
        exact (List.append_cancel_left htext).symm
      cases more with
      | nil =>
        refine absurd ?_ h.ne
        rw [← hfolded, List.append_nil, List.map_congr_left fun c hc =>
          folded_of_plain (h.chars c (List.mem_append_left _ hc)), List.map_id']
      | cons c more =>
        have hword := h.isWordChar c (List.mem_append_right _ List.mem_cons_self)
        have hblank := (of_isValueChar (isValueChar_of_isWordChar hword)).1
        rw [Option.bind_some, hmore]
        simp [followBearer, leading, hblank]
  rw [parts_bearerToken.eq, hfollow]
  exact ite_self _

/-! ### What the last search finds -/

/-- Two names that are read at one place begin alike. -/
theorem comparable_of_name? {name word read rest behind : List Char}
    (hname : ∀ c ∈ name, IsNameLetter c) (h : name? name (word ++ rest) = some (read, behind)) :
    name <+: word.map folded ∨ word.map folded <+: name := by
  obtain ⟨htext, rfl⟩ := (name?_eq_some_iff hname).mp h
  rcases List.append_eq_append_iff.mp htext with ⟨more, rfl, -⟩ | ⟨more, rfl, -⟩
  · rw [List.map_append]
    exact Or.inr (List.prefix_append _ _)
  · rw [List.map_append]
    exact Or.inl (List.prefix_append _ _)

theorem name?_word {word : List Char} (hword : ∀ c ∈ word.map folded, IsNameLetter c)
    (rest : List Char) : name? (word.map folded) (word ++ rest) = some (word, rest) :=
  (name?_eq_some_iff hword).mpr ⟨rfl, rfl⟩

theorem isNameLetter_secretNames {name : List Char} (h : name ∈ secretNames) :
    ∀ c ∈ name, IsNameLetter c :=
  isNameLetter_secrets name (List.mem_cons_of_mem _ h)

/-- No name of a secret begins with another one. -/
theorem secretNames_prefixFree : ∀ a ∈ secretNames, ∀ b ∈ secretNames,
    a.isPrefixOf b = true → a = b := by decide

theorem secretStem_prefixFree : ∀ name ∈ secretNames,
    secretStem.isPrefixOf name = false ∧ name.isPrefixOf secretStem = false := by decide

theorem findSome?_word {word : List Char} (hword : word.map folded ∈ secretNames)
    (rest : List Char) : secretNames.findSome? (name? · (word ++ rest)) = some (word, rest) := by
  have hread := name?_word (isNameLetter_secretNames hword) rest
  cases hfound : secretNames.findSome? (name? · (word ++ rest)) with
  | none =>
    have hnone := List.findSome?_eq_none_iff.mp hfound _ hword
    rw [hread] at hnone
    cases hnone
  | some read =>
    obtain ⟨name, hname, hother⟩ := List.exists_of_findSome?_eq_some hfound
    have hsame : name = word.map folded := by
      rcases comparable_of_name? (isNameLetter_secretNames hname) hother with hprefix | hprefix
      · exact secretNames_prefixFree _ hname _ hword (List.isPrefixOf_iff_prefix.mpr hprefix)
      · exact (secretNames_prefixFree _ hword _ hname (List.isPrefixOf_iff_prefix.mpr hprefix)).symm
    rw [hsame, hread] at hother
    exact hother.symm

theorem secretName?_word (key : SecretKey) (rest : List Char) :
    secretName? (key.word ++ rest) = some (key.word, rest) := by
  unfold secretName?
  dsimp only
  rcases List.mem_append.mp key.isSecret with hplain | hstem
  · have hnone : name? secretStem (key.word ++ rest) = none := by
      cases hread : name? secretStem (key.word ++ rest) with
      | none => rfl
      | some read =>
        obtain ⟨hleft, hright⟩ := secretStem_prefixFree _ hplain
        have hletters := isNameLetter_secrets secretStem List.mem_cons_self
        rcases comparable_of_name? hletters hread with hprefix | hprefix
        · rw [List.isPrefixOf_iff_prefix.mpr hprefix] at hleft
          cases hleft
        · rw [List.isPrefixOf_iff_prefix.mpr hprefix] at hright
          cases hright
    rw [hnone, Option.getD_none, findSome?_word hplain]
    rfl
  · obtain ⟨name, hname, heq⟩ := List.mem_map.mp hstem
    obtain ⟨stem, plain, hword, hfolded, hplain⟩ := List.map_eq_append_iff.mp heq.symm
    have hread : name? secretStem (key.word ++ rest) = some (stem, plain ++ rest) := by
      rw [hword, List.append_assoc, ← hfolded]
      refine name?_word ?_ _
      rw [hfolded]
      exact isNameLetter_secrets secretStem List.mem_cons_self
    rw [hread, Option.getD_some, findSome?_word (hplain ▸ hname), Option.map_some, hword]

theorem isQuote_of_isBlank {c : Char} (h : Text.isBlank c = true) : isQuote c = false := by
  cases hquote : isQuote c with
  | false => rfl
  | true =>
    have hcode : c.toNat = 34 ∨ c.toNat = 39 := by
      simp only [isQuote, Bool.or_eq_true, beq_iff_eq] at hquote
      rcases hquote with rfl | hcode
      · exact Or.inl rfl
      · exact Or.inr hcode
    unfold Text.isBlank at h
    dsimp only at h
    rcases hcode with hcode | hcode
    · rw [hcode] at h
      cases h
    · rw [hcode] at h
      cases h

theorem valueRun_value {value rest : List Char} (hvalue : ∀ c ∈ value, isValueChar c = true)
    (hrest : Delimited rest) : valueRun (value ++ rest) = value := by
  have hnone : (leading isValueChar rest).1 = [] := by
    cases rest with
    | nil => rfl
    | cons c tail => simp [leading, hrest c tail rfl]
  unfold valueRun
  rw [leading_append hvalue, hnone, List.append_nil]

theorem SecretValue.isValueChar {value : List Char} (h : SecretValue value) :
    ∀ c ∈ value, isValueChar c = true :=
  fun c hc => isValueChar_of_isWordChar (h.isWordChar c hc)

theorem SecretKey.atMostOne_gap (key : SecretKey) (rest : List Char) :
    atMostOne isQuote (key.assignment ++ rest) = (key.closing, key.blanks ++ '=' :: rest) := by
  unfold SecretKey.assignment SecretKey.gap
  rcases key.isClosing with hnil | ⟨quote, hquote, hone⟩
  · rw [hnil]
    cases hblanks : key.blanks with
    | nil => rfl
    | cons c blanks =>
      have hc := isQuote_of_isBlank (key.isBlanks c (by rw [hblanks]; exact List.mem_cons_self))
      simp [atMostOne, hc]
  · rw [hone]
    simp [atMostOne, hquote]

/-- A secret that is assigned to a key. -/
theorem assignedSecret_key (key : SecretKey) {before : Option Char}
    (hbefore : startsWord before = true) {value rest : List Char} (hvalue : SecretValue value)
    (hrest : Delimited rest) :
    assignedSecret before (key.assigns value rest) = some ⟨key.word ++ key.assignment, value⟩ := by
  obtain ⟨first, tail, hcons⟩ := hvalue.exists_cons
  have hfirst := hvalue.isValueChar first (by rw [hcons]; exact List.mem_cons_self)
  obtain ⟨hblank, hquote⟩ := of_isValueChar hfirst
  have hfront : leading Text.isBlank (key.blanks ++ '=' :: (value ++ rest)) =
      (key.blanks, '=' :: (value ++ rest)) := by
    rw [leading_append key.isBlanks]
    simp [leading, Text.isBlank]
  have hback : leading Text.isBlank (value ++ rest) = ([], value ++ rest) := by
    rw [hcons]
    simp [leading, hblank]
  have hopening : atMostOne isQuote (value ++ rest) = ([], value ++ rest) := by
    rw [hcons]
    simp [atMostOne, hquote]
  have hrun : (leading isValueChar (value ++ rest)).1 = value :=
    valueRun_value hvalue.isValueChar hrest
  have hsign : atMostOne isAssignment ('=' :: (value ++ rest)) = (['='], value ++ rest) := rfl
  rw [parts_assignedSecret.eq, if_pos hbefore, key.assigns_eq, secretName?_word, Option.bind_some]
  unfold followName
  dsimp only
  rw [key.atMostOne_gap]
  dsimp only
  rw [hfront]
  dsimp only
  rw [hsign]
  dsimp only
  rw [hback]
  dsimp only
  rw [hopening]
  dsimp only
  rw [hrun, if_neg (by simp [hcons])]
  simp only [SecretKey.assignment, SecretKey.gap, List.append_assoc, List.append_nil]

end CallTracing.Redaction
