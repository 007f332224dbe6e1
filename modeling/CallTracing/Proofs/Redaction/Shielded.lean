/-
  CallTracing/Proofs/Redaction/Shielded.lean
  ==========================================
  **When an assigned secret is hidden.**

  Three kinds of secrets are looked for one after the other, and assigned ones come last.  A bearer
  token that begins in front of a key takes its name for a part of itself: the name is hidden, and the
  value stays.  No assignment further in front reaches the value either, since blanks stand in front
  of every token, and behind a hidden one there is no name (`not_open_behind_token`).

  A key that is safe from the search before the last one, and from other assignments, is `Shielded`.
  What is assigned to it influences what may be logged by its first five characters only, and what is
  assigned to any other key is logged in full (`shielded_or_shown`).
-/
import CallTracing.Proofs.Redaction.Assignments

namespace CallTracing.Redaction

variable {p value rest : List Char} {key : SecretKey}

/-! ### Keys that are taken for tokens -/

namespace SecretKey

variable (key : SecretKey)

/-- What a bearer token takes in of a key and its sign: all of it, if nothing stands between them. -/
def swallowed : List Char := if key.gap = [] then key.word ++ ['='] else key.word

/-- What such a token leaves in front of the value. -/
def leftover : List Char := if key.gap = [] then [] else key.assignment

theorem swallowed_leftover (value rest : List Char) :
    key.assigns value rest = key.swallowed ++ (key.leftover ++ (value ++ rest)) := by
  rw [key.assigns_eq]
  unfold swallowed leftover assignment
  by_cases hgap : key.gap = []
  · rw [if_pos hgap, if_pos hgap, hgap]
    simp only [List.nil_append, List.append_assoc]
  · rw [if_neg hgap, if_neg hgap]

theorem isWordChar_leftover : ∀ c ∈ key.leftover, isWordChar c = false := by
  unfold leftover
  split
  · exact fun c hc => nomatch hc
  · exact key.isWordChar_assignment

theorem tokenRun_assigns (hvalue : SecretValue value) :
    tokenRun (key.assigns value rest) = key.swallowed := by
  have hword : ∀ c ∈ key.word, isTokenChar c = true :=
    fun c hc => isTokenChar_of_folded (key.isNameLetter_word hc)
  unfold tokenRun swallowed
  rw [assigns, leading_append hword]
  cases hgap : key.gap with
  | nil =>
    obtain ⟨first, more, hcons⟩ := hvalue.exists_cons
    have hfirst : (first == '=') = false := by
      have hchar := hvalue.isWordChar first (by rw [hcons]; exact List.mem_cons_self)
      rw [beq_eq_false_iff_ne]
      rintro rfl
      revert hchar
      decide +kernel
    have hsign : isTokenChar '=' = false := by decide
    rw [hcons]
    simp [leading, hsign, hfirst]
  | cons c gap =>
    have hc := key.isValueChar_gap c (by rw [hgap]; exact List.mem_cons_self)
    have htoken : isTokenChar c = false := by
      cases htoken : isTokenChar c with
      | false => rfl
      | true =>
        rw [isValueChar_of_isTokenChar htoken] at hc
        cases hc
    have hsign : (c == '=') = false := by
      rw [beq_eq_false_iff_ne]
      rintro rfl
      revert hc
      decide
    simp [leading, htoken, hsign]

end SecretKey

/-- A hidden token ends with a star, and nothing in it separates a name from a value. -/
theorem exists_block {part : List Char} (hpart : ∀ c ∈ part, isTokenChar c = true)
    (key : SecretKey) : ∃ block, obscured (part ++ key.swallowed) = block ++ ['*'] ∧
      ∀ c ∈ block, isAssignment c = false := by
  have hstar : isAssignment '*' = false := by decide
  have hlength := key.length_word
  have htoken : ∀ c ∈ part ++ key.word, isAssignment c = false := by
    intro c hc
    rcases List.mem_append.mp hc with hmem | hmem
    · exact isAssignment_of_isTokenChar (hpart c hmem)
    · exact isAssignment_of_isWordChar (key.isWordChar_word c hmem)
  have hprefix : key.word <+: key.swallowed := by
    unfold SecretKey.swallowed
    split
    · exact List.prefix_append _ _
    · exact List.prefix_rfl
  obtain ⟨more, hmore⟩ := hprefix
  by_cases hlong : 5 < (part ++ key.swallowed).length
  · refine ⟨(part ++ key.swallowed).take 5 ++ ['*', '*'], ?_, ?_⟩
    · rw [obscured_of_long hlong, List.append_assoc]
      rfl
    · intro c hc
      rcases List.mem_append.mp hc with hmem | hmem
      · rw [← hmore, ← List.append_assoc, List.take_append_of_le_length] at hmem
        · exact htoken c (List.mem_of_mem_take hmem)
        · rw [List.length_append]
          omega
      · have hone : c = '*' := by simpa using hmem
        rw [hone]
        exact hstar
  · obtain ⟨n, hn⟩ : ∃ n, (part ++ key.swallowed).length = n + 1 := by
      refine ⟨(part ++ key.swallowed).length - 1, ?_⟩
      rw [← hmore, List.length_append, List.length_append]
      omega
    refine ⟨List.replicate n '*', ?_, ?_⟩
    · unfold obscured
      rw [if_pos (by omega), hn, List.replicate_succ']
    · intro c hc
      rw [List.eq_of_mem_replicate hc]
      exact hstar

/-- In front of a sign that is left with the value there is nothing but the gap. -/
theorem SecretKey.of_leftover_eq {front rest : List Char} {sign : Char}
    (h : key.leftover = front ++ sign :: rest) : ∀ c ∈ front, isValueChar c = false := by
  unfold SecretKey.leftover at h
  split at h
  · simp at h
  · intro c hc
    rcases append_cons_cases (b := []) h with ⟨rfl, -, -⟩ | ⟨more, -, hnil⟩ | ⟨more, hgap, -⟩
    · exact key.isValueChar_gap c hc
    · simp at hnil
    · exact key.isValueChar_gap c (by rw [hgap]; exact List.mem_append_left _ hc)

section

variable {front blanks block first name left right part : List Char} {r sign : Char}

/-- A value does not go on from in front of a word through the blanks behind it. -/
theorem not_through_blanks {before behind : List Char} (hr : isWordChar r = true)
    (hne : blanks ≠ []) (hblanks : ∀ c ∈ blanks, Text.isBlank c = true)
    (hright : ∀ c ∈ right, isValueChar c = false) (hpart : ∀ c ∈ part, isValueChar c = true) :
    right ++ part ≠ before ++ r :: (blanks ++ behind) := by
  intro h
  obtain ⟨blank, hblank⟩ := List.exists_mem_of_ne_nil blanks hne
  have hnotpart : ∀ inside, part ≠ inside ++ r :: (blanks ++ behind) := by
    intro inside heq
    have hvalue := hpart blank (by rw [heq]; simp [hblank])
    rw [not_isValueChar_of_isBlank (hblanks blank hblank)] at hvalue
    cases hvalue
  rcases List.append_eq_append_iff.mp h with ⟨inside, -, heq⟩ | ⟨inside, hinside, heq⟩
  · exact hnotpart inside heq
  · cases inside with
    | nil => exact hnotpart [] heq.symm
    | cons c inside =>
      obtain ⟨rfl, -⟩ := List.cons_eq_cons.mp heq
      have hword := isWordChar_of_not_isValueChar (hright r (by rw [hinside]; simp))
      rw [hr] at hword
      cases hword

/-- The sign that is behind a hidden token is the one of the key, behind its gap. -/
theorem exists_gap (hblanks : ∀ c ∈ blanks, Text.isBlank c = true)
    (hblock : ∀ c ∈ block, isAssignment c = false) (hsign : isAssignment sign = true)
    {more behind : List Char}
    (h : blanks ++ block ++ '*' :: key.leftover = more ++ sign :: behind) :
    ∃ gap, more = blanks ++ block ++ '*' :: gap ∧ ∀ c ∈ gap, isValueChar c = false := by
  rcases append_cons_cases h with ⟨-, rfl, -⟩ | ⟨gap, hmore, hgap⟩ | ⟨_, hinside, -⟩
  · exact absurd hsign (by decide)
  · exact ⟨gap, hmore, SecretKey.of_leftover_eq hgap⟩
  · have hmem : sign ∈ blanks ++ block := by rw [hinside]; simp
    rcases List.mem_append.mp hmem with hblank | htoken
    · have hvalue := not_isValueChar_of_isBlank (hblanks sign hblank)
      rw [isValueChar_of_isAssignment hsign] at hvalue
      cases hvalue
    · rw [hblock sign htoken] at hsign
      cases hsign

/-- A name does not end with a star. -/
theorem not_name_before_gap {gap : List Char} (hname : ∀ c ∈ name, isWordChar c = true)
    (hne : name ≠ []) (hleft : ∀ c ∈ left, isValueChar c = false)
    (hgap : ∀ c ∈ gap, isValueChar c = false) : first ++ name ++ left ≠ front ++ '*' :: gap := by
  intro h
  obtain ⟨init, last, rfl⟩ := (List.eq_nil_or_concat name).resolve_left hne
  have hlast := hname last (by simp)
  have hends : first ++ init ++ last :: left = front ++ '*' :: gap := by simpa using h
  rcases append_cons_cases hends with ⟨-, rfl, -⟩ | ⟨_, -, hmore⟩ | ⟨_, -, hmore⟩
  · exact absurd hlast (by decide +kernel)
  · exact absurd (hleft '*' (by rw [hmore]; simp)) (by decide)
  · have hword := isWordChar_of_not_isValueChar (hgap last (by rw [hmore]; simp))
    rw [hlast] at hword
    cases hword

/-- Behind a token that is hidden, no assignment goes on: blanks stand in front of the token, and in
it, and between it and the sign, there is no name. -/
theorem not_open_behind_token {next : Char} (hr : isWordChar r = true) (hne : blanks ≠ [])
    (hblanks : ∀ c ∈ blanks, Text.isBlank c = true) (hblock : ∀ c ∈ block, isAssignment c = false)
    (key : SecretKey) : ¬Open assignedSecret valueRun next 0 none
      (front ++ r :: (blanks ++ block ++ '*' :: key.leftover)) := by
  rintro ⟨start, -, kept, part, ⟨first, hfirst⟩, hruns, -⟩
  obtain ⟨name, between, left, sign, right, rest, hname, rfl, hseparates, hsecret⟩ :=
    of_assignedSecret (hruns [])
  have hpart : ∀ c ∈ part, isValueChar c = true := fun c hc => hsecret c (by simp [hc])
  have hall : first ++ name ++ left ++ sign :: (right ++ part) =
      front ++ r :: (blanks ++ block ++ '*' :: key.leftover) := by
    rw [← hfirst, hseparates.eq]
    simp only [List.append_assoc, List.cons_append]
  -- the sign of the assignment is the last letter of the word, or before it, or behind it
  rcases append_cons_cases hall with ⟨-, rfl, -⟩ | ⟨more, -, hmore⟩ | ⟨more, hmore, hbehind⟩
  · have hsign := isAssignment_of_isWordChar hr
    rw [hseparates.sign] at hsign
    cases hsign
  · rw [List.append_assoc] at hmore
    exact not_through_blanks hr hne hblanks hseparates.right hpart hmore
  · obtain ⟨gap, rfl, hgap⟩ := exists_gap hblanks hblock hseparates.sign hbehind
    rw [← List.cons_append, ← List.append_assoc] at hmore
    exact not_name_before_gap (isWordChar_of_secretName? hname) (secretName?_ne_nil hname)
      hseparates.left hgap hmore

end

/-- What a token that goes on behind a text is made of in it: the word, blanks, and characters of
tokens. -/
theorem of_runsOn_bearerToken {next : Char} {start : Option Char} {kept part : List Char}
    (hnext : isTokenChar next = true) (h : RunsOn bearerToken tokenRun next start kept part) :
    ∃ init r blanks, kept = init ++ r :: blanks ∧ isWordChar r = true ∧ blanks ≠ [] ∧
      (∀ c ∈ blanks, Text.isBlank c = true) ∧ ∀ c ∈ part, isTokenChar c = true := by
  obtain ⟨word, blanks, token, padding, hkept, hword, hne, hblanks, hsecret, htoken, hpadding⟩ :=
    of_bearerToken (h [])
  dsimp only at hkept hsecret
  rcases List.eq_nil_or_concat word with hnil | ⟨init, r, hlast⟩
  · rw [hnil] at hword
    cases hword
  · have hr : isWordChar r = true := by
      refine isWordChar_of_folded (isNameLetter_bearer _ ?_)
      rw [← hword, hlast]
      simp
    refine ⟨init, r, blanks, by rw [hkept, hlast]; simp, hr, hne, hblanks, fun c hc => ?_⟩
    -- the padding is behind the whole token, and so behind its part in the text
    have hrun : tokenRun [next] = [next] := by simp [tokenRun, leading, hnext]
    rw [hrun] at hsecret
    rcases List.append_eq_append_iff.mp hsecret with ⟨more, hmore, -⟩ | ⟨more, -, hmore⟩
    · exact htoken c (by rw [hmore]; exact List.mem_append_left _ hc)
    · rw [hpadding next (by rw [hmore]; simp)] at hnext
      exact absurd hnext (by decide)

/-- Behind a star and characters of no word, a word may start. -/
theorem startsWord_behind_star {text : List Char} (h : ∀ c ∈ text, isWordChar c = false)
    (front : List Char) : startsWord (front ++ '*' :: text).getLast? = true := by
  rw [List.getLast?_append, List.getLast?_cons, Option.some_or]
  cases hlast : text.getLast? with
  | none => decide +kernel
  | some c =>
    have hc := h c (List.mem_of_getLast? hlast)
    simp [startsWord, hc]

/-- A bearer token that begins in front of a key takes in its name, and the value stays. -/
theorem exists_shown_behind_token (hp : startsWord p.getLast? = true)
    (hcovered : covered bearerToken p key.word ≠ 0) :
    ∃ out, ∀ {value rest : List Char}, SecretValue value → Delimited rest → ∃ back,
      Delimited back ∧ redact assignedSecret (redact bearerToken (p ++ key.assigns value rest)) =
        out ++ value ++ back := by
  obtain ⟨first, tail, hword, -, htoken⟩ := key.exists_first
  rw [hword] at hcovered
  have hopen := open_of_covered sound_bearerToken (settles_bearerToken hp htoken) hcovered
  obtain ⟨start, out, kept, part, -, hruns, hredact⟩ := hopen.redact_eq
  obtain ⟨init, r, blanks, hkept, hr, hne, hblanks, hpart⟩ := of_runsOn_bearerToken htoken hruns
  obtain ⟨block, hobscured, hblock⟩ := exists_block hpart key
  obtain ⟨front, hfront⟩ : ∃ front, out ++ init ++ r :: (blanks ++ block ++ '*' :: key.leftover) =
      front := ⟨_, rfl⟩
  refine ⟨redact assignedSecret front, fun {value rest} hvalue hrest => ?_⟩
  have hfirst : redact bearerToken (p ++ key.assigns value rest) =
      front ++ (value ++ redact bearerToken rest) := by
    have hall := hredact (key.leftover ++ (value ++ rest))
      (tail ++ (key.gap ++ '=' :: (value ++ rest)))
    rw [← SecretKey.assigns_cons hword, key.tokenRun_assigns hvalue,
      redactFrom_behind atWords_bearerToken key.isWordChar_leftover hvalue hrest
        fun before => bearerToken_value hvalue before] at hall
    unfold redact
    rw [hall (key.swallowed_leftover value rest), hobscured, hkept, ← hfront]
    simp [redact]
  have hends : startsWord front.getLast? = true := by
    rw [← hfront, ← List.cons_append, ← List.append_assoc]
    exact startsWord_behind_star key.isWordChar_leftover _
  obtain ⟨c, more, hcons⟩ := hvalue.exists_cons
  have hsettles := settles_assignedSecret hends
    (hvalue.isWordChar c (by rw [hcons]; exact List.mem_cons_self))
  have hnot : ¬Open assignedSecret valueRun c 0 none front := by
    rw [← hfront]
    exact not_open_behind_token hr hne hblanks hblock key
  have hclosed := (closed_or_open sound_assignedSecret none hsettles).resolve_right hnot
  have hdelimited := delimited_redact atWords_bearerToken hrest
  obtain ⟨back, hback, hshown⟩ := exists_back hvalue hdelimited front.getLast?
  refine ⟨back, hback, ?_⟩
  rw [hfirst, hclosed.redact_append (by rw [hcons, List.cons_append]), hshown, List.append_assoc]

/-! ### What may be logged -/

/-- A key that the searches before the last one leave alone, and that is not part of the value of
another assignment which ends between its name and its sign. -/
structure Shielded (p : List Char) (key : SecretKey) : Prop where
  bearer : covered bearerToken (redact accessKeyId p) key.word = 0
  assigned : key.gap = [] ∨
    covered assignedSecret (redact bearerToken (redact accessKeyId p)) key.word = 0

/-- Of a value that is assigned to a shielded key the first five characters influence what may be
logged; a value that is assigned to another key is kept in full, up to where the text is cut. -/
theorem shielded_or_shown (p : List Char) (key : SecretKey) (hp : startsWord p.getLast? = true) :
    (Shielded p key → ∀ value value' rest, SecretValue value → SecretValue value' →
      value.take 5 = value'.take 5 → Delimited rest →
        sanitizedChars (p ++ key.assigns value rest) =
          sanitizedChars (p ++ key.assigns value' rest)) ∧
    (¬Shielded p key → ∃ front, ∀ value rest, SecretValue value → Delimited rest → ∃ back,
      Delimited back ∧
        sanitizedChars (p ++ key.assigns value rest) = capped (front ++ value ++ back)) := by
  have hp₁ := startsWord_redact sound_accessKeyId hp
  have hp₂ := startsWord_redact sound_bearerToken hp₁
  have hrest₁ : ∀ {rest}, Delimited rest → Delimited (redact accessKeyId rest) :=
    delimited_redact atWords_accessKeyId
  have hrest₂ : ∀ {rest}, Delimited rest →
      Delimited (redact bearerToken (redact accessKeyId rest)) :=
    fun hrest => delimited_redact atWords_bearerToken (hrest₁ hrest)
  constructor
  · intro hshielded value value' rest hvalue hvalue' htake hrest
    obtain ⟨out, hhidden⟩ := exists_hidden hp₂ hshielded.assigned (value.take 5)
    rw [sanitizedChars_eq, sanitizedChars_eq, redact_accessKeyId_assigns hp hvalue hrest,
      redact_accessKeyId_assigns hp hvalue' hrest,
      redact_bearerToken_assigns hp₁ hshielded.bearer hvalue (hrest₁ hrest),
      redact_bearerToken_assigns hp₁ hshielded.bearer hvalue' (hrest₁ hrest)]
    exact congrArg capped ((hhidden hvalue rfl (hrest₂ hrest)).trans
      (hhidden hvalue' htake.symm (hrest₂ hrest)).symm)
  · intro hnot
    by_cases hbearer : covered bearerToken (redact accessKeyId p) key.word = 0
    · have hassigned : ¬(key.gap = [] ∨
          covered assignedSecret (redact bearerToken (redact accessKeyId p)) key.word = 0) :=
        fun h => hnot ⟨hbearer, h⟩
      obtain ⟨hgap, hcovered⟩ := not_or.mp hassigned
      obtain ⟨out, hshown⟩ := exists_shown_behind_gap hp₂ hgap hcovered
      refine ⟨out, fun value rest hvalue hrest => ?_⟩
      obtain ⟨back, hback, heq⟩ := hshown hvalue (hrest₂ hrest)
      refine ⟨back, hback, ?_⟩
      rw [sanitizedChars_eq, redact_accessKeyId_assigns hp hvalue hrest,
        redact_bearerToken_assigns hp₁ hbearer hvalue (hrest₁ hrest)]
      exact congrArg capped heq
    · obtain ⟨out, hshown⟩ := exists_shown_behind_token hp₁ hbearer
      refine ⟨out, fun value rest hvalue hrest => ?_⟩
      obtain ⟨back, hback, heq⟩ := hshown hvalue (hrest₁ hrest)
      refine ⟨back, hback, ?_⟩
      rw [sanitizedChars_eq, redact_accessKeyId_assigns hp hvalue hrest]
      exact congrArg capped heq

/-- The key `token`, with its sign right behind it. -/
def tokenKey : SecretKey where
  word := "token".toList
  closing := []
  blanks := []
  isSecret := by decide
  isClosing := Or.inl rfl
  isBlanks := fun c hc => nomatch hc

theorem secretValue_plain : SecretValue "abcdefgh".toList :=
  SecretValue.of_all (by decide) (by decide) (by decide)

theorem secretValue_other : SecretValue "abcdexyz".toList :=
  SecretValue.of_all (by decide) (by decide) (by decide)

theorem delimited_nil : Delimited [] := fun _ _ h => nomatch h

/-- Behind another word the key is shielded, and behind the word `Bearer` it is not. -/
theorem tokenKey_shielded_or_shown :
    sanitizedChars ("call ".toList ++ tokenKey.assigns "abcdefgh".toList []) =
        sanitizedChars ("call ".toList ++ tokenKey.assigns "abcdexyz".toList []) ∧
      ∃ front back, sanitizedChars ("Bearer ".toList ++ tokenKey.assigns "abcdefgh".toList []) =
        capped (front ++ "abcdefgh".toList ++ back) := by
  constructor
  · have hshielded : Shielded "call ".toList tokenKey := ⟨by decide +kernel, Or.inl rfl⟩
    exact (shielded_or_shown "call ".toList tokenKey (by decide +kernel)).1 hshielded _ _ []
      secretValue_plain secretValue_other (by decide) delimited_nil
  · have hnot : ¬Shielded "Bearer ".toList tokenKey :=
      fun h => absurd h.bearer (by decide +kernel)
    obtain ⟨front, hshown⟩ :=
      (shielded_or_shown "Bearer ".toList tokenKey (by decide +kernel)).2 hnot
    obtain ⟨back, -, heq⟩ := hshown _ [] secretValue_plain delimited_nil
    exact ⟨front, back, heq⟩

/-- It is not so that of every assigned value only the first five characters influence what may be
logged. -/
theorem bearer_key_shown : ¬∀ (p : List Char) (key : SecretKey) (value value' rest : List Char),
    startsWord p.getLast? = true → SecretValue value → SecretValue value' →
      value.take 5 = value'.take 5 → Delimited rest →
        sanitizedChars (p ++ key.assigns value rest) =
          sanitizedChars (p ++ key.assigns value' rest) := by
  intro h
  have heq := h "Bearer ".toList tokenKey "abcdefgh".toList "abcdexyz".toList [] (by decide +kernel)
    secretValue_plain secretValue_other (by decide) delimited_nil
  revert heq
  decide +kernel

/-- Neither is a value hidden whose key ends the value of another assignment. -/
example : sanitizedChars "password=token\"=abcdefgh".toList =
    "password=*****\"=abcdefgh".toList := by decide +kernel

end CallTracing.Redaction
