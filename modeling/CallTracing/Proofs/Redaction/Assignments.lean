/-
  CallTracing/Proofs/Redaction/Assignments.lean
  =============================================
  **Assigned secrets behind a text.**

  A match that begins in a text covers some of what follows it, or nothing (`covered`).  Where a key is
  not covered, the searches for access key ids and for bearer tokens pass over it and its value
  (`redact_bearerToken_assigns`), and the search for assigned secrets hides the value.

  Where that search covers the key, it is within the value of another assignment.  This goes on through
  the new value and hides it too (`exists_hidden`), unless something stands between the name and the
  sign, which ends it: then the new value has no name in front and stays (`exists_shown_behind_gap`).
-/
import CallTracing.Proofs.Redaction.Keys

namespace CallTracing.Redaction

/-! ### What is covered -/

/-- How many characters behind a text are covered by matches that begin in it. -/
def covered (matcher : Matcher) (front rest : List Char) : Nat :=
  (scanFrom matcher rest 0 none front).2

section

variable {matcher : Matcher} {run : List Char → List Char} {next : Char}
  {front text tail : List Char}

theorem closed_of_covered (hsound : matcher.Sound) (h : Settles matcher run next front)
    (hrun : ∀ rest, run (next :: rest) ≠ []) (hcovered : covered matcher front (next :: tail) = 0) :
    Closed matcher next 0 none front := by
  rcases closed_or_open hsound none h with hclosed | hopen
  · exact hclosed
  · obtain ⟨start, out, kept, part, -, -, hscan⟩ := hopen
    unfold covered at hcovered
    rw [hscan] at hcovered
    exact absurd (List.eq_nil_of_length_eq_zero hcovered) (hrun tail)

theorem open_of_covered (hsound : matcher.Sound) (h : Settles matcher run next front)
    (hcovered : covered matcher front (next :: tail) ≠ 0) :
    Open matcher run next 0 none front := by
  rcases closed_or_open hsound none h with hclosed | hopen
  · unfold covered at hcovered
    rw [hclosed] at hcovered
    exact absurd rfl hcovered
  · exact hopen

theorem Closed.redact_append (h : Closed matcher next 0 none front) (htext : text = next :: tail) :
    redact matcher (front ++ text) =
      redact matcher front ++ redactFrom matcher 0 front.getLast? text := by
  have hredact := h.redact_eq tail
  rw [Option.or_none] at hredact
  rw [htext]
  exact hredact

end

theorem tokenRun_ne_nil {next : Char} (h : isTokenChar next = true) (rest : List Char) :
    tokenRun (next :: rest) ≠ [] := by
  simp [tokenRun, leading, h]

theorem valueRun_ne_nil {next : Char} (h : isWordChar next = true) (rest : List Char) :
    valueRun (next :: rest) ≠ [] := by
  simp [valueRun, leading, isValueChar_of_isWordChar h]

/-! ### The first two searches -/

variable {p value rest : List Char} {key : SecretKey}

theorem SecretKey.exists_first (key : SecretKey) : ∃ first tail, key.word = first :: tail ∧
    isWordChar first = true ∧ isTokenChar first = true := by
  obtain ⟨first, second, tail, hword, -⟩ := key.exists_word
  have hmem : first ∈ key.word := by rw [hword]; exact List.mem_cons_self
  exact ⟨first, second :: tail, hword, key.isWordChar_word first hmem,
    isTokenChar_of_folded (key.isNameLetter_word hmem)⟩

theorem SecretKey.assigns_cons {first : Char} {tail : List Char} (hword : key.word = first :: tail)
    (value rest : List Char) :
    key.assigns value rest = first :: (tail ++ (key.gap ++ '=' :: (value ++ rest))) := by
  rw [SecretKey.assigns, hword, List.cons_append]

theorem redact_accessKeyId_assigns (hp : startsWord p.getLast? = true) (hvalue : SecretValue value)
    (hrest : Delimited rest) : redact accessKeyId (p ++ key.assigns value rest) =
      redact accessKeyId p ++ key.assigns value (redact accessKeyId rest) := by
  obtain ⟨first, tail, hword, -, -⟩ := key.exists_first
  rw [(closed_accessKeyId hp none).redact_append (SecretKey.assigns_cons hword value rest),
    redactFrom_assigns atWords_accessKeyId (accessKeyId_key key) hvalue hrest fun _ =>
      accessKeyId_value hvalue _ _]

theorem redact_bearerToken_assigns (hp : startsWord p.getLast? = true)
    (hcovered : covered bearerToken p key.word = 0) (hvalue : SecretValue value)
    (hrest : Delimited rest) : redact bearerToken (p ++ key.assigns value rest) =
      redact bearerToken p ++ key.assigns value (redact bearerToken rest) := by
  obtain ⟨first, tail, hword, -, htoken⟩ := key.exists_first
  rw [hword] at hcovered
  have hclosed := closed_of_covered sound_bearerToken (settles_bearerToken hp htoken)
    (tokenRun_ne_nil htoken) hcovered
  rw [hclosed.redact_append (SecretKey.assigns_cons hword value rest),
    redactFrom_assigns atWords_bearerToken (bearerToken_key key) hvalue hrest fun _ =>
      bearerToken_value hvalue _]

/-! ### The last search -/

theorem obscured_of_long {secret : List Char} (h : 5 < secret.length) :
    obscured secret = secret.take 5 ++ ['*', '*', '*'] := by
  unfold obscured
  rw [if_neg (by omega)]

theorem SecretKey.length_word (key : SecretKey) : 5 ≤ key.word.length := by
  have hlong : ∀ name ∈ secretWords, 5 ≤ name.length := by decide
  have hlength := hlong _ key.isSecret
  rwa [List.length_map] at hlength

/-- The search gets to the key. -/
theorem redact_assignedSecret_closed (hp : startsWord p.getLast? = true)
    (hcovered : covered assignedSecret p key.word = 0) (hvalue : SecretValue value)
    (hrest : Delimited rest) : redact assignedSecret (p ++ key.assigns value rest) =
      redact assignedSecret p ++ (key.word ++ key.assignment) ++ obscured value ++
        redact assignedSecret rest := by
  obtain ⟨first, tail, hword, hfirst, -⟩ := key.exists_first
  rw [hword] at hcovered
  have hclosed := closed_of_covered sound_assignedSecret (settles_assignedSecret hp hfirst)
    (valueRun_ne_nil hfirst) hcovered
  have hassigns := SecretKey.assigns_cons hword value rest
  have hmatch := assignedSecret_key key hp hvalue hrest
  rw [hassigns] at hmatch
  obtain ⟨behind, hbehind, -, hredact⟩ := redactFrom_match sound_assignedSecret hmatch
  have hsame : behind = rest := by
    rw [← hassigns, key.assigns_eq] at hbehind
    simp only [List.append_assoc, List.append_cancel_left_eq] at hbehind
    exact hbehind.symm
  rw [hclosed.redact_append hassigns, hassigns, hredact, hsame,
    redactFrom_of_delimited atWords_assignedSecret hrest]
  simp only [Match.hidden, List.append_assoc]

/-- The value of another assignment goes on through the key and the value. -/
theorem redact_assignedSecret_open (hp : startsWord p.getLast? = true) (hgap : key.gap = [])
    (hcovered : covered assignedSecret p key.word ≠ 0) :
    ∃ out part, ∀ {value rest : List Char}, SecretValue value → Delimited rest →
      redact assignedSecret (p ++ key.assigns value rest) =
        out ++ obscured (part ++ (key.word ++ '=' :: value)) ++ redact assignedSecret rest := by
  obtain ⟨first, tail, hword, hfirst, -⟩ := key.exists_first
  rw [hword] at hcovered
  have hopen := open_of_covered sound_assignedSecret (settles_assignedSecret hp hfirst) hcovered
  obtain ⟨start, out, kept, part, -, -, hredact⟩ := hopen.redact_eq
  refine ⟨out ++ kept, part, fun {value rest} hvalue hrest => ?_⟩
  have hassigns : key.assigns value rest = key.word ++ '=' :: value ++ rest := by
    simp [SecretKey.assigns, hgap]
  have hrun : valueRun (key.assigns value rest) = key.word ++ '=' :: value := by
    rw [hassigns]
    refine valueRun_value ?_ hrest
    intro c hc
    rcases List.mem_append.mp hc with hkey | hsign
    · exact isValueChar_of_isWordChar (key.isWordChar_word c hkey)
    · rcases List.mem_cons.mp hsign with rfl | hmem
      · decide
      · exact hvalue.isValueChar c hmem
  have hfirstRun := SecretKey.assigns_cons hword value rest
  have hall := hredact rest (tail ++ (key.gap ++ '=' :: (value ++ rest)))
  rw [← hfirstRun, hrun] at hall
  unfold redact
  rw [hall hassigns, redactFrom_of_delimited atWords_assignedSecret hrest]
  rfl

/-- Of a value that is hidden the first five characters matter. -/
theorem exists_hidden (hp : startsWord p.getLast? = true)
    (h : key.gap = [] ∨ covered assignedSecret p key.word = 0) (five : List Char) :
    ∃ out, ∀ {value rest : List Char}, SecretValue value → value.take 5 = five → Delimited rest →
      redact assignedSecret (p ++ key.assigns value rest) = out ++ redact assignedSecret rest := by
  by_cases hcovered : covered assignedSecret p key.word = 0
  · refine ⟨redact assignedSecret p ++ (key.word ++ key.assignment) ++ (five ++ ['*', '*', '*']),
      ?_⟩
    intro value rest hvalue hfive hrest
    rw [redact_assignedSecret_closed hp hcovered hvalue hrest, obscured_of_long hvalue.long, hfive]
  · obtain ⟨out, part, hredact⟩ :=
      redact_assignedSecret_open hp (h.resolve_right hcovered) hcovered
    refine ⟨out ++ ((part ++ key.word).take 5 ++ ['*', '*', '*']), ?_⟩
    intro value rest hvalue _ hrest
    -- the name has five characters at least, so the value is not among those that stay
    have hlength := key.length_word
    have hlong : 5 < (part ++ (key.word ++ '=' :: value)).length := by
      simp only [List.length_append, List.length_cons]
      omega
    have htake : (part ++ (key.word ++ '=' :: value)).take 5 = (part ++ key.word).take 5 := by
      rw [← List.append_assoc, List.take_append_of_le_length]
      rw [List.length_append]
      omega
    rw [hredact hvalue hrest, obscured_of_long hlong, htake]

/-! ### Values in full -/

theorem isValueChar_of_isAssignment {c : Char} (h : isAssignment c = true) :
    isValueChar c = true := by
  simp only [isAssignment, Bool.or_eq_true, beq_iff_eq] at h
  rcases h with rfl | rfl
  · decide
  · decide

/-- Whether a text is empty or begins with a character that no word has. -/
def BetweenWords (text : List Char) : Prop := ∀ c rest, text = c :: rest → isWordChar c = false

theorem Delimited.betweenWords {text : List Char} (h : Delimited text) : BetweenWords text :=
  fun c rest htext => isWordChar_of_not_isValueChar (h c rest htext)

theorem Separates.betweenWords {between left right : List Char} {sign : Char}
    (h : Separates between left sign right) (rest : List Char) : BetweenWords (between ++ rest) := by
  rw [h.eq]
  cases left with
  | nil =>
    rintro c more ⟨⟩
    cases hword : isWordChar sign with
    | false => rfl
    | true =>
      have hsign := h.sign
      rw [isAssignment_of_isWordChar hword] at hsign
      cases hsign
  | cons d left =>
    rintro c more ⟨⟩
    exact isWordChar_of_not_isValueChar (h.left d List.mem_cons_self)

theorem takeWhile_word {word rest : List Char} (hword : ∀ c ∈ word, isWordChar c = true)
    (hrest : BetweenWords rest) : (word ++ rest).takeWhile isWordChar = word := by
  rw [List.takeWhile_append_of_pos hword]
  cases rest with
  | nil => exact List.append_nil word
  | cons c rest => rw [List.takeWhile_cons_of_neg (by simp [hrest c rest rfl]), List.append_nil]

/-- A text has one word at its beginning. -/
theorem word_unique {word word' rest rest' : List Char} (hword : ∀ c ∈ word, isWordChar c = true)
    (hword' : ∀ c ∈ word', isWordChar c = true) (hrest : BetweenWords rest)
    (hrest' : BetweenWords rest') (h : word ++ rest = word' ++ rest') :
    word = word' ∧ rest = rest' := by
  have hsame : word = word' := by
    rw [← takeWhile_word hword hrest, h, takeWhile_word hword' hrest']
  subst hsame
  exact ⟨rfl, List.append_cancel_left h⟩

/-- A value that the search comes upon by itself is kept, even if it is the name of a secret. -/
theorem exists_back (hvalue : SecretValue value) (hrest : Delimited rest) (before : Option Char) :
    ∃ back, Delimited back ∧
      redactFrom assignedSecret 0 before (value ++ rest) = value ++ back := by
  cases hmatch : assignedSecret before (value ++ rest) with
  | none =>
    exact ⟨redact assignedSecret rest, delimited_redact atWords_assignedSecret hrest,
      redactFrom_value atWords_assignedSecret hvalue hrest hmatch⟩
  | some found =>
    obtain ⟨name, between, left, sign, right, tail, hname, hkept, hseparates, -⟩ :=
      of_assignedSecret hmatch
    -- the name ends where the value does, so the sign is behind a delimiter
    have hbehind := hseparates.betweenWords (found.secret ++ tail)
    have htext := parts_assignedSecret.reads hname
    rw [List.append_assoc] at htext
    obtain ⟨rfl, hrests⟩ := word_unique hvalue.isWordChar (isWordChar_of_secretName? hname)
      hrest.betweenWords hbehind htext
    obtain ⟨first, more, hcons⟩ := hvalue.exists_cons
    rw [hcons, List.cons_append] at hmatch
    obtain ⟨behind, -, -, hredact⟩ := redactFrom_match sound_assignedSecret hmatch
    rw [← List.cons_append, ← hcons] at hredact
    refine ⟨between ++ obscured found.secret ++ redactFrom assignedSecret 0
      ((found.kept ++ found.secret).getLast?.or before) behind, ?_, ?_⟩
    · rw [hseparates.eq] at hrests ⊢
      cases left with
      | nil =>
        have hdelimiter := hrest sign _ hrests
        rw [isValueChar_of_isAssignment hseparates.sign] at hdelimiter
        cases hdelimiter
      | cons d left =>
        rintro c tail' ⟨⟩
        exact hseparates.left d List.mem_cons_self
    · rw [hredact, Match.hidden, hkept]
      simp only [List.append_assoc]

/-- The value of another assignment that ends between the name and the sign takes the name with
it. -/
theorem exists_shown_behind_gap (hp : startsWord p.getLast? = true) (hgap : key.gap ≠ [])
    (hcovered : covered assignedSecret p key.word ≠ 0) :
    ∃ out, ∀ {value rest : List Char}, SecretValue value → Delimited rest → ∃ back,
      Delimited back ∧ redact assignedSecret (p ++ key.assigns value rest) =
        out ++ value ++ back := by
  obtain ⟨first, tail, hword, hfirst, -⟩ := key.exists_first
  rw [hword] at hcovered
  have hopen := open_of_covered sound_assignedSecret (settles_assignedSecret hp hfirst) hcovered
  obtain ⟨start, out, kept, part, -, -, hredact⟩ := hopen.redact_eq
  refine ⟨out ++ kept ++ obscured (part ++ key.word) ++ key.assignment,
    fun {value rest} hvalue hrest => ?_⟩
  have hrun : valueRun (key.assigns value rest) = key.word := by
    refine valueRun_value (fun c hc => isValueChar_of_isWordChar (key.isWordChar_word c hc)) ?_
    obtain ⟨c, gap, hcons⟩ := List.exists_cons_of_ne_nil hgap
    rw [hcons]
    rintro d more ⟨⟩
    exact key.isValueChar_gap c (by rw [hcons]; exact List.mem_cons_self)
  have hassigns := SecretKey.assigns_cons hword value rest
  have hall := hredact (key.assignment ++ (value ++ rest))
    (tail ++ (key.gap ++ '=' :: (value ++ rest)))
  rw [← hassigns, hrun, redactFrom_gap atWords_assignedSecret key.isWordChar_assignment] at hall
  obtain ⟨back, hback, hshown⟩ := exists_back hvalue hrest (key.assignment.getLast?.or
    (key.word.getLast?.or (p.getLast?.or none)))
  refine ⟨back, hback, ?_⟩
  unfold redact
  rw [hall (key.assigns_eq value rest), hshown]
  simp only [List.append_assoc]

end CallTracing.Redaction
