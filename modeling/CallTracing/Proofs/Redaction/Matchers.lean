/-
  CallTracing/Proofs/Redaction/Matchers.lean
  ==========================================
  **Where the three kinds of secrets begin and end.**

  Secrets begin at the beginning of a word, and never with a character that no value has.  An access
  key id is part of one word.  A bearer token and an assigned secret have a name, then characters in
  between, and then a run of characters that is hidden; with one word behind the text that is looked
  at, the name and what is in between have come to an end, and only the run may go on into the word
  (`settles_of_parts`).
-/
import CallTracing.Proofs.Redaction.Scan
import CallTracing.Proofs.Redaction.Spelling

namespace CallTracing.Redaction

variable {before : Option Char} {front text : List Char} {next : Char}

/-! ### The parts of a secret -/

/-- A matcher that reads a name at the beginning of a word and then goes by what follows it. -/
structure Parts (matcher : Matcher) (name? : List Char → Option (List Char × List Char))
    (follow : List Char → List Char → Option Match) : Prop where
  eq : ∀ before text, matcher before text =
    if startsWord before then (name? text).bind fun read => follow read.1 read.2 else none
  reads : ∀ {text read rest}, name? text = some (read, rest) → text = read ++ rest
  stops : ∀ {stop}, isWordChar stop = false → ∀ front rest, name? (front ++ stop :: rest) =
    (name? front).map fun read => (read.1, read.2 ++ stop :: rest)

theorem atWords_of_parts {matcher : Matcher} {name? : List Char → Option (List Char × List Char)}
    {follow : List Char → List Char → Option Match} (hparts : Parts matcher name? follow)
    (hnil : name? [] = none) : matcher.AtWords where
  inside := by
    intro before text hbefore
    rw [hparts.eq, hbefore]
    rfl
  outside := by
    intro before c rest hc
    have hname := hparts.stops hc [] rest
    rw [hnil, List.nil_append] at hname
    rw [hparts.eq, hname]
    exact ite_self _

/-- Whether what follows a name ends in a text, or else goes on into a run behind it. -/
def FollowSettles (follow : List Char → List Char → Option Match) (run : List Char → List Char)
    (next : Char) : Prop :=
  ∀ name text, (∀ rest, follow name (text ++ next :: rest) = follow name text) ∨
    ∃ between part, text = between ++ part ∧ ∀ rest, follow name (text ++ next :: rest) =
      some ⟨name ++ between, part ++ run (next :: rest)⟩

theorem exists_last_of_suffix (hne : text ≠ []) (hsuffix : text <:+ front) :
    ∃ init last, text = init ++ [last] ∧ front.getLast? = some last := by
  refine ⟨text.dropLast, text.getLast hne, (List.dropLast_concat_getLast hne).symm, ?_⟩
  obtain ⟨first, rfl⟩ := hsuffix
  rw [List.getLast?_append, List.getLast?_eq_some_getLast hne, Option.some_or]

theorem isWordChar_of_startsWord {c : Char} (h : startsWord (some c) = true) :
    isWordChar c = false := by
  simpa [startsWord] using h

/-- Behind the end of a word, names have come to an end. -/
theorem settles_of_parts {matcher : Matcher} {name? : List Char → Option (List Char × List Char)}
    {follow : List Char → List Char → Option Match} {run : List Char → List Char}
    (hparts : Parts matcher name? follow) (hfollow : FollowSettles follow run next)
    (hfront : startsWord front.getLast? = true) : Settles matcher run next front := by
  intro before text hne hsuffix
  obtain ⟨init, last, rfl, hends⟩ := exists_last_of_suffix hne hsuffix
  have hlast := isWordChar_of_startsWord (hends ▸ hfront)
  have hname : ∀ rest, name? (init ++ [last] ++ rest) =
      (name? init).map fun read => (read.1, read.2 ++ [last] ++ rest) := by
    intro rest
    rw [List.append_assoc, List.singleton_append, hparts.stops hlast]
    simp only [List.append_assoc, List.singleton_append]
  have hwhole := hname []
  rw [List.append_nil] at hwhole
  by_cases hstart : startsWord before = true
  · cases hread : name? init with
    | none =>
      refine Or.inl fun rest => ?_
      rw [hparts.eq, hparts.eq, hname, hwhole, hread]
      rfl
    | some read =>
      obtain ⟨name, behind⟩ := read
      have hmatch : ∀ rest, matcher before (init ++ [last] ++ rest) =
          follow name (behind ++ [last] ++ rest) := by
        intro rest
        rw [hparts.eq, if_pos hstart, hname, hread]
        rfl
      rcases hfollow name (behind ++ [last]) with hends | ⟨between, part, hbehind, hruns⟩
      · refine Or.inl fun rest => ?_
        have hnothing := hmatch []
        rw [List.append_nil, List.append_nil] at hnothing
        rw [hmatch, hnothing]
        exact hends rest
      · have htext : init ++ [last] = name ++ between ++ part := by
          rw [hparts.reads hread, List.append_assoc, List.append_assoc, hbehind]
        refine Or.inr ⟨name ++ between, part, htext, fun rest => ?_⟩
        rw [← htext, hmatch]
        exact hruns rest
  · refine Or.inl fun rest => ?_
    rw [hparts.eq, hparts.eq, if_neg hstart, if_neg hstart]

/-! ### Access key ids -/

theorem isWordChar_of_isKeyIdChar {c : Char} (h : isKeyIdChar c = true) : isWordChar c = true := by
  refine isWordChar_of_isAlphanum ?_
  rw [isKeyIdChar, Bool.or_eq_true] at h
  rcases h with hupper | hdigit
  · exact isAlphanum_iff.mpr (Or.inl hupper)
  · exact isAlphanum_iff.mpr (Or.inr (Or.inr hdigit))

theorem isKeyIdChar_of_not_isWordChar {c : Char} (h : isWordChar c = false) :
    isKeyIdChar c = false := by
  cases hkey : isKeyIdChar c with
  | false => rfl
  | true =>
    rw [isWordChar_of_isKeyIdChar hkey] at h
    cases h

theorem accessKeyId_eq_none {c : Char} (hmem : c ∈ text.take keyIdLength)
    (hc : isKeyIdChar c = false) : accessKeyId before text = none := by
  cases hmatch : accessKeyId before text with
  | none => rfl
  | some found =>
    obtain ⟨key, after, rfl, -, hkey, -, -⟩ := of_accessKeyId hmatch
    rw [← hkey.length, List.take_left] at hmem
    exact absurd hmem (hkey.not_mem hc)

/-- An access key id begins with one of the stems. -/
theorem stem_of_accessKeyId {found : Match} (h : accessKeyId before text = some found) :
    text.take 4 ∈ keyIdStems := by
  obtain ⟨key, after, rfl, -, hkey, -, -⟩ := of_accessKeyId h
  rw [List.take_append_of_le_length (by rw [hkey.length]; decide)]
  exact hkey.stem

theorem atWords_accessKeyId : accessKeyId.AtWords where
  inside := by
    intro before text hbefore
    simp [accessKeyId, hbefore]
  outside := fun _ _ _ hc =>
    accessKeyId_eq_none List.mem_cons_self (isKeyIdChar_of_not_isWordChar hc)

/-- An access key id that begins in a text ends in it, if the text ends with a character of no key
id. -/
theorem ends_accessKeyId (hfront : ∀ c, front.getLast? = some c → isKeyIdChar c = false)
    (hne : text ≠ []) (hsuffix : text <:+ front) : Ends accessKeyId next before text := by
  obtain ⟨init, last, rfl, hends⟩ := exists_last_of_suffix hne hsuffix
  have hlast := hfront last hends
  intro rest
  by_cases hlength : keyIdLength ≤ init.length
  · have hkey : ∀ tail, (init ++ [last] ++ tail).take keyIdLength = init.take keyIdLength := by
      intro tail
      rw [List.append_assoc, List.take_append_of_le_length hlength]
    have hbehind : ∀ tail, (init ++ [last] ++ tail).drop keyIdLength =
        init.drop keyIdLength ++ last :: tail := by
      intro tail
      rw [List.append_assoc, List.drop_append_of_le_length hlength]
      rfl
    have hkey' := hkey []
    have hbehind' := hbehind []
    rw [List.append_nil] at hkey' hbehind'
    have hend : endsWord (init.drop keyIdLength ++ last :: next :: rest) =
        endsWord (init.drop keyIdLength ++ [last]) := by
      unfold endsWord
      cases init.drop keyIdLength <;> rfl
    unfold accessKeyId
    dsimp only
    rw [hkey, hkey', hbehind, hbehind', hend]
  · have hmem : ∀ tail, last ∈ (init ++ [last] ++ tail).take keyIdLength := by
      intro tail
      rw [List.append_assoc, List.take_append]
      obtain ⟨n, hn⟩ : ∃ n, keyIdLength - init.length = n + 1 :=
        ⟨keyIdLength - init.length - 1, by omega⟩
      rw [hn]
      exact List.mem_append_right _ List.mem_cons_self
    have hmem' := hmem []
    rw [List.append_nil] at hmem'
    rw [accessKeyId_eq_none (hmem _) hlast, accessKeyId_eq_none hmem' hlast]

/-- Behind a character of no key id, nothing changes what is hidden in front of it. -/
theorem closed_accessKeyId_of_last (hfront : ∀ c, front.getLast? = some c → isKeyIdChar c = false)
    (before : Option Char) : Closed accessKeyId next 0 before front :=
  closed_of_ends sound_accessKeyId before fun _ _ hne hsuffix =>
    ends_accessKeyId hfront hne hsuffix

/-- With a text that ends between words, nothing behind it changes what is hidden in it. -/
theorem closed_accessKeyId (hfront : startsWord front.getLast? = true) (before : Option Char) :
    Closed accessKeyId next 0 before front :=
  closed_accessKeyId_of_last
    (fun _ hc => isKeyIdChar_of_not_isWordChar (isWordChar_of_startsWord (hc ▸ hfront))) before

/-! ### Bearer tokens -/

/-- A token at the start of a text, with the padding at its end. -/
def tokenRun (text : List Char) : List Char :=
  (leading isTokenChar text).1 ++ (leading (· == '=') (leading isTokenChar text).2).1

/-- What follows the word `bearer`. -/
def followBearer (word text : List Char) : Option Match :=
  let blanks := leading Text.isBlank text
  let token := leading isTokenChar blanks.2
  let padding := leading (· == '=') token.2
  if blanks.1.isEmpty || token.1.isEmpty then none
  else some ⟨word ++ blanks.1, token.1 ++ padding.1⟩

theorem isNameLetter_bearer : ∀ c ∈ "bearer".toList, IsNameLetter c :=
  isNameLetter_of_all (by decide)

theorem parts_bearerToken : Parts bearerToken (name? "bearer".toList) followBearer where
  eq := by
    intro before text
    unfold bearerToken
    split
    · cases name? "bearer".toList text <;> rfl
    · rfl
  reads := name?_eq
  stops := by
    intro stop hstop front rest
    refine name?_stop ?_ front rest
    intro letter hletter
    cases hform : isForm letter stop with
    | false => rfl
    | true =>
      have hname := isNameLetter_bearer letter hletter
      rw [← (isForm_iff hname).mp hform] at hname
      rw [isWordChar_of_folded hname] at hstop
      cases hstop

theorem atWords_bearerToken : bearerToken.AtWords := atWords_of_parts parts_bearerToken rfl

theorem isValueChar_of_isTokenChar {c : Char} (h : isTokenChar c = true) :
    isValueChar c = true := by
  simp only [isTokenChar, Bool.or_eq_true, beq_iff_eq] at h
  rcases h with (((((((halpha | rfl) | rfl) | rfl) | rfl) | rfl) | rfl) | rfl) | rfl
  · exact isValueChar_of_isWordChar (isWordChar_of_isAlphanum halpha)
  all_goals decide

/-- What belongs to a value is no blank and no quote. -/
theorem of_isValueChar {c : Char} (h : isValueChar c = true) :
    Text.isBlank c = false ∧ isQuote c = false := by
  simp only [isValueChar, Bool.not_eq_true', Bool.or_eq_false_iff] at h
  exact ⟨h.1.1.1.1, h.1.1.1.2⟩

theorem isAssignment_of_isWordChar {c : Char} (h : isWordChar c = true) :
    isAssignment c = false := by
  cases hsign : isAssignment c with
  | false => rfl
  | true =>
    have hsigns : isWordChar ':' = false ∧ isWordChar '=' = false := by decide +kernel
    simp only [isAssignment, Bool.or_eq_true, beq_iff_eq] at hsign
    rcases hsign with rfl | rfl
    · rw [hsigns.1] at h
      cases h
    · rw [hsigns.2] at h
      cases h

theorem isAssignment_of_isTokenChar {c : Char} (h : isTokenChar c = true) :
    isAssignment c = false := by
  cases hsign : isAssignment c with
  | false => rfl
  | true =>
    simp only [isAssignment, Bool.or_eq_true, beq_iff_eq] at hsign
    rcases hsign with rfl | rfl
    · exact absurd h (by decide)
    · exact absurd h (by decide)

theorem followSettles_bearer (hnext : isTokenChar next = true) :
    FollowSettles followBearer tokenRun next := by
  intro word text
  have hblank := (of_isValueChar (isValueChar_of_isTokenChar hnext)).1
  have hpadding : ∀ front rest, leading (· == '=') (front ++ next :: rest) =
      ((leading (· == '=') front).1, (leading (· == '=') front).2 ++ next :: rest) := by
    have hpad : (next == '=') = false := by
      rw [beq_eq_false_iff_ne]
      rintro rfl
      exact absurd hnext (by decide)
    exact leading_stop hpad
  obtain ⟨blanks, hread⟩ : ∃ blanks, leading Text.isBlank text = blanks := ⟨_, rfl⟩
  have hblanks : ∀ rest, leading Text.isBlank (text ++ next :: rest) =
      (blanks.1, blanks.2 ++ next :: rest) := by
    intro rest
    rw [leading_stop hblank, hread]
  by_cases hall : ∀ c ∈ blanks.2, isTokenChar c = true
  · by_cases hempty : blanks.1 = []
    · refine Or.inl fun rest => ?_
      unfold followBearer
      dsimp only
      rw [hblanks, hread, hempty]
      rfl
    · have htext : text = blanks.1 ++ blanks.2 := by
        rw [← hread]
        exact leading_eq
      refine Or.inr ⟨blanks.1, blanks.2, htext, fun rest => ?_⟩
      have htoken : (leading isTokenChar (next :: rest)).1 ≠ [] := by
        simp [leading, hnext]
      unfold followBearer
      dsimp only
      rw [hblanks]
      dsimp only
      rw [leading_append hall, if_neg (by simp [hempty, htoken])]
      dsimp only
      rw [List.append_assoc]
      rfl
  · refine Or.inl fun rest => ?_
    unfold followBearer
    dsimp only
    rw [hblanks, hread]
    dsimp only
    rw [leading_inside hall]
    dsimp only
    rw [hpadding]

theorem settles_bearerToken (hfront : startsWord front.getLast? = true)
    (hnext : isTokenChar next = true) : Settles bearerToken tokenRun next front :=
  settles_of_parts parts_bearerToken (followSettles_bearer hnext) hfront

/-! ### Assigned secrets -/

/-- A value at the start of a text. -/
def valueRun (text : List Char) : List Char := (leading isValueChar text).1

/-- The name of a secret at the start of a text, and what follows it. -/
def secretName? (text : List Char) : Option (List Char × List Char) :=
  let stem := (name? secretStem text).getD ([], text)
  (secretNames.findSome? (name? · stem.2)).map fun read => (stem.1 ++ read.1, read.2)

/-- What follows the name of a secret. -/
def followName (name text : List Char) : Option Match :=
  let closing := atMostOne isQuote text
  let front := leading Text.isBlank closing.2
  let sign := atMostOne isAssignment front.2
  let back := leading Text.isBlank sign.2
  let opening := atMostOne isQuote back.2
  let value := leading isValueChar opening.2
  if sign.1.isEmpty || value.1.isEmpty then none
  else some ⟨name ++ closing.1 ++ front.1 ++ sign.1 ++ back.1 ++ opening.1, value.1⟩

theorem isNameLetter_secrets :
    ∀ name ∈ secretStem :: secretNames, ∀ c ∈ name, IsNameLetter c := by
  have hall : ∀ name ∈ secretStem :: secretNames,
      name.all (fun c => c.isLower || c == '_') = true := by decide
  exact fun name hname => isNameLetter_of_all (hall name hname)

/-- Names of secrets end where a word does. -/
theorem name?_secret_stop {name : List Char} (hname : name ∈ secretStem :: secretNames)
    {stop : Char} (hstop : isWordChar stop = false) (front rest : List Char) :
    name? name (front ++ stop :: rest) =
      (name? name front).map fun read => (read.1, read.2 ++ stop :: rest) := by
  refine name?_stop ?_ front rest
  intro letter hletter
  cases hform : isForm letter stop with
  | false => rfl
  | true =>
    have hfolded := isNameLetter_secrets name hname letter hletter
    rw [← (isForm_iff hfolded).mp hform] at hfolded
    rw [isWordChar_of_folded hfolded] at hstop
    cases hstop

theorem findSome?_secret_stop {names : List (List Char)} (hnames : names ⊆ secretNames)
    {stop : Char} (hstop : isWordChar stop = false) (front rest : List Char) :
    names.findSome? (name? · (front ++ stop :: rest)) =
      (names.findSome? (name? · front)).map fun read => (read.1, read.2 ++ stop :: rest) := by
  induction names with
  | nil => rfl
  | cons name names ih =>
    obtain ⟨hname, hrest⟩ := List.cons_subset.mp hnames
    rw [List.findSome?_cons, List.findSome?_cons,
      name?_secret_stop (List.mem_cons_of_mem _ hname) hstop]
    cases name? name front with
    | none => exact ih hrest
    | some read => rfl

theorem parts_assignedSecret : Parts assignedSecret secretName? followName where
  eq := by
    intro before text
    unfold assignedSecret secretName?
    split
    · dsimp only
      cases secretNames.findSome? (name? · ((name? secretStem text).getD ([], text)).2) <;> rfl
    · rfl
  reads := by
    intro text read rest h
    obtain ⟨⟨name, behind⟩, hname, heq⟩ := Option.map_eq_some_iff.mp h
    obtain ⟨rfl, rfl⟩ := Prod.mk.inj heq
    obtain ⟨secret, -, hsecret⟩ := List.exists_of_findSome?_eq_some hname
    have hstem : text = ((name? secretStem text).getD ([], text)).1 ++
        ((name? secretStem text).getD ([], text)).2 := by
      cases hread : name? secretStem text with
      | none => rfl
      | some parts => exact name?_eq hread
    rw [List.append_assoc, ← name?_eq hsecret]
    exact hstem
  stops := by
    intro stop hstop front rest
    have hstem : (name? secretStem (front ++ stop :: rest)).getD ([], front ++ stop :: rest) =
        (((name? secretStem front).getD ([], front)).1,
          ((name? secretStem front).getD ([], front)).2 ++ stop :: rest) := by
      rw [name?_secret_stop List.mem_cons_self hstop]
      cases name? secretStem front <;> rfl
    have hnames := fun behind => findSome?_secret_stop (fun name hname => hname) hstop behind rest
    unfold secretName?
    dsimp only
    rw [hstem, hnames]
    cases secretNames.findSome? (name? · ((name? secretStem front).getD ([], front)).2) <;> rfl

theorem atWords_assignedSecret : assignedSecret.AtWords :=
  atWords_of_parts parts_assignedSecret rfl

theorem followSettles_name (hnext : isWordChar next = true) :
    FollowSettles followName valueRun next := by
  intro name text
  have hvalue := isValueChar_of_isWordChar hnext
  obtain ⟨hblank, hquote⟩ := of_isValueChar hvalue
  have hsign := isAssignment_of_isWordChar hnext
  -- all that may stand between the name and the value ends at the word at the latest
  obtain ⟨closing, hclosing⟩ : ∃ closing, atMostOne isQuote text = closing := ⟨_, rfl⟩
  obtain ⟨front, hfront⟩ : ∃ front, leading Text.isBlank closing.2 = front := ⟨_, rfl⟩
  obtain ⟨sign, hsigns⟩ : ∃ sign, atMostOne isAssignment front.2 = sign := ⟨_, rfl⟩
  obtain ⟨back, hback⟩ : ∃ back, leading Text.isBlank sign.2 = back := ⟨_, rfl⟩
  obtain ⟨opening, hopening⟩ : ∃ opening, atMostOne isQuote back.2 = opening := ⟨_, rfl⟩
  have hleft : followName name text =
      if sign.1.isEmpty || (leading isValueChar opening.2).1.isEmpty then none
      else some ⟨name ++ closing.1 ++ front.1 ++ sign.1 ++ back.1 ++ opening.1,
        (leading isValueChar opening.2).1⟩ := by
    unfold followName
    dsimp only
    rw [hclosing, hfront, hsigns, hback, hopening]
  have hright : ∀ rest, followName name (text ++ next :: rest) =
      if sign.1.isEmpty || (leading isValueChar (opening.2 ++ next :: rest)).1.isEmpty then none
      else some ⟨name ++ closing.1 ++ front.1 ++ sign.1 ++ back.1 ++ opening.1,
        (leading isValueChar (opening.2 ++ next :: rest)).1⟩ := by
    intro rest
    unfold followName
    dsimp only
    rw [atMostOne_stop hquote, hclosing, leading_stop hblank, hfront, atMostOne_stop hsign, hsigns,
      leading_stop hblank, hback, atMostOne_stop hquote, hopening]
  by_cases hall : ∀ c ∈ opening.2, isValueChar c = true
  · by_cases hempty : sign.1 = []
    · refine Or.inl fun rest => ?_
      rw [hleft, hright, hempty]
      rfl
    · have htext : text = closing.1 ++ front.1 ++ sign.1 ++ back.1 ++ opening.1 ++ opening.2 := by
        simp only [List.append_assoc]
        rw [← hopening, ← atMostOne_eq, ← hback, ← leading_eq, ← hsigns, ← atMostOne_eq, ← hfront,
          ← leading_eq, ← hclosing, ← atMostOne_eq]
      refine Or.inr ⟨_, opening.2, htext, fun rest => ?_⟩
      have hrun : (leading isValueChar (next :: rest)).1 ≠ [] := by
        simp [leading, hvalue]
      rw [hright, leading_append hall, if_neg (by simp [hempty, hrun])]
      simp only [List.append_assoc, valueRun]
  · refine Or.inl fun rest => ?_
    rw [hleft, hright, leading_inside hall]

theorem settles_assignedSecret (hfront : startsWord front.getLast? = true)
    (hnext : isWordChar next = true) : Settles assignedSecret valueRun next front :=
  settles_of_parts parts_assignedSecret (followSettles_name hnext) hfront

/-! ### What a match is made of -/

theorem of_mem_leading {property : Char → Bool} {c : Char} (h : c ∈ (leading property text).1) :
    property c = true := by
  have hall : (text.takeWhile property).all property = true := List.all_takeWhile
  exact List.all_eq_true.mp hall c h

theorem atMostOne_cases (property : Char → Bool) (text : List Char) :
    (atMostOne property text).1 = [] ∨
      ∃ c, property c = true ∧ (atMostOne property text).1 = [c] := by
  cases text with
  | nil => exact Or.inl rfl
  | cons d rest =>
    unfold atMostOne
    cases hd : property d with
    | true => exact Or.inr ⟨d, hd, by simp [hd]⟩
    | false => exact Or.inl (by simp [hd])

theorem of_mem_atMostOne {property : Char → Bool} {c : Char}
    (h : c ∈ (atMostOne property text).1) : property c = true := by
  rcases atMostOne_cases property text with hnil | ⟨d, hd, hone⟩
  · rw [hnil] at h
    cases h
  · rw [hone, List.mem_singleton] at h
    rwa [h]

theorem not_isValueChar_of_isBlank {c : Char} (h : Text.isBlank c = true) :
    isValueChar c = false := by
  simp [isValueChar, h]

theorem not_isValueChar_of_isQuote {c : Char} (h : isQuote c = true) : isValueChar c = false := by
  simp [isValueChar, h]

/-- What stands between a name and its value: a sign, and around it what belongs to no value. -/
structure Separates (between : List Char) (left : List Char) (sign : Char) (right : List Char) :
    Prop where
  eq : between = left ++ sign :: right
  left : ∀ c ∈ left, isValueChar c = false
  sign : isAssignment sign = true
  right : ∀ c ∈ right, isValueChar c = false

theorem of_followName {name : List Char} {found : Match} (h : followName name text = some found) :
    ∃ between left sign right rest, Separates between left sign right ∧
      found.kept = name ++ between ∧ text = between ++ found.secret ++ rest ∧
        ∀ c ∈ found.secret, isValueChar c = true := by
  obtain ⟨closing, hclosing⟩ : ∃ closing, atMostOne isQuote text = closing := ⟨_, rfl⟩
  obtain ⟨front, hfront⟩ : ∃ front, leading Text.isBlank closing.2 = front := ⟨_, rfl⟩
  obtain ⟨sign, hsign⟩ : ∃ sign, atMostOne isAssignment front.2 = sign := ⟨_, rfl⟩
  obtain ⟨back, hback⟩ : ∃ back, leading Text.isBlank sign.2 = back := ⟨_, rfl⟩
  obtain ⟨opening, hopening⟩ : ∃ opening, atMostOne isQuote back.2 = opening := ⟨_, rfl⟩
  obtain ⟨value, hvalue⟩ : ∃ value, leading isValueChar opening.2 = value := ⟨_, rfl⟩
  unfold followName at h
  dsimp only at h
  rw [hclosing, hfront, hsign, hback, hopening, hvalue] at h
  split at h
  · cases h
  · next hparts =>
    obtain rfl := Option.some.inj h
    rw [Bool.or_eq_true, not_or] at hparts
    have htext : text = closing.1 ++ front.1 ++ sign.1 ++ back.1 ++ opening.1 ++ value.1 ++
        value.2 := by
      simp only [List.append_assoc]
      rw [← hvalue, ← leading_eq, ← hopening, ← atMostOne_eq, ← hback, ← leading_eq, ← hsign,
        ← atMostOne_eq, ← hfront, ← leading_eq, ← hclosing, ← atMostOne_eq]
    obtain ⟨char, hchar, hone⟩ : ∃ c, isAssignment c = true ∧ sign.1 = [c] := by
      rw [← hsign]
      refine (atMostOne_cases isAssignment front.2).resolve_left fun hnil => ?_
      rw [hsign] at hnil
      exact hparts.1 (by rw [hnil]; rfl)
    rw [hone] at htext
    refine ⟨_, closing.1 ++ front.1, char, back.1 ++ opening.1, value.2, ⟨rfl, ?_, hchar, ?_⟩,
      ?_, ?_, ?_⟩
    · intro c hc
      rcases List.mem_append.mp hc with hmem | hmem
      · rw [← hclosing] at hmem
        exact not_isValueChar_of_isQuote (of_mem_atMostOne hmem)
      · rw [← hfront] at hmem
        exact not_isValueChar_of_isBlank (of_mem_leading hmem)
    · intro c hc
      rcases List.mem_append.mp hc with hmem | hmem
      · rw [← hback] at hmem
        exact not_isValueChar_of_isBlank (of_mem_leading hmem)
      · rw [← hopening] at hmem
        exact not_isValueChar_of_isQuote (of_mem_atMostOne hmem)
    · rw [hone]
      simp only [List.append_assoc, List.cons_append, List.nil_append]
    · rw [htext]
      simp only [List.append_assoc, List.cons_append, List.nil_append]
    · intro c hc
      rw [← hvalue] at hc
      exact of_mem_leading hc

/-- The name of a secret is a word, or the end of one. -/
theorem isWordChar_of_secretName? {name rest : List Char}
    (h : secretName? text = some (name, rest)) : ∀ c ∈ name, isWordChar c = true := by
  have hword : ∀ secret ∈ secretStem :: secretNames, ∀ {text read rest},
      name? secret text = some (read, rest) → ∀ c ∈ read, isWordChar c = true := by
    intro secret hsecret text read rest hread c hc
    obtain ⟨-, hfolded⟩ := (name?_eq_some_iff (isNameLetter_secrets secret hsecret)).mp hread
    have hmem := List.mem_map_of_mem (f := folded) hc
    rw [hfolded] at hmem
    exact isWordChar_of_folded (isNameLetter_secrets secret hsecret _ hmem)
  obtain ⟨⟨read, behind⟩, hfound, heq⟩ := Option.map_eq_some_iff.mp h
  obtain ⟨rfl, rfl⟩ := Prod.mk.inj heq
  obtain ⟨secret, hsecret, hread⟩ := List.exists_of_findSome?_eq_some hfound
  intro c hc
  rcases List.mem_append.mp hc with hstem | hname
  · cases hstems : name? secretStem text with
    | none =>
      rw [hstems] at hstem
      cases hstem
    | some parts =>
      rw [hstems] at hstem
      exact hword secretStem List.mem_cons_self hstems c hstem
  · exact hword secret (List.mem_cons_of_mem _ hsecret) hread c hname

theorem secretName?_ne_nil {name rest : List Char} (h : secretName? text = some (name, rest)) :
    name ≠ [] := by
  obtain ⟨⟨read, behind⟩, hfound, heq⟩ := Option.map_eq_some_iff.mp h
  obtain ⟨rfl, rfl⟩ := Prod.mk.inj heq
  obtain ⟨secret, hsecret, hread⟩ := List.exists_of_findSome?_eq_some hfound
  have hmem := List.mem_cons_of_mem secretStem hsecret
  obtain ⟨-, hfolded⟩ := (name?_eq_some_iff (isNameLetter_secrets secret hmem)).mp hread
  have hnames : [] ∉ secretNames := by decide
  intro hnil
  have hread : read = [] := (List.append_eq_nil_iff.mp hnil).2
  rw [hread, List.map_nil] at hfolded
  exact hnames (hfolded ▸ hsecret)

theorem of_assignedSecret {found : Match} (h : assignedSecret before text = some found) :
    ∃ name between left sign right rest,
      secretName? text = some (name, between ++ found.secret ++ rest) ∧
        found.kept = name ++ between ∧ Separates between left sign right ∧
          ∀ c ∈ found.secret, isValueChar c = true := by
  rw [parts_assignedSecret.eq] at h
  split at h
  · obtain ⟨⟨name, behind⟩, hname, hfollow⟩ := Option.bind_eq_some_iff.mp h
    obtain ⟨between, left, sign, right, rest, hseparates, hkept, htext, hsecret⟩ :=
      of_followName hfollow
    dsimp only at htext
    exact ⟨name, between, left, sign, right, rest, htext ▸ hname, hkept, hseparates, hsecret⟩
  · cases h

theorem of_bearerToken {found : Match} (h : bearerToken before text = some found) :
    ∃ word blanks token padding, found.kept = word ++ blanks ∧ word.map folded = "bearer".toList ∧
      blanks ≠ [] ∧ (∀ c ∈ blanks, Text.isBlank c = true) ∧ found.secret = token ++ padding ∧
        (∀ c ∈ token, isTokenChar c = true) ∧ ∀ c ∈ padding, c = '=' := by
  rw [parts_bearerToken.eq] at h
  split at h
  · obtain ⟨⟨word, behind⟩, hname, hfollow⟩ := Option.bind_eq_some_iff.mp h
    obtain ⟨-, hfolded⟩ := (name?_eq_some_iff isNameLetter_bearer).mp hname
    unfold followBearer at hfollow
    dsimp only at hfollow
    split at hfollow
    · cases hfollow
    · next hparts =>
      obtain rfl := Option.some.inj hfollow
      rw [Bool.or_eq_true, not_or] at hparts
      refine ⟨word, _, _, _, rfl, hfolded, ?_, fun c hc => of_mem_leading hc, rfl,
        fun c hc => of_mem_leading hc, ?_⟩
      · intro hnil
        exact hparts.1 (by rw [hnil]; rfl)
      · intro c hc
        have hsign := of_mem_leading hc
        exact beq_iff_eq.mp hsign
  · cases h

/-- Blanks stand in front of every token. -/
theorem marked_bearerToken : bearerToken.Marked Text.isBlank := by
  intro before text found h
  obtain ⟨word, blanks, token, padding, hkept, -, hne, hblanks, -⟩ := of_bearerToken h
  obtain ⟨blank, hblank⟩ := List.exists_mem_of_ne_nil blanks hne
  exact ⟨blank, by rw [hkept]; exact List.mem_append_right word hblank, hblanks blank hblank⟩

/-- A sign stands in front of every assigned value. -/
theorem marked_assignedSecret : assignedSecret.Marked isAssignment := by
  intro before text found h
  obtain ⟨name, between, left, sign, right, rest, -, hkept, hseparates, -⟩ := of_assignedSecret h
  refine ⟨sign, ?_, hseparates.sign⟩
  rw [hkept, hseparates.eq]
  simp

end CallTracing.Redaction
