/-
  CallTracing/Proofs/Json/RoundTrip.lean
  ======================================
  **JSON values read back from their text.**

  Escapes read back as the characters they were written for, so a string ends at its own closing
  quote (`readString_escaped`).  Numbers end at the character that stands behind them.  With that the
  reader follows the writer through items and members, and two units of fuel for every character are
  enough (`readValue_text`).  What it reads is the value, up to what becomes of its numbers.
-/
import CallTracing.Json.Writer
import CallTracing.Proofs.Json.Reread

namespace CallTracing.Json

/-! ### Strings -/

/-- The characters of a string literal between its quotes. -/
def escaped (chars : List Char) : List Char := chars.flatMap fun c => (escapedChar c).toList

theorem toList_stringText (s : String) :
    (stringText s).toList = '"' :: (escaped s.toList ++ ['"']) := by
  have hquote : ("\"" : String).toList = ['"'] := rfl
  unfold stringText escaped
  rw [String.toList_append, String.toList_append, String.toList_join, List.flatMap_map, hquote]
  rfl

/-- The escapes of controls that have no letter. -/
theorem hexPadded_control : ∀ code < 32,
    (Text.hexPadded 4 code).toList =
        ['0', '0', Nat.digitChar (code / 16), Nat.digitChar (code % 16)] ∧
      Text.hexNumber? ['0', '0', Nat.digitChar (code / 16), Nat.digitChar (code % 16)] =
        some code := by
  decide

theorem readString_plain {c : Char} (hquote : c ≠ '"') (hslash : c ≠ '\\')
    (hcontrol : ¬c.toNat < 32) (more : List Char) :
    readString (c :: more) = (readString more).map fun (chars, left) => (c :: chars, left) := by
  rw [readString.eq_def]
  split
  · cases ‹c :: more = []›
  · next heq => exact absurd (List.cons.inj heq).1 hquote
  · next heq => exact absurd (List.cons.inj heq).1 hslash
  · next heq => exact absurd (List.cons.inj heq).1 hslash
  · next heq =>
    cases heq
    exact if_neg hcontrol

theorem readString_control {code : Nat} (h : code < 32) (more : List Char) :
    readString ('\\' :: 'u' :: ((Text.hexPadded 4 code).toList ++ more)) =
      (readString more).map fun (chars, left) => (Char.ofNat code :: chars, left) := by
  obtain ⟨hdigits, hvalue⟩ := hexPadded_control code h
  rw [hdigits]
  simp only [List.cons_append, List.nil_append]
  rw [readString, hvalue]
  dsimp only
  rw [if_neg (by omega), if_neg (by omega)]

/-- An escape is read as the character that it was written for. -/
theorem readString_escapedChar (c : Char) (more : List Char) :
    readString ((escapedChar c).toList ++ more) =
      (readString more).map fun (chars, left) => (c :: chars, left) := by
  unfold escapedChar
  split
  · next h => subst h; rfl
  split
  · next h => subst h; rfl
  split
  · next h => subst h; rfl
  split
  · next h => subst h; rfl
  split
  · next h => subst h; rfl
  split
  · next h => rw [← Char.ofNat_toNat c, h]; rfl
  split
  · next h => rw [← Char.ofNat_toNat c, h]; rfl
  split
  · next h =>
    have hread := readString_control h more
    rw [Char.ofNat_toNat] at hread
    rw [String.toList_append, ← hread]
    rfl
  · next hquote hslash _ _ _ _ _ hcontrol =>
    rw [Char.toString_eq_singleton, String.toList_singleton]
    exact readString_plain hquote hslash hcontrol more

theorem readString_escaped (chars rest : List Char) :
    readString (escaped chars ++ '"' :: rest) = some (chars, rest) := by
  induction chars with
  | nil => rw [escaped, List.flatMap_nil, List.nil_append, readString]
  | cons c more ih =>
    have hcons : escaped (c :: more) = (escapedChar c).toList ++ escaped more := List.flatMap_cons
    rw [hcons, List.append_assoc, readString_escapedChar, ih]
    rfl

/-! ### Steps of the reader -/

theorem skipSpace_cons {c : Char} (h : isSpace c = false) (rest : List Char) :
    skipSpace (c :: rest) = c :: rest :=
  List.dropWhile_cons_of_neg (by simp [h])

theorem isSpace_of_startsNumeral {c : Char} (h : startsNumeral c = true) : isSpace c = false := by
  cases hspace : isSpace c with
  | false => rfl
  | true =>
    rw [startsNumeral_of_inNumeral (of_isSpace hspace).2] at h
    cases h

section

variable {fuel : Nat} {text rest left more name : List Char}

theorem readValue_string (fuel : Nat) (chars rest : List Char) :
    readValue (fuel + 1) ('"' :: (escaped chars ++ '"' :: rest)) =
      some (.string (String.ofList chars), rest) := by
  show (readString (escaped chars ++ '"' :: rest)).map _ = _
  rw [readString_escaped]
  rfl

/-- Only numbers begin as numbers do. -/
theorem readValue_number {n : JsonNumber} (h : readNumber text = some (n, rest)) :
    readValue (fuel + 1) text = some (.number n, rest) := by
  obtain ⟨literal, rfl, hrun, -⟩ := readNumber_eq_some h
  obtain ⟨c, more, rfl, hc⟩ := hrun.starts
  rw [List.cons_append] at h ⊢
  unfold readValue
  rw [skipSpace_cons (isSpace_of_startsNumeral hc)]
  split
  case h_7 => rw [h]; rfl
  all_goals
    next heq =>
    rw [(List.cons.inj heq).1] at hc
    cases hc

theorem readValue_items {c : Char} (hspace : isSpace c = false) (hclose : c ≠ ']')
    (rest : List Char) :
    readValue (fuel + 1) ('[' :: c :: rest) =
      (readItems fuel (c :: rest)).map fun (items, left) => (.array items, left) := by
  have hopen : isSpace '[' = false := rfl
  simp only [readValue, skipSpace_cons hopen, skipSpace_cons hspace]
  split
  · next heq => exact absurd (List.cons.inj heq).1 hclose
  · rfl

theorem readValue_members (rest : List Char) :
    readValue (fuel + 1) ('{' :: '"' :: rest) =
      (readMembers fuel ('"' :: rest)).map fun (members, left) => (.object members, left) := rfl

theorem readItems_last {item : Json} (h : readValue fuel text = some (item, ']' :: left)) :
    readItems (fuel + 1) text = some ([item], left) := by
  simp only [readItems, h]
  rfl

theorem readItems_more {item : Json} (h : readValue fuel text = some (item, ',' :: more)) :
    readItems (fuel + 1) text =
      (readItems fuel more).map fun (items, left) => (item :: items, left) := by
  simp only [readItems, h]
  rfl

/-- The name of a member, its colon, and what stands behind them. -/
theorem readMembers_last {value : Json} (h : readValue fuel text = some (value, '}' :: left)) :
    readMembers (fuel + 1) ('"' :: (escaped name ++ '"' :: ':' :: text)) =
      some ([(String.ofList name, value)], left) := by
  have hspace := skipSpace_cons (c := '"') rfl (escaped name ++ '"' :: ':' :: text)
  have hcolon := skipSpace_cons (c := ':') rfl text
  simp only [readMembers, hspace, readString_escaped, hcolon, h]
  rfl

theorem readMembers_more {value : Json} (h : readValue fuel text = some (value, ',' :: more)) :
    readMembers (fuel + 1) ('"' :: (escaped name ++ '"' :: ':' :: text)) =
      (readMembers fuel more).map fun (members, left) =>
        ((String.ofList name, value) :: members, left) := by
  have hspace := skipSpace_cons (c := '"') rfl (escaped name ++ '"' :: ':' :: text)
  have hcolon := skipSpace_cons (c := ':') rfl text
  simp only [readMembers, hspace, readString_escaped, hcolon, h]
  rfl

end

/-! ### Texts of values -/

/-- The items of an array between its brackets. -/
def itemsText (items : List Json) : List Char :=
  [','].intercalate (items.map fun item => (text item).toList)

/-- A member of an object. -/
def memberText (member : String × Json) : List Char :=
  '"' :: (escaped member.1.toList ++ '"' :: ':' :: (text member.2).toList)

/-- The members of an object between its braces. -/
def membersText (members : List (String × Json)) : List Char :=
  [','].intercalate (members.map memberText)

theorem toList_text_string (s : String) :
    (text (.string s)).toList = '"' :: (escaped s.toList ++ ['"']) := by
  rw [text, toList_stringText]

theorem toList_text_array (items : List Json) :
    (text (.array items)).toList = '[' :: (itemsText items ++ [']']) := by
  have hcomma : ",".toList = [','] := rfl
  rw [text, itemTexts_eq_map, String.toList_append, String.toList_append,
    String.toList_intercalate, List.map_map, hcomma]
  rfl

theorem toList_text_object (members : List (String × Json)) :
    (text (.object members)).toList = '{' :: (membersText members ++ ['}']) := by
  have hcomma : ",".toList = [','] := rfl
  have hcolon : ":".toList = [':'] := rfl
  have hmember : members.map (String.toList ∘ fun m => stringText m.1 ++ ":" ++ text m.2) =
      members.map memberText := by
    refine List.map_congr_left fun member _ => ?_
    show (stringText member.1 ++ ":" ++ text member.2).toList = _
    rw [String.toList_append, String.toList_append, toList_stringText, hcolon]
    simp only [memberText, List.cons_append, List.append_assoc, List.nil_append]
  rw [text, memberTexts_eq_map, String.toList_append, String.toList_append,
    String.toList_intercalate, List.map_map, hcomma, hmember]
  rfl

/-- The text of a number is a run of characters of numerals. -/
theorem isRun_text {n : JsonNumber} (hkept : n.IsKept) (hfinite : n.isFinite = true) :
    IsRun n.text.toList := by
  obtain ⟨literal, hliteral, hrun, -⟩ :=
    readNumber_eq_some (readNumber_text hkept hfinite stops_nil)
  rw [List.append_nil, List.append_nil] at hliteral
  rw [hliteral]
  exact hrun

/-- A text of a value does not begin as if there was none. -/
theorem head_text (v : Json) (h : ∀ n ∈ numbers v, n.IsKept ∧ n.isFinite = true) :
    ∃ c more, (text v).toList = c :: more ∧ isSpace c = false ∧ c ≠ ']' := by
  cases v with
  | null => exact ⟨'n', _, rfl, rfl, by decide⟩
  | bool b =>
    cases b with
    | false => exact ⟨'f', _, rfl, rfl, by decide⟩
    | true => exact ⟨'t', _, rfl, rfl, by decide⟩
  | string s => exact ⟨'"', _, toList_text_string s, rfl, by decide⟩
  | array items => exact ⟨'[', _, toList_text_array items, rfl, by decide⟩
  | object members => exact ⟨'{', _, toList_text_object members, rfl, by decide⟩
  | number n =>
    obtain ⟨hkept, hfinite⟩ := h n List.mem_cons_self
    obtain ⟨c, more, hrun, hc⟩ := (isRun_text hkept hfinite).starts
    refine ⟨c, more, hrun, isSpace_of_startsNumeral hc, ?_⟩
    rintro rfl
    cases hc

/-! ### The round trip -/

theorem itemsText_cons (item : Json) {items : List Json} (h : items ≠ []) :
    itemsText (item :: items) = (text item).toList ++ ',' :: itemsText items := by
  obtain ⟨next, more, rfl⟩ := List.exists_cons_of_ne_nil h
  unfold itemsText
  rw [List.map_cons, List.map_cons, List.intercalate_cons_cons, List.append_assoc]
  rfl

theorem membersText_cons (member : String × Json) {members : List (String × Json)}
    (h : members ≠ []) :
    membersText (member :: members) = memberText member ++ ',' :: membersText members := by
  obtain ⟨next, more, rfl⟩ := List.exists_cons_of_ne_nil h
  unfold membersText
  rw [List.map_cons, List.map_cons, List.intercalate_cons_cons, List.append_assoc]
  rfl

theorem itemsText_singleton (item : Json) : itemsText [item] = (text item).toList :=
  List.intercalate_singleton

theorem membersText_singleton (member : String × Json) : membersText [member] = memberText member :=
  List.intercalate_singleton

theorem head_itemsText {items : List Json} (hne : items ≠ [])
    (h : ∀ n ∈ numbersItems items, n.IsKept ∧ n.isFinite = true) :
    ∃ c more, itemsText items = c :: more ∧ isSpace c = false ∧ c ≠ ']' := by
  cases items with
  | nil => exact absurd rfl hne
  | cons item items =>
    obtain ⟨c, more, hhead, hc⟩ := head_text item (List.forall_mem_append.mp h).1
    by_cases hlast : items = []
    · exact ⟨c, more, by rw [hlast, itemsText_singleton, hhead], hc⟩
    · exact ⟨c, _, by rw [itemsText_cons item hlast, hhead, List.cons_append], hc⟩

theorem head_membersText {members : List (String × Json)} (hne : members ≠ []) :
    ∃ more, membersText members = '"' :: more := by
  cases members with
  | nil => exact absurd rfl hne
  | cons member members =>
    by_cases hlast : members = []
    · exact ⟨_, by rw [hlast, membersText_singleton, memberText]⟩
    · exact ⟨_, by rw [membersText_cons member hlast, memberText, List.cons_append]⟩

mutual

/-- A value is read from its text, with its numbers as they are read. -/
theorem readValue_text (v : Json) (h : ∀ n ∈ numbers v, n.IsKept ∧ n.isFinite = true)
    {fuel : Nat} (hfuel : 2 * (text v).toList.length ≤ fuel) {rest : List Char}
    (hrest : Stops rest) :
    readValue fuel ((text v).toList ++ rest) = some (v.reread, rest) := by
  obtain ⟨c, body, hhead, -, -⟩ := head_text v h
  obtain ⟨fuel, rfl⟩ : ∃ less, fuel = less + 1 :=
    Nat.exists_eq_add_one_of_ne_zero (by rw [hhead, List.length_cons] at hfuel; omega)
  cases v with
  | null => rfl
  | bool b => cases b <;> rfl
  | number n =>
    obtain ⟨hkept, hfinite⟩ := h n List.mem_cons_self
    exact readValue_number (readNumber_text hkept hfinite hrest)
  | string s =>
    rw [toList_text_string, List.cons_append, List.append_assoc]
    refine (readValue_string fuel s.toList rest).trans ?_
    rw [String.ofList_toList]
    rfl
  | array items =>
    rw [toList_text_array, List.length_cons, List.length_append, List.length_singleton] at hfuel
    rw [toList_text_array, List.cons_append, List.append_assoc]
    by_cases hnone : items = []
    · subst hnone
      rfl
    · have hitems := readItems_text items hnone h (show 2 * _ + 1 ≤ fuel by omega) rest
      obtain ⟨c, more, hbody, hspace, hclose⟩ := head_itemsText hnone h
      rw [hbody, List.cons_append] at hitems ⊢
      rw [readValue_items hspace hclose]
      exact congrArg (Option.map _) hitems
  | object members =>
    rw [toList_text_object, List.length_cons, List.length_append, List.length_singleton] at hfuel
    rw [toList_text_object, List.cons_append, List.append_assoc]
    by_cases hnone : members = []
    · subst hnone
      rfl
    · have hmembers := readMembers_text members hnone h (show 2 * _ + 1 ≤ fuel by omega) rest
      obtain ⟨more, hbody⟩ := head_membersText hnone
      rw [hbody, List.cons_append] at hmembers ⊢
      rw [readValue_members]
      exact congrArg (Option.map _) hmembers

theorem readItems_text (items : List Json) (hne : items ≠ [])
    (h : ∀ n ∈ numbersItems items, n.IsKept ∧ n.isFinite = true)
    {fuel : Nat} (hfuel : 2 * (itemsText items).length + 1 ≤ fuel) (rest : List Char) :
    readItems fuel (itemsText items ++ ']' :: rest) = some (rereadItems items, rest) := by
  obtain ⟨fuel, rfl⟩ : ∃ less, fuel = less + 1 := Nat.exists_eq_add_one_of_ne_zero (by omega)
  cases items with
  | nil => exact absurd rfl hne
  | cons item items =>
    obtain ⟨hitem, hitems⟩ := List.forall_mem_append.mp h
    by_cases hlast : items = []
    · subst hlast
      rw [itemsText_singleton] at hfuel ⊢
      exact readItems_last (readValue_text item hitem (by omega) (stops_cons rfl rest))
    · rw [itemsText_cons item hlast, List.length_append, List.length_cons] at hfuel
      rw [itemsText_cons item hlast, List.append_assoc]
      have hread : readValue fuel ((text item).toList ++ ',' :: (itemsText items ++ ']' :: rest)) =
          some (item.reread, ',' :: (itemsText items ++ ']' :: rest)) :=
        readValue_text item hitem (by omega) (stops_cons rfl _)
      rw [List.cons_append, readItems_more hread, readItems_text items hlast hitems (by omega) rest]
      rfl

theorem readMembers_text (members : List (String × Json)) (hne : members ≠ [])
    (h : ∀ n ∈ numbersMembers members, n.IsKept ∧ n.isFinite = true)
    {fuel : Nat} (hfuel : 2 * (membersText members).length + 1 ≤ fuel) (rest : List Char) :
    readMembers fuel (membersText members ++ '}' :: rest) =
      some (rereadMembers members, rest) := by
  obtain ⟨fuel, rfl⟩ : ∃ less, fuel = less + 1 := Nat.exists_eq_add_one_of_ne_zero (by omega)
  cases members with
  | nil => exact absurd rfl hne
  | cons member members =>
    obtain ⟨name, value⟩ := member
    obtain ⟨hvalue, hmembers⟩ := List.forall_mem_append.mp h
    have hlength : (text value).toList.length < (memberText (name, value)).length := by
      simp only [memberText, List.length_cons, List.length_append]
      omega
    by_cases hlast : members = []
    · subst hlast
      rw [membersText_singleton] at hfuel ⊢
      have hread : readValue fuel ((text value).toList ++ '}' :: rest) =
          some (value.reread, '}' :: rest) :=
        readValue_text value hvalue (by omega) (stops_cons rfl _)
      rw [memberText, List.cons_append, List.append_assoc]
      refine (readMembers_last hread).trans ?_
      rw [String.ofList_toList]
      rfl
    · rw [membersText_cons _ hlast, List.length_append, List.length_cons] at hfuel
      rw [membersText_cons _ hlast, List.append_assoc]
      have hread : readValue fuel ((text value).toList ++
          ',' :: (membersText members ++ '}' :: rest)) =
            some (value.reread, ',' :: (membersText members ++ '}' :: rest)) :=
        readValue_text value hvalue (by omega) (stops_cons rfl _)
      rw [memberText, List.cons_append, List.append_assoc]
      refine (readMembers_more hread).trans ?_
      rw [readMembers_text members hlast hmembers (by omega) rest, String.ofList_toList]
      rfl

end

/-- What is written for a value is read as the value, with its numbers as they are read. -/
theorem readWhole?_text {v : Json} (h : ∀ n ∈ numbers v, n.IsKept ∧ n.isFinite = true) :
    readWhole? (text v) = some v.reread := by
  have hread := readValue_text v h (Nat.le_add_right _ 2) stops_nil
  rw [List.append_nil] at hread
  unfold readWhole?
  rw [hread]
  rfl

end CallTracing.Json
