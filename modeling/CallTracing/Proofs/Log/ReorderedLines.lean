/-
  CallTracing/Proofs/Log/ReorderedLines.lean
  ==========================================
  **Reordering a log line loses nothing, but it shuffles the members that it does not move.**

  A line that is a JSON object is written again as a line of its own: compact, its members those of
  the object, in front those that come first (`reordered_keeps_members`).  The numerals that stand
  in it say the numbers of the members exactly.  Whoever reads it gets the members back, each number
  as the reader takes it.

  The other members were meant to follow in their order.  They do so only where each of them comes
  into its own place when the leading ones are taken out, and a line that has leading members and two
  others or more is changed again whenever it is reordered (`reordered_order`).  Any other line is
  left as it is if its numbers are read as they were written.
-/
import CallTracing.Proofs.Json.Compact
import CallTracing.Proofs.Json.Settled
import CallTracing.Proofs.Json.WrittenNumerals
import CallTracing.Proofs.Log.MemberMoves
import CallTracing.Proofs.Text.Letters

namespace CallTracing.Log

variable {members out : Members} {line : String}

/-! ### Lines of objects -/

/-- The line that is written for an object. -/
def lineOf (members : Members) : String := (Json.object members).text ++ "\n"

theorem trimmed_of_ends {first last : Char} (hfirst : Text.isBlank first = false)
    (hlast : Text.isBlank last = false) (inside : List Char) :
    Text.trimmed (first :: (inside ++ [last])) = first :: (inside ++ [last]) := by
  have hback : (first :: (inside ++ [last])).reverse = last :: (first :: inside).reverse := by
    rw [← List.cons_append, List.reverse_append, List.reverse_singleton, List.singleton_append]
  unfold Text.trimmed Text.trimmedEnd
  rw [List.dropWhile_cons_of_neg (by simp [hfirst]), hback,
    List.dropWhile_cons_of_neg (by simp [hlast]), ← hback, List.reverse_reverse]

theorem trim_lineOf (members : Members) :
    Text.trim (lineOf members) = (Json.object members).text := by
  have hpadded : Text.Padded (Json.object members).text.toList (lineOf members).toList :=
    ⟨[], ['\n'], String.toList_append, fun _ hc => absurd hc List.not_mem_nil,
      List.forall_mem_singleton.mpr rfl⟩
  unfold Text.trim
  rw [Text.trimmed_padded hpadded, Json.toList_text_object, trimmed_of_ends rfl rfl,
    ← Json.toList_text_object, String.ofList_toList]

theorem reordered?_of_parse? (h : Json.parse? (Text.trim line) = some (.object members)) :
    reordered? line = some (lineOf (ordered members)) := by
  unfold reordered?
  rw [h]
  rfl

theorem reordered?_eq_none (h : ∀ members, Json.parse? (Text.trim line) ≠ some (.object members)) :
    reordered? line = none := by
  unfold reordered?
  split
  · next members heq => exact absurd heq (h members)
  · rfl

/-- A line that was written is reordered as far as it is read. -/
theorem reordered?_lineOf (h : Json.IsSettled (.object members)) :
    reordered? (lineOf members) = if (Json.object members).reread.allFinite then
      some (lineOf (ordered (Json.rereadMembers members))) else none := by
  have hparse := Json.parse?_text h
  rw [← trim_lineOf] at hparse
  split
  · next hfinite =>
    rw [if_pos hfinite] at hparse
    exact reordered?_of_parse? hparse
  · next hinfinite =>
    refine reordered?_eq_none fun read hread => ?_
    rw [hparse, if_neg hinfinite] at hread
    cases hread

theorem lineOf_eq_iff :
    lineOf members = lineOf out ↔ (Json.object members).text = (Json.object out).text := by
  refine ⟨fun hline => ?_, congrArg (· ++ "\n")⟩
  have htext := congrArg Text.trim hline
  rwa [trim_lineOf, trim_lineOf] at htext

/-- Objects with the same text have members of the same names. -/
theorem names_of_text_eq (h : Json.IsSettled (.object members)) (hout : Json.IsSettled (.object out))
    (htext : (Json.object members).text = (Json.object out).text) :
    members.map (·.1) = out.map (·.1) := by
  have hread := Json.readWhole?_text h.kept
  rw [htext, Json.readWhole?_text hout.kept, Option.some.injEq] at hread
  have hmembers : Json.rereadMembers out = Json.rereadMembers members := Json.object.inj hread
  rw [Json.rereadMembers_eq, Json.rereadMembers_eq] at hmembers
  rw [← Json.names_mapValues Json.reread members, ← hmembers, Json.names_mapValues]

/-! ### Members in order -/

theorem nodup_leadingMembers : leadingMembers.Nodup := by decide

theorem ordered_eq (h : (members.map (·.1)).Nodup) :
    ordered members = picked leadingMembers members ++ (takeMembers leadingMembers members).2 := by
  unfold ordered
  rw [← takeMembers_fst nodup_leadingMembers h]

/-- An object with its members in the order of a line: the leading ones that are there, then the
others. -/
structure IsOrderOf (members out : Members) : Prop where
  perm : out.Perm members
  nodup : (out.map (·.1)).Nodup
  leading : ∃ rest, out = picked leadingMembers members ++ rest ∧
    ∀ member ∈ rest, member.1 ∉ leadingMembers

/-- A line that holds an object and nothing else. -/
structure IsLineOf (line : String) (members : Members) : Prop where
  ends : line = (Json.object members).text ++ "\n"
  compact : Json.IsCompact (Json.object members).text.toList
  /-- The numerals in the line say what the numbers of the members are. -/
  spelled : List.Forall₂ Json.LiteralSays (Json.numerals (Json.object members).text.toList)
    (Json.object members).numbers
  /-- What is read from it are the members, with their numbers as they are read. -/
  reads : Json.parse? (Json.object members).text =
    if (Json.object members).reread.allFinite then some (Json.object members).reread else none

theorem isOrderOf_ordered (h : (members.map (·.1)).Nodup) : IsOrderOf members (ordered members) := by
  have hperm := takeMembers_perm leadingMembers members
  refine ⟨hperm, (hperm.map _).nodup_iff.mpr h, _, ordered_eq h, fun member hmember => ?_⟩
  exact not_mem_names_of_left nodup_leadingMembers h hmember

theorem isLineOf_lineOf (h : Json.IsSettled (.object members)) : IsLineOf (lineOf members) members :=
  ⟨rfl, Json.isCompact_text h.kept, Json.say_numbers h.kept, Json.parse?_text h⟩

/-- **A JSON object is reordered without loss, and nothing else is.** -/
theorem reordered_keeps_members (line : String) :
    (∀ members, Json.parse? (Text.trim line) = some (.object members) →
      ∃ out written, reordered? line = some written ∧ IsLineOf written out ∧
        IsOrderOf members out) ∧
    ((∀ members, Json.parse? (Text.trim line) ≠ some (.object members)) →
      reordered? line = none) := by
  refine ⟨fun members h => ?_, reordered?_eq_none⟩
  have hsettled := Json.isSettled_parse? h
  have horder := isOrderOf_ordered hsettled.nodup
  exact ⟨ordered members, lineOf (ordered members), reordered?_of_parse? h,
    isLineOf_lineOf (hsettled.of_perm horder.perm), horder⟩

/-- A line as it is written at the end of a span, its members as the formatter orders them. -/
def spanLine : String :=
  "\x7b\"timestamp\":\"2024-01-01T00:00:00Z\",\"level\":\"INFO\"," ++
    "\"fields\":\x7b\"message\":\"close\"\x7d," ++
    "\"target\":\"app\",\"filename\":\"src/main.rs\",\"line_number\":42," ++
    "\"span\":\x7b\"name\":\"upload\"\x7d,\"spans\":[]\x7d\n"

/-- The members of `spanLine`. -/
def spanMembers : Members :=
  [("timestamp", .string "2024-01-01T00:00:00Z"), ("level", .string "INFO"),
    ("fields", .object [("message", .string "close")]), ("target", .string "app"),
    ("filename", .string "src/main.rs"), ("line_number", .number (.integer 42)),
    ("span", .object [("name", .string "upload")]), ("spans", .array [])]

theorem isKept_fortyTwo : (JsonNumber.integer 42).IsKept := ⟨by decide, by decide⟩

theorem isSettled_spanMembers : Json.IsSettled (.object spanMembers) := by
  refine ⟨by decide, ?_, Json.collapsed_object_eq_self_iff.mpr ⟨by decide, ?_⟩⟩
  · exact List.forall_mem_singleton.mpr ⟨isKept_fortyTwo, rfl⟩
  · simp [spanMembers, Json.collapsed, Json.collapsedItems, Json.collapsedMembers, Json.ofMembers,
      Json.setMember]

theorem parse?_spanLine : Json.parse? (Text.trim spanLine) = some (.object spanMembers) := by
  have hline : spanLine = lineOf spanMembers := by decide +kernel
  have hsteady : Json.IsSteady (.object spanMembers) :=
    List.forall_mem_singleton.mpr (JsonNumber.reread_integer isKept_fortyTwo)
  rw [hline, trim_lineOf]
  exact Json.parse?_text_of_steady isSettled_spanMembers hsteady

theorem spanLine_kept :
    Json.parse? (Text.trim spanLine) = some (.object spanMembers) ∧
      (∃ out written, reordered? spanLine = some written ∧ IsLineOf written out ∧
        IsOrderOf spanMembers out) ∧
      (∀ members, Json.parse? (Text.trim "INFO plain text line") ≠ some (.object members)) ∧
      reordered? "INFO plain text line" = none := by
  have hplain : ∀ members,
      Json.parse? (Text.trim "INFO plain text line") ≠ some (.object members) := by
    have hnone : (Json.parse? (Text.trim "INFO plain text line")).isNone = true := by
      decide +kernel
    rw [Option.isNone_iff_eq_none.mp hnone]
    exact fun _ h => nomatch h
  exact ⟨parse?_spanLine, (reordered_keeps_members spanLine).1 spanMembers parse?_spanLine, hplain,
    (reordered_keeps_members "INFO plain text line").2 hplain⟩

/-! ### The order of the other members -/

/-- Whether each of the other members comes into the place in which it stands among them. -/
def InPlace (names : List String) (members : Members) : Prop :=
  ∀ (place : Nat) other, (others names members)[place]? = some other →
    ∃ member, members[place]? = some member ∧ ComesInto names members member other

theorem others_append {names : List String} {front rest : Members}
    (hfront : ∀ member ∈ front, member.1 ∈ names) (hrest : ∀ member ∈ rest, member.1 ∉ names) :
    others names (front ++ rest) = rest := by
  unfold others
  have hnone : front.filter (fun member => !names.contains member.1) = [] :=
    List.filter_eq_nil_iff.mpr fun member hmember => by simp [hfront member hmember]
  have hall : rest.filter (fun member => !names.contains member.1) = rest :=
    List.filter_eq_self.mpr fun member hmember => by simp [hrest member hmember]
  rw [List.filter_append, hnone, hall, List.nil_append]

/-- A line that was reordered is left as it is just where no member or one is left behind the
leading ones, or there are none of these. -/
theorem ordered_ordered_iff (h : (members.map (·.1)).Nodup) :
    ordered (ordered members) = ordered members ↔
      picked leadingMembers members = [] ∨ (others leadingMembers members).length ≤ 1 := by
  have horder := isOrderOf_ordered h
  have hfront : ∀ member ∈ picked leadingMembers members, member.1 ∈ leadingMembers :=
    fun member hmember => mem_names_of_picked hmember
  have hrest : ∀ member ∈ (takeMembers leadingMembers members).2, member.1 ∉ leadingMembers :=
    fun member hmember => not_mem_names_of_left nodup_leadingMembers h hmember
  have hlength := (takeMembers_snd_perm nodup_leadingMembers h).length_eq
  have hpicked := picked_perm horder.perm h leadingMembers
  have hnodup := horder.nodup
  have hagain := ordered_eq hnodup
  rw [hpicked] at hagain
  rw [ordered_eq h] at hagain hpicked hnodup ⊢
  rw [hagain, List.append_cancel_left_eq, ← hlength]
  exact takeMembers_again_iff nodup_leadingMembers hnodup hpicked (others_append hfront hrest)

/-- A line is left as it is just where its members are in order and its numbers are read as they were
written. -/
theorem reordered?_lineOf_eq_self_iff (h : Json.IsSettled (.object members)) :
    reordered? (lineOf members) = some (lineOf members) ↔
      ordered members = members ∧ Json.IsSteady (.object members) := by
  have horder := isOrderOf_ordered h.nodup
  constructor
  · intro hsame
    rw [reordered?_lineOf h] at hsame
    split at hsame
    · next hfinite =>
      have hread := h.reread hfinite
      have hagain := hread.of_perm (isOrderOf_ordered hread.nodup).perm
      rw [Option.some.injEq, lineOf_eq_iff] at hsame
      -- names are read as they are, so the order can be seen in the text
      have hnames := names_of_text_eq hagain h hsame
      rw [Json.rereadMembers_eq, ordered_mapValues] at hnames hsame
      rw [Json.names_mapValues] at hnames
      have hordered := eq_of_perm_of_names horder.perm h.nodup hnames
      rw [hordered, ← Json.rereadMembers_eq] at hsame
      exact ⟨hordered, (Json.text_reread_iff h.kept fun n hn => (hread.kept n hn).2).mp hsame⟩
    · cases hsame
  · rintro ⟨hordered, hsteady⟩
    have hparse := Json.parse?_text_of_steady h hsteady
    rw [← trim_lineOf] at hparse
    rw [reordered?_of_parse? hparse, hordered]

/-- **The members that are left come into the places of others.**  They keep their order just where
each comes into its own place.  The line that is written is left as it is only if it has no leading
members or one other at most; and then it is, if every number is read as it was written. -/
theorem reordered_order (h : Json.parse? (Text.trim line) = some (.object members)) :
    ∃ rest written, written = lineOf (picked leadingMembers members ++ rest) ∧
      reordered? line = some written ∧
      rest.Perm (others leadingMembers members) ∧
      (∀ (place : Nat) other, rest[place]? = some other →
        ∃ member, members[place]? = some member ∧ ComesInto leadingMembers members member other) ∧
      (rest = others leadingMembers members ↔ InPlace leadingMembers members) ∧
      (reordered? written = some written ↔
        (picked leadingMembers members = [] ∨ (others leadingMembers members).length ≤ 1) ∧
          Json.IsSteady (.object members)) := by
  have hsettled := Json.isSettled_parse? h
  have hnodup := hsettled.nodup
  have horder := isOrderOf_ordered hnodup
  refine ⟨(takeMembers leadingMembers members).2, lineOf (ordered members), ?_,
    reordered?_of_parse? h, takeMembers_snd_perm nodup_leadingMembers hnodup, ?_, ?_, ?_⟩
  · rw [ordered_eq hnodup]
  · exact fun place other hplace => comesInto_of_getElem? nodup_leadingMembers hnodup hplace
  · exact takeMembers_snd_eq_iff nodup_leadingMembers hnodup rfl
  · rw [reordered?_lineOf_eq_self_iff (hsettled.of_perm horder.perm), ordered_ordered_iff hnodup,
      Json.isSteady_iff_of_perm horder.perm]

/-- A number that is not read as it was written; there is no leading member here. -/
example : reordered? "\x7b\"x\":0.19105737249315802\x7d\n" =
    some "\x7b\"x\":0.191057372493158\x7d\n" := by
  decide +kernel

/-- The line that is written for `spanLine` is changed when it is reordered. -/
theorem spanLine_changed :
    Json.parse? (Text.trim spanLine) = some (.object spanMembers) ∧
      ∃ written, reordered? spanLine = some written ∧ reordered? written ≠ some written := by
  obtain ⟨rest, written, -, hline, -, -, -, hagain⟩ := reordered_order parse?_spanLine
  refine ⟨parse?_spanLine, written, hline, fun hsame => ?_⟩
  rcases (hagain.mp hsame).1 with hnone | hfew
  · have hlength : (picked leadingMembers spanMembers).length = 5 := by decide
    rw [hnone] at hlength
    cases hlength
  · exact absurd hfew (by decide)

/-- Two other members change places each time. -/
theorem others_swapped :
    reordered? "\x7b\"timestamp\":1,\"a\":2,\"b\":3\x7d" =
        some "\x7b\"timestamp\":1,\"b\":3,\"a\":2\x7d\n" ∧
      reordered? "\x7b\"timestamp\":1,\"b\":3,\"a\":2\x7d\n" =
        some "\x7b\"timestamp\":1,\"a\":2,\"b\":3\x7d\n" := by
  constructor <;> decide +kernel

end CallTracing.Log
