/-
  CallTracing/Proofs/Lists.lean
  =============================
  **What lists are searched for.**  Open slots and known profiles are kept in lists of entries, each
  with its key in front; what counts is what `List.lookup` finds after such a list has changed.  And
  a list is divided by the last place of an element in it, as a profile key is by its bracket.
  Without repetitions a list keeps the first occurrence of each item, so the first item that passes a
  test stays the same (`find?_eraseDups`), and which of two kinds of items comes first is such a test
  (`findIdx_lt_iff`).
-/

namespace CallTracing

variable {α β : Type}

/-! ### Entries by their keys -/

theorem lookup_snoc [BEq α] [LawfulBEq α] {entries : List (α × β)} {key key' : α}
    {value value' : β} (h : (entries ++ [(key, value)]).lookup key' = some value') :
    entries.lookup key' = some value' ∨ key' = key ∧ value' = value := by
  rw [List.lookup_append] at h
  cases hentries : entries.lookup key' with
  | some known =>
    rw [hentries] at h
    exact Or.inl h
  | none =>
    rw [hentries, Option.none_or, List.lookup_cons] at h
    split at h
    · next heq => exact Or.inr ⟨beq_iff_eq.mp heq, (Option.some.inj h).symm⟩
    · cases h

theorem lookup_entry [BEq α] [LawfulBEq α] [DecidableEq α] (entries : List (α × β)) (n m : α)
    (value : β) :
    ((n, value) :: entries).lookup m = if m = n then some value else entries.lookup m := by
  rw [List.lookup_cons]
  by_cases hm : m = n
  · simp [hm]
  · simp [hm, beq_eq_false_iff_ne.mpr hm]

theorem lookup_replaced [BEq α] [LawfulBEq α] [DecidableEq α] (entries : List (α × β)) (n m : α)
    (value : β) :
    (entries.map fun entry => if entry.1 = n then (n, value) else entry).lookup m =
      if m = n then (entries.lookup n).map fun _ => value else entries.lookup m := by
  induction entries with
  | nil => simp
  | cons entry entries ih =>
    obtain ⟨k, old⟩ := entry
    rw [List.map_cons]
    by_cases hk : k = n
    · subst hk
      simp only [if_true, lookup_entry, ih]
      by_cases hm : m = k <;> simp [hm]
    · simp only [hk, if_false, lookup_entry, Ne.symm hk, ih]
      by_cases hm : m = n
      · subst hm
        simp [Ne.symm hk]
      · simp [hm]

theorem lookup_removed [BEq α] [LawfulBEq α] [DecidableEq α] (entries : List (α × β)) (n m : α) :
    (entries.filter (·.1 != n)).lookup m = if m = n then none else entries.lookup m := by
  induction entries with
  | nil => simp
  | cons entry entries ih =>
    obtain ⟨k, old⟩ := entry
    by_cases hk : k = n
    · subst hk
      rw [List.filter_cons_of_neg (by simp), lookup_entry, ih]
      by_cases hm : m = k <;> simp [hm]
    · rw [List.filter_cons_of_pos (by simpa using hk), lookup_entry, lookup_entry, ih]
      by_cases hm : m = n
      · subst hm
        simp [Ne.symm hk]
      · simp [hm]

/-! ### Where a list divides -/

/-- Where the parts behind a separator do not hold it, the last separator divides a list. -/
theorem append_separator_inj {separator : α} {first first' last last' : List α}
    (hlast : separator ∉ last) (hlast' : separator ∉ last')
    (h : first ++ separator :: last = first' ++ separator :: last') :
    first = first' ∧ last = last' := by
  rcases List.append_eq_append_iff.mp h with ⟨middle, hfirst, hrest⟩ | ⟨middle, hfirst, hrest⟩
  · cases middle with
    | nil =>
      rw [List.append_nil] at hfirst
      exact ⟨hfirst.symm, (List.cons.inj hrest).2⟩
    | cons c middle =>
      obtain ⟨rfl, rfl⟩ := List.cons.inj hrest
      exact absurd (List.mem_append_right middle List.mem_cons_self) hlast
  · cases middle with
    | nil =>
      rw [List.append_nil] at hfirst
      exact ⟨hfirst, (List.cons.inj hrest).2.symm⟩
    | cons c middle =>
      obtain ⟨rfl, rfl⟩ := List.cons.inj hrest
      exact absurd (List.mem_append_right middle List.mem_cons_self) hlast'

/-- Two characters of one text: they are the same, or one of them comes first. -/
theorem append_cons_cases {α : Type} {a b c d : List α} {x y : α}
    (h : a ++ x :: b = c ++ y :: d) :
    (a = c ∧ x = y ∧ b = d) ∨ (∃ between, c = a ++ x :: between ∧ b = between ++ y :: d) ∨
      ∃ between, a = c ++ y :: between ∧ d = between ++ x :: b := by
  rcases List.append_eq_append_iff.mp h with ⟨more, rfl, hmore⟩ | ⟨more, rfl, hmore⟩
  · cases more with
    | nil =>
      obtain ⟨rfl, rfl⟩ := List.cons_eq_cons.mp hmore
      exact Or.inl ⟨(List.append_nil _).symm, rfl, rfl⟩
    | cons z more =>
      obtain ⟨rfl, rfl⟩ := List.cons_eq_cons.mp hmore
      exact Or.inr (Or.inl ⟨more, rfl, rfl⟩)
  · cases more with
    | nil =>
      obtain ⟨rfl, rfl⟩ := List.cons_eq_cons.mp hmore
      exact Or.inl ⟨List.append_nil _, rfl, rfl⟩
    | cons z more =>
      obtain ⟨rfl, rfl⟩ := List.cons_eq_cons.mp hmore
      exact Or.inr (Or.inr ⟨more, rfl, rfl⟩)

/-! ### First occurrences -/

section

variable [BEq α] [LawfulBEq α]

theorem nodup_eraseDups (items : List α) : items.eraseDups.Nodup := by
  cases items with
  | nil => simp
  | cons first rest =>
    rw [List.eraseDups_cons, List.nodup_cons]
    refine ⟨?_, nodup_eraseDups _⟩
    rw [List.mem_eraseDups, List.mem_filter]
    simp
termination_by items.length
decreasing_by
  have hlength := List.length_filter_le (fun other => !other == first) rest
  simp only [List.length_cons]
  omega

theorem find?_eraseDups (test : α → Bool) (items : List α) :
    items.eraseDups.find? test = items.find? test := by
  cases items with
  | nil => rfl
  | cons first rest =>
    rw [List.eraseDups_cons, List.find?_cons, List.find?_cons, find?_eraseDups, List.find?_filter]
    cases htest : test first with
    | true => rfl
    | false =>
      -- what is equal to the first item does not pass the test either
      have hother : (fun other => decide ((!other == first) = true ∧ test other = true)) = test := by
        funext other
        by_cases hother : other = first <;> simp [hother, htest]
      rw [hother]
termination_by items.length
decreasing_by
  have hlength := List.length_filter_le (fun other => !other == first) rest
  simp only [List.length_cons]
  omega

theorem eraseDups_append_cons_of_mem {item : α} {before rest : List α} (h : item ∈ before) :
    (before ++ item :: rest).eraseDups = (before ++ rest).eraseDups := by
  rw [List.eraseDups_append, List.eraseDups_append, List.cons_removeAll]
  simp [h]

theorem eraseDups_concat_of_not_mem {item : α} {before : List α} (h : item ∉ before) :
    (before ++ [item]).eraseDups = before.eraseDups ++ [item] := by
  rw [List.eraseDups_append, List.cons_removeAll]
  simp [h, List.eraseDups_cons]

theorem length_eraseDups_le_one_iff (items : List α) :
    items.eraseDups.length ≤ 1 ↔ ∀ a ∈ items, ∀ b ∈ items, a = b := by
  have hnodup := nodup_eraseDups items
  simp only [← List.mem_eraseDups (l := items)]
  generalize items.eraseDups = kept at hnodup
  cases kept with
  | nil => simp
  | cons first rest =>
    cases rest with
    | nil => simp
    | cons second rest =>
      have hne : first ≠ second := fun h => (List.nodup_cons.mp hnodup).1 (by simp [h])
      refine iff_of_false (by simp) fun h => hne ?_
      exact h first List.mem_cons_self second (List.mem_cons_of_mem first List.mem_cons_self)

end

/-- One kind of items comes before another if the first item of either kind is not of the other. -/
theorem findIdx_lt_iff (first second : α → Bool) (items : List α) :
    items.findIdx first < items.findIdx second ↔
      ∃ item, items.find? (fun item => first item || second item) = some item ∧
        second item = false := by
  induction items with
  | nil => simp
  | cons item rest ih =>
    rw [List.findIdx_cons, List.findIdx_cons, List.find?_cons]
    cases hfirst : first item <;> cases hsecond : second item <;> simp_all

end CallTracing
