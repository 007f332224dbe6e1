/-
  CallTracing/Proofs/Attribute/Writes.lean
  ========================================
  **Sets of attributes as they are written.**

  An attribute set comes about by single writes.  `Written allowed set` says that the set can be
  built so, each write being one that is `allowed`.  Every attribute of such a set is an allowed one
  (`Written.of_mem`), and no name comes twice (`Written.nodup`).  What writes sets, be it one
  attribute or a merge of two sets, keeps the property, so that a writer is described by what it may
  write and by nothing else.

  Merging is described by one equation (`get?_extend`): an attribute is looked for in the set that
  is merged in, and only then in the one before.
-/
import CallTracing.Attribute.Set

namespace CallTracing.AttributeSet

variable {allowed allowed' : String → AttributeValue → Prop} {set other : AttributeSet}

/-! ### Finding entries -/

theorem find_eq_none {name : String} {entries : List (String × AttributeValue)}
    (h : name ∉ entries.map (·.1)) : find name entries = none := by
  induction entries with
  | nil => rfl
  | cons entry rest ih =>
    rw [List.map_cons, List.mem_cons, not_or] at h
    have hne : ¬entry.1 = name := fun heq => h.1 heq.symm
    simp [find, hne, ih h.2]

theorem mem_of_find {name : String} {value : AttributeValue}
    {entries : List (String × AttributeValue)} (h : find name entries = some value) :
    (name, value) ∈ entries := by
  induction entries with
  | nil => cases h
  | cons entry rest ih =>
    obtain ⟨key, known⟩ := entry
    by_cases hkey : key = name
    · simp only [find, hkey, if_true, Option.some.injEq] at h
      simp [hkey, h]
    · simp only [find, hkey, if_false] at h
      exact List.mem_cons_of_mem _ (ih h)

/-- Where no name comes twice, the order of the entries does not matter. -/
theorem find_eq_some_iff {entries : List (String × AttributeValue)}
    (hnodup : (entries.map (·.1)).Nodup) {name : String} {value : AttributeValue} :
    find name entries = some value ↔ (name, value) ∈ entries := by
  refine ⟨mem_of_find, fun hmem => ?_⟩
  induction entries with
  | nil => exact absurd hmem List.not_mem_nil
  | cons entry rest ih =>
    obtain ⟨key, known⟩ := entry
    rw [List.map_cons, List.nodup_cons] at hnodup
    rcases List.mem_cons.mp hmem with heq | hrest
    · obtain ⟨rfl, rfl⟩ := Prod.mk.inj heq
      simp [find]
    · have hne : ¬key = name := by
        rintro rfl
        exact hnodup.1 (List.mem_map.mpr ⟨_, hrest, rfl⟩)
      rw [find, if_neg hne]
      exact ih hnodup.2 hrest

theorem mem_write {name : String} {value : AttributeValue}
    {entries : List (String × AttributeValue)} {entry : String × AttributeValue}
    (h : entry ∈ write name value entries) : entry = (name, value) ∨ entry ∈ entries := by
  induction entries with
  | nil => exact Or.inl (List.mem_singleton.mp h)
  | cons first rest ih =>
    obtain ⟨key, known⟩ := first
    by_cases hkey : key = name
    · rw [write, if_pos hkey] at h
      rcases List.mem_cons.mp h with h | h
      · exact Or.inl h
      · exact Or.inr (List.mem_cons_of_mem _ h)
    · rw [write, if_neg hkey] at h
      rcases List.mem_cons.mp h with h | h
      · exact Or.inr (h ▸ List.mem_cons_self)
      · rcases ih h with h | h
        · exact Or.inl h
        · exact Or.inr (List.mem_cons_of_mem _ h)

/-! ### Equations on lookups -/

theorem get?_putNonEmpty (set : AttributeSet) (name value other : String) :
    (set.putNonEmpty name value).get? other =
      if name = other ∧ value ≠ "" then some (.text value) else set.get? other := by
  by_cases hvalue : value = ""
  · simp [putNonEmpty, hvalue]
  · have hempty : value.isEmpty = false := by simpa using hvalue
    simp [putNonEmpty, hempty, get?_put, hvalue]

theorem get?_extend (set : AttributeSet) {other : AttributeSet}
    (hnodup : (other.entries.map (·.1)).Nodup) (name : String) :
    (set.extend other).get? name = (other.get? name).or (set.get? name) := by
  obtain ⟨entries⟩ := other
  induction entries generalizing set with
  | nil => rfl
  | cons entry rest ih =>
    obtain ⟨key, value⟩ := entry
    rw [List.map_cons, List.nodup_cons] at hnodup
    have hrest := ih (set.put key value) hnodup.2
    rw [get?_put] at hrest
    have hextend : set.extend ⟨(key, value) :: rest⟩ = (set.put key value).extend ⟨rest⟩ := rfl
    rw [hextend, hrest]
    by_cases hkey : key = name
    · subst hkey
      have hnone : find key rest = none := find_eq_none hnodup.1
      simp [get?, find, hnone]
    · simp [hkey, get?, find]

theorem get?_perm {set other : AttributeSet} (hperm : set.entries.Perm other.entries)
    (hnodup : (other.entries.map (·.1)).Nodup) (name : String) :
    set.get? name = other.get? name := by
  have hnodup' : (set.entries.map (·.1)).Nodup := (hperm.map _).nodup_iff.mpr hnodup
  refine Option.ext fun value => ?_
  exact (find_eq_some_iff hnodup').trans (hperm.mem_iff.trans (find_eq_some_iff hnodup).symm)

theorem nodup_extend (h : (set.entries.map (·.1)).Nodup)
    (other : AttributeSet) : ((set.extend other).entries.map (·.1)).Nodup := by
  obtain ⟨writes⟩ := other
  induction writes generalizing set with
  | nil => exact h
  | cons write rest ih => exact ih (put_nodup h write.1 write.2)

/-! ### Written sets -/

/-- A set that was written attribute by attribute, each an allowed one. -/
inductive Written (allowed : String → AttributeValue → Prop) : AttributeSet → Prop where
  | empty : Written allowed .empty
  | put {set : AttributeSet} {name : String} {value : AttributeValue}
      (hset : Written allowed set) (hvalue : allowed name value) :
      Written allowed (set.put name value)

theorem Written.mono (h : Written allowed set)
    (himp : ∀ name value, allowed name value → allowed' name value) : Written allowed' set := by
  induction h with
  | empty => exact .empty
  | put _ hvalue ih => exact ih.put (himp _ _ hvalue)

theorem Written.nodup (h : Written allowed set) : (set.entries.map (·.1)).Nodup := by
  induction h with
  | empty => exact List.nodup_nil
  | put _ _ ih => exact put_nodup ih _ _

theorem Written.of_mem (h : Written allowed set) :
    ∀ entry ∈ set.entries, allowed entry.1 entry.2 := by
  induction h with
  | empty => exact fun entry hentry => nomatch hentry
  | put _ hvalue ih =>
    intro entry hentry
    rcases mem_write hentry with rfl | hentry
    · exact hvalue
    · exact ih entry hentry

theorem Written.of_get? (h : Written allowed set) {name : String} {value : AttributeValue}
    (hget : set.get? name = some value) : allowed name value :=
  h.of_mem (name, value) (mem_of_find hget)

theorem Written.putNonEmpty (h : Written allowed set) {name value : String}
    (hvalue : value ≠ "" → allowed name (.text value)) :
    Written allowed (set.putNonEmpty name value) := by
  unfold AttributeSet.putNonEmpty
  split
  · exact h
  · next hempty => exact h.put (hvalue (by simpa using hempty))

theorem Written.foldl {α : Type} {step : AttributeSet → α → AttributeSet} {items : List α}
    (h : Written allowed set)
    (hstep : ∀ set item, item ∈ items → Written allowed set → Written allowed (step set item)) :
    Written allowed (items.foldl step set) := by
  induction items generalizing set with
  | nil => exact h
  | cons item rest ih =>
    have hfirst := hstep set item List.mem_cons_self h
    exact ih hfirst fun set later hlater => hstep set later (List.mem_cons_of_mem _ hlater)

theorem Written.extend (h : Written allowed set) (hother : Written allowed other) :
    Written allowed (set.extend other) :=
  h.foldl fun _ entry hentry hset => hset.put (hother.of_mem entry hentry)

end CallTracing.AttributeSet
