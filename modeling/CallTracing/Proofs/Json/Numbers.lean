/-
  CallTracing/Proofs/Json/Numbers.lean
  ====================================
  **The numbers inside a JSON value.**

  Whatever number a path leads to was there when the value was read (`mem_numbers_of_at?`), also
  where repeated member names have been settled since (`mem_numbers_of_collapsed`): settling drops
  values and moves others to an earlier place, and makes none.
-/
import CallTracing.Json.Basic

namespace CallTracing.Json

mutual

/-- The numbers of a value, in the order in which they are read. -/
def numbers : Json → List JsonNumber
  | .array items => numbersItems items
  | .object members => numbersMembers members
  | .number n => [n]
  | .null => []
  | .bool _ => []
  | .string _ => []

/-- The numbers of items. -/
def numbersItems : List Json → List JsonNumber
  | [] => []
  | item :: rest => numbers item ++ numbersItems rest

/-- The numbers of member values. -/
def numbersMembers : List (String × Json) → List JsonNumber
  | [] => []
  | (_, value) :: rest => numbers value ++ numbersMembers rest

end

theorem mem_numbersItems {items : List Json} {n : JsonNumber} :
    n ∈ numbersItems items ↔ ∃ item ∈ items, n ∈ numbers item := by
  have hflat : numbersItems items = items.flatMap numbers := by
    induction items with
    | nil => rfl
    | cons item rest ih => rw [numbersItems, ih, List.flatMap_cons]
  rw [hflat, List.mem_flatMap]

theorem mem_numbersMembers {members : List (String × Json)} {n : JsonNumber} :
    n ∈ numbersMembers members ↔ ∃ member ∈ members, n ∈ numbers member.2 := by
  have hflat : numbersMembers members = members.flatMap (fun member => numbers member.2) := by
    induction members with
    | nil => rfl
    | cons member rest ih => rw [numbersMembers, ih, List.flatMap_cons]
  rw [hflat, List.mem_flatMap]

/-! ### Finite numbers -/

mutual

theorem isFinite_of_allFinite (value : Json) (h : value.allFinite = true) :
    ∀ n ∈ numbers value, n.isFinite = true := by
  cases value with
  | null | bool _ | string _ => exact fun _ hn => absurd hn List.not_mem_nil
  | number m =>
    intro n hn
    rw [List.mem_singleton.mp hn]
    exact h
  | array items => exact isFinite_of_allFiniteItems items h
  | object members => exact isFinite_of_allFiniteMembers members h

theorem isFinite_of_allFiniteItems (items : List Json) (h : allFiniteItems items = true) :
    ∀ n ∈ numbersItems items, n.isFinite = true := by
  cases items with
  | nil => exact fun _ hn => absurd hn List.not_mem_nil
  | cons item rest =>
    rw [allFiniteItems, Bool.and_eq_true] at h
    exact List.forall_mem_append.mpr
      ⟨isFinite_of_allFinite item h.1, isFinite_of_allFiniteItems rest h.2⟩

theorem isFinite_of_allFiniteMembers (members : List (String × Json))
    (h : allFiniteMembers members = true) : ∀ n ∈ numbersMembers members, n.isFinite = true := by
  cases members with
  | nil => exact fun _ hn => absurd hn List.not_mem_nil
  | cons member rest =>
    obtain ⟨name, value⟩ := member
    rw [allFiniteMembers, Bool.and_eq_true] at h
    exact List.forall_mem_append.mpr
      ⟨isFinite_of_allFinite value h.1, isFinite_of_allFiniteMembers rest h.2⟩

end

/-! ### Repeated names -/

theorem mem_setMember {name : String} {value : Json} {members : List (String × Json)}
    {member : String × Json} (h : member ∈ setMember name value members) :
    member = (name, value) ∨ member ∈ members := by
  induction members with
  | nil => exact Or.inl (List.mem_singleton.mp h)
  | cons first rest ih =>
    rw [setMember] at h
    split at h
    · rcases List.mem_cons.mp h with hfirst | hrest
      · exact Or.inl hfirst
      · exact Or.inr (List.mem_cons_of_mem _ hrest)
    · rcases List.mem_cons.mp h with rfl | hrest
      · exact Or.inr List.mem_cons_self
      · exact (ih hrest).imp_right (List.mem_cons_of_mem _)

theorem mem_ofMembers {members : List (String × Json)} {member : String × Json}
    (h : member ∈ ofMembers members) : member ∈ members := by
  have hset : ∀ set : List (String × Json),
      member ∈ members.foldl (fun set member => setMember member.1 member.2 set) set →
        member ∈ set ∨ member ∈ members := by
    clear h
    induction members with
    | nil => exact fun set h => Or.inl h
    | cons first rest ih =>
      intro set h
      rcases ih _ h with hfront | hrest
      · rcases mem_setMember hfront with rfl | hset
        · exact Or.inr List.mem_cons_self
        · exact Or.inl hset
      · exact Or.inr (List.mem_cons_of_mem _ hrest)
  exact (hset [] h).resolve_left List.not_mem_nil

mutual

theorem mem_numbers_of_collapsed (value : Json) {n : JsonNumber}
    (h : n ∈ numbers value.collapsed) : n ∈ numbers value := by
  cases value with
  | null | bool _ | string _ | number _ => exact h
  | array items => exact mem_numbersItems_of_collapsed items h
  | object members =>
    obtain ⟨member, hmember, hn⟩ := mem_numbersMembers.mp h
    exact mem_numbersMembers_of_collapsed members
      (mem_numbersMembers.mpr ⟨member, mem_ofMembers hmember, hn⟩)

theorem mem_numbersItems_of_collapsed (items : List Json) {n : JsonNumber}
    (h : n ∈ numbersItems (collapsedItems items)) : n ∈ numbersItems items := by
  cases items with
  | nil => exact h
  | cons item rest =>
    refine List.mem_append.mpr ((List.mem_append.mp h).imp ?_ ?_)
    · exact mem_numbers_of_collapsed item
    · exact mem_numbersItems_of_collapsed rest

theorem mem_numbersMembers_of_collapsed (members : List (String × Json)) {n : JsonNumber}
    (h : n ∈ numbersMembers (collapsedMembers members)) : n ∈ numbersMembers members := by
  cases members with
  | nil => exact h
  | cons member rest =>
    obtain ⟨name, value⟩ := member
    refine List.mem_append.mpr ((List.mem_append.mp h).imp ?_ ?_)
    · exact mem_numbers_of_collapsed value
    · exact mem_numbersMembers_of_collapsed rest

end

/-! ### Paths -/

theorem mem_of_lookup {name : String} {members : List (String × Json)} {value : Json}
    (h : lookup name members = some value) : (name, value) ∈ members := by
  induction members with
  | nil => cases h
  | cons member rest ih =>
    rw [lookup] at h
    split at h
    · next hname =>
      rw [← hname, ← Option.some.inj h]
      exact List.mem_cons_self
    · exact List.mem_cons_of_mem _ (ih h)

theorem mem_numbers_of_step? {value next : Json} {name : String} {n : JsonNumber}
    (h : value.step? name = some next) (hn : n ∈ numbers next) : n ∈ numbers value := by
  unfold step? at h
  split at h
  · exact mem_numbersMembers.mpr ⟨_, mem_of_lookup h, hn⟩
  · obtain ⟨i, -, hitem⟩ := Option.bind_eq_some_iff.mp h
    exact mem_numbersItems.mpr ⟨next, List.mem_of_getElem? hitem, hn⟩
  · cases h

/-- A number at the end of a path is one of the value's. -/
theorem mem_numbers_of_at? {value : Json} {path : List String} {n : JsonNumber}
    (h : value.at? path = some (.number n)) : n ∈ numbers value := by
  induction path generalizing value with
  | nil =>
    rw [Option.some.inj h]
    exact List.mem_singleton_self n
  | cons name rest ih =>
    obtain ⟨next, hstep, hrest⟩ := Option.bind_eq_some_iff.mp h
    exact mem_numbers_of_step? hstep (ih hrest)

end CallTracing.Json
