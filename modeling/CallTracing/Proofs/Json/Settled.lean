/-
  CallTracing/Proofs/Json/Settled.lean
  ====================================
  **What the reader gives, the writer keeps.**

  A value that `parse?` gives is settled (`IsSettled`): it is not nested too deeply, its numbers are
  finite and in the form in which numbers are kept, and no object in it repeats a name.  Settled
  values are read from their text as far as their numbers are (`parse?_text`), and an object stays
  settled when its members are put into another order (`IsSettled.of_perm`).
-/
import CallTracing.Proofs.Json.Members
import CallTracing.Proofs.Json.RoundTrip

namespace CallTracing.Json

/-- A value as `parse?` gives it. -/
structure IsSettled (v : Json) : Prop where
  depth : v.depth ≤ maxDepth
  kept : ∀ n ∈ numbers v, n.IsKept ∧ n.isFinite = true
  names : v.collapsed = v

/-! ### Numbers -/

/-- What `isKept_read` says of one amount of fuel. -/
structure KeepsNumbers (fuel : Nat) : Prop where
  value : ∀ {text left v}, readValue fuel text = some (v, left) → ∀ n ∈ numbers v, n.IsKept
  items : ∀ {text left items}, readItems fuel text = some (items, left) →
    ∀ n ∈ numbersItems items, n.IsKept
  members : ∀ {text left members}, readMembers fuel text = some (members, left) →
    ∀ n ∈ numbersMembers members, n.IsKept

section

variable {fuel : Nat} {text left : List Char}

theorem isKept_value (ih : KeepsNumbers fuel) {v : Json}
    (h : readValue (fuel + 1) text = some (v, left)) : ∀ n ∈ numbers v, n.IsKept := by
  unfold readValue at h
  split at h
  · cases h
    exact fun _ hn => absurd hn List.not_mem_nil
  · cases h
    exact fun _ hn => absurd hn List.not_mem_nil
  · cases h
    exact fun _ hn => absurd hn List.not_mem_nil
  · obtain ⟨_, -, hresult⟩ := Option.map_eq_some_iff.mp h
    cases hresult
    exact fun _ hn => absurd hn List.not_mem_nil
  · split at h
    · cases h
      exact fun _ hn => absurd hn List.not_mem_nil
    · obtain ⟨_, hitems, hresult⟩ := Option.map_eq_some_iff.mp h
      cases hresult
      exact ih.items hitems
  · split at h
    · cases h
      exact fun _ hn => absurd hn List.not_mem_nil
    · obtain ⟨_, hmembers, hresult⟩ := Option.map_eq_some_iff.mp h
      cases hresult
      exact ih.members hmembers
  · obtain ⟨_, hnumber, hresult⟩ := Option.map_eq_some_iff.mp h
    cases hresult
    exact List.forall_mem_singleton.mpr (isKept_readNumber hnumber)

theorem isKept_items (ih : KeepsNumbers fuel) {items : List Json}
    (h : readItems (fuel + 1) text = some (items, left)) :
    ∀ n ∈ numbersItems items, n.IsKept := by
  unfold readItems at h
  split at h
  · cases h
  · next item rest hitem =>
    split at h
    · cases h
      exact List.forall_mem_append.mpr ⟨ih.value hitem, fun _ hn => absurd hn List.not_mem_nil⟩
    · obtain ⟨_, hitems, hresult⟩ := Option.map_eq_some_iff.mp h
      cases hresult
      exact List.forall_mem_append.mpr ⟨ih.value hitem, ih.items hitems⟩
    · cases h

theorem isKept_members (ih : KeepsNumbers fuel) {members : List (String × Json)}
    (h : readMembers (fuel + 1) text = some (members, left)) :
    ∀ n ∈ numbersMembers members, n.IsKept := by
  unfold readMembers at h
  split at h
  · split at h
    · cases h
    · split at h
      · split at h
        · cases h
        · next value rest hvalue =>
          split at h
          · cases h
            exact List.forall_mem_append.mpr
              ⟨ih.value hvalue, fun _ hn => absurd hn List.not_mem_nil⟩
          · obtain ⟨_, hmembers, hresult⟩ := Option.map_eq_some_iff.mp h
            cases hresult
            exact List.forall_mem_append.mpr ⟨ih.value hvalue, ih.members hmembers⟩
          · cases h
      · cases h
  · cases h

end

theorem isKept_read (fuel : Nat) : KeepsNumbers fuel := by
  induction fuel with
  | zero => exact ⟨(nomatch ·), (nomatch ·), (nomatch ·)⟩
  | succ fuel ih => exact ⟨isKept_value ih, isKept_items ih, isKept_members ih⟩

theorem isKept_readWhole? {text : String} {v : Json} (h : readWhole? text = some v) :
    ∀ n ∈ numbers v, n.IsKept := by
  unfold readWhole? at h
  split at h
  · next value rest hvalue =>
    split at h
    · cases h
      exact (isKept_read _).value hvalue
    · cases h
  · cases h

mutual

theorem allFinite_of_isFinite (value : Json) (h : ∀ n ∈ numbers value, n.isFinite = true) :
    value.allFinite = true := by
  cases value with
  | null | bool _ | string _ => rfl
  | number n => exact h n List.mem_cons_self
  | array items => exact allFiniteItems_of_isFinite items h
  | object members => exact allFiniteMembers_of_isFinite members h

theorem allFiniteItems_of_isFinite (items : List Json)
    (h : ∀ n ∈ numbersItems items, n.isFinite = true) : allFiniteItems items = true := by
  cases items with
  | nil => rfl
  | cons item rest =>
    obtain ⟨hitem, hrest⟩ := List.forall_mem_append.mp h
    rw [allFiniteItems, allFinite_of_isFinite item hitem, allFiniteItems_of_isFinite rest hrest]
    rfl

theorem allFiniteMembers_of_isFinite (members : List (String × Json))
    (h : ∀ n ∈ numbersMembers members, n.isFinite = true) : allFiniteMembers members = true := by
  cases members with
  | nil => rfl
  | cons member rest =>
    obtain ⟨name, value⟩ := member
    obtain ⟨hvalue, hrest⟩ := List.forall_mem_append.mp h
    rw [allFiniteMembers, allFinite_of_isFinite value hvalue,
      allFiniteMembers_of_isFinite rest hrest]
    rfl

end

/-! ### Depth -/

theorem depthMembers_le_iff {members : List (String × Json)} {limit : Nat} :
    depthMembers members ≤ limit ↔ ∀ member ∈ members, member.2.depth ≤ limit := by
  induction members with
  | nil => simp [depthMembers]
  | cons member rest ih =>
    rw [depthMembers, Nat.max_le, ih, List.forall_mem_cons]

mutual

theorem depth_collapsed_le (value : Json) : value.collapsed.depth ≤ value.depth := by
  cases value with
  | null | bool _ | string _ | number _ => exact Nat.le_refl _
  | array items => exact Nat.succ_le_succ (depthItems_collapsed_le items)
  | object members =>
    refine Nat.succ_le_succ (depthMembers_le_iff.mpr fun member hmember => ?_)
    exact depthMembers_le_iff.mp (depthMembers_collapsed_le members) member
      (mem_ofMembers hmember)

theorem depthItems_collapsed_le (items : List Json) :
    depthItems (collapsedItems items) ≤ depthItems items := by
  cases items with
  | nil => exact Nat.le_refl _
  | cons item rest =>
    exact max_le_max (depth_collapsed_le item) (depthItems_collapsed_le rest)

theorem depthMembers_collapsed_le (members : List (String × Json)) :
    depthMembers (collapsedMembers members) ≤ depthMembers members := by
  cases members with
  | nil => exact Nat.le_refl _
  | cons member rest =>
    exact max_le_max (depth_collapsed_le member.2) (depthMembers_collapsed_le rest)

end

/-! ### Names -/

theorem collapsedMembers_eq_map (members : List (String × Json)) :
    collapsedMembers members = members.map fun member => (member.1, member.2.collapsed) := by
  induction members with
  | nil => rfl
  | cons member rest ih => rw [collapsedMembers, ih, List.map_cons]

/-- The members of an object that are settled one by one. -/
theorem collapsedMembers_eq_self {members : List (String × Json)}
    (h : ∀ member ∈ members, member.2.collapsed = member.2) :
    collapsedMembers members = members := by
  rw [collapsedMembers_eq_map]
  refine (List.map_congr_left fun member hmember => ?_).trans (List.map_id members)
  rw [h member hmember]
  rfl

mutual

theorem collapsed_collapsed (value : Json) : value.collapsed.collapsed = value.collapsed := by
  cases value with
  | null | bool _ | string _ | number _ => rfl
  | array items => exact congrArg Json.array (collapsedItems_collapsedItems items)
  | object members =>
    refine congrArg Json.object ?_
    rw [collapsedMembers_eq_self fun member hmember =>
      collapsed_of_mem_collapsedMembers members member (mem_ofMembers hmember)]
    exact ofMembers_eq_self (nodup_ofMembers _)

theorem collapsedItems_collapsedItems (items : List Json) :
    collapsedItems (collapsedItems items) = collapsedItems items := by
  cases items with
  | nil => rfl
  | cons item rest =>
    exact congrArg₂ List.cons (collapsed_collapsed item) (collapsedItems_collapsedItems rest)

theorem collapsed_of_mem_collapsedMembers (members : List (String × Json)) :
    ∀ member ∈ collapsedMembers members, member.2.collapsed = member.2 := by
  cases members with
  | nil => exact fun _ hmember => absurd hmember List.not_mem_nil
  | cons member rest =>
    exact List.forall_mem_cons.mpr
      ⟨collapsed_collapsed member.2, collapsed_of_mem_collapsedMembers rest⟩

end

/-- An object is settled in its names if its values are and no two of its members share one. -/
theorem collapsed_object_eq_self_iff {members : List (String × Json)} :
    (Json.object members).collapsed = .object members ↔
      (members.map (·.1)).Nodup ∧ ∀ member ∈ members, member.2.collapsed = member.2 := by
  constructor
  · intro h
    have hmembers : ofMembers (collapsedMembers members) = members := Json.object.inj h
    have hnodup := nodup_ofMembers (collapsedMembers members)
    refine ⟨hmembers ▸ hnodup, fun member hmember => ?_⟩
    rw [← hmembers] at hmember
    exact collapsed_of_mem_collapsedMembers members member (mem_ofMembers hmember)
  · rintro ⟨hnodup, hvalues⟩
    rw [collapsed, collapsedMembers_eq_self hvalues, ofMembers_eq_self hnodup]

/-! ### Settled values -/

theorem isSettled_parse? {text : String} {v : Json} (h : parse? text = some v) : IsSettled v := by
  unfold parse? at h
  obtain ⟨value, hvalue, hresult⟩ := Option.bind_eq_some_iff.mp h
  split at hresult
  · next hlimits =>
    cases hresult
    refine ⟨(depth_collapsed_le value).trans hlimits.1, fun n hn => ?_, collapsed_collapsed value⟩
    have hn := mem_numbers_of_collapsed value hn
    exact ⟨isKept_readWhole? hvalue n hn, isFinite_of_allFinite value hlimits.2 n hn⟩
  · cases hresult

/-- A settled value is read from its text, unless a number of it becomes infinite on the way. -/
theorem parse?_text {v : Json} (h : IsSettled v) :
    parse? (text v) = if v.reread.allFinite then some v.reread else none := by
  have hdepth : v.reread.depth ≤ maxDepth := (depth_reread v).trans_le h.depth
  unfold parse?
  rw [readWhole?_text h.kept, Option.bind_some, collapsed_reread, h.names]
  cases v.reread.allFinite with
  | true => exact if_pos ⟨hdepth, rfl⟩
  | false => exact if_neg fun hlimits => nomatch hlimits.2

theorem parse?_text_of_steady {v : Json} (h : IsSettled v) (hsteady : IsSteady v) :
    parse? (text v) = some v := by
  have hfinite := allFinite_of_isFinite v fun n hn => (h.kept n hn).2
  rw [parse?_text h, reread_eq_self v hsteady, if_pos hfinite]

/-- What is read from the text of a settled value is settled. -/
theorem IsSettled.reread {v : Json} (h : IsSettled v) (hfinite : v.reread.allFinite = true) :
    IsSettled v.reread := by
  refine ⟨(depth_reread v).trans_le h.depth, fun n hn => ⟨?_, ?_⟩, ?_⟩
  · exact isKept_numbers_reread (fun m hm => (h.kept m hm).1) n hn
  · exact isFinite_of_allFinite v.reread hfinite n hn
  · rw [collapsed_reread, h.names]

theorem IsSettled.nodup {members : List (String × Json)} (h : IsSettled (.object members)) :
    (members.map (·.1)).Nodup :=
  (collapsed_object_eq_self_iff.mp h.names).1

/-- The order of its members is nothing that settles an object. -/
theorem IsSettled.of_perm {members out : List (String × Json)} (h : IsSettled (.object members))
    (hperm : out.Perm members) : IsSettled (.object out) := by
  obtain ⟨hnodup, hvalues⟩ := collapsed_object_eq_self_iff.mp h.names
  refine ⟨?_, fun n hn => ?_, collapsed_object_eq_self_iff.mpr ⟨?_, ?_⟩⟩
  · refine Nat.succ_le_of_lt (Nat.lt_of_le_of_lt ?_ (Nat.lt_of_succ_le h.depth))
    exact depthMembers_le_iff.mpr fun member hmember =>
      depthMembers_le_iff.mp (Nat.le_refl _) member (hperm.mem_iff.mp hmember)
  · obtain ⟨member, hmember, hn⟩ := mem_numbersMembers.mp hn
    exact h.kept n (mem_numbersMembers.mpr ⟨member, hperm.mem_iff.mp hmember, hn⟩)
  · exact (hperm.map _).nodup_iff.mpr hnodup
  · exact fun member hmember => hvalues member (hperm.mem_iff.mp hmember)

end CallTracing.Json
