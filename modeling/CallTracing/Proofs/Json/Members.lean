/-
  CallTracing/Proofs/Json/Members.lean
  ====================================
  **Members by their names.**

  Where no name comes twice, a member is found by its name wherever it stands (`lookup_eq_some_iff`).
  Settling repeated names leaves such members (`nodup_ofMembers`), and changes nothing where they are
  such already (`ofMembers_eq_self`).  It looks at names only, so the values may be changed before it
  or behind it (`ofMembers_mapValues`).
-/
import CallTracing.Json.Basic
import CallTracing.Proofs.Json.Numbers

namespace CallTracing.Json

variable {name : String} {value : Json} {members : List (String × Json)}

theorem lookup_eq_some_iff (hnodup : (members.map (·.1)).Nodup) :
    lookup name members = some value ↔ (name, value) ∈ members := by
  refine ⟨mem_of_lookup, fun hmem => ?_⟩
  induction members with
  | nil => exact absurd hmem List.not_mem_nil
  | cons member rest ih =>
    obtain ⟨key, known⟩ := member
    rw [List.map_cons, List.nodup_cons] at hnodup
    rcases List.mem_cons.mp hmem with heq | hrest
    · obtain ⟨rfl, rfl⟩ := Prod.mk.inj heq
      simp [lookup]
    · have hne : ¬key = name := by
        rintro rfl
        exact hnodup.1 (List.mem_map.mpr ⟨_, hrest, rfl⟩)
      rw [lookup, if_neg hne]
      exact ih hnodup.2 hrest

theorem lookup_eq_none_iff : lookup name members = none ↔ name ∉ members.map (·.1) := by
  induction members with
  | nil => simp [lookup]
  | cons member rest ih =>
    by_cases hname : member.1 = name
    · simp [lookup, hname]
    · simp [lookup, hname, ih, Ne.symm hname]

/-! ### Repeated names -/

theorem setMember_of_not_mem (h : name ∉ members.map (·.1)) :
    setMember name value members = members ++ [(name, value)] := by
  induction members with
  | nil => rfl
  | cons member rest ih =>
    rw [List.map_cons, List.mem_cons, not_or] at h
    rw [setMember, if_neg (Ne.symm h.1), ih h.2]
    rfl

theorem names_setMember_of_mem (h : name ∈ members.map (·.1)) :
    (setMember name value members).map (·.1) = members.map (·.1) := by
  induction members with
  | nil => exact absurd h List.not_mem_nil
  | cons member rest ih =>
    rw [setMember]
    split
    · next hname => rw [List.map_cons, List.map_cons, hname]
    · next hname =>
      rw [List.map_cons, List.mem_cons] at h
      rw [List.map_cons, List.map_cons, ih (h.resolve_left (Ne.symm hname))]

theorem nodup_setMember (h : (members.map (·.1)).Nodup) :
    ((setMember name value members).map (·.1)).Nodup := by
  by_cases hname : name ∈ members.map (·.1)
  · rw [names_setMember_of_mem hname]
    exact h
  · rw [setMember_of_not_mem hname, List.map_append, List.nodup_append]
    refine ⟨h, List.pairwise_singleton _ _, ?_⟩
    rintro key hkey _ hmem rfl
    have hkeyName : key = name := List.mem_singleton.mp hmem
    exact hname (hkeyName ▸ hkey)

theorem nodup_ofMembers (members : List (String × Json)) :
    ((ofMembers members).map (·.1)).Nodup := by
  have hset : ∀ set : List (String × Json), (set.map (·.1)).Nodup →
      ((members.foldl (fun set member => setMember member.1 member.2 set) set).map (·.1)).Nodup := by
    induction members with
    | nil => exact fun set h => h
    | cons member rest ih => exact fun set h => ih _ (nodup_setMember h)
  exact hset [] List.nodup_nil

theorem ofMembers_eq_self (h : (members.map (·.1)).Nodup) : ofMembers members = members := by
  have hset : ∀ set : List (String × Json), ((set ++ members).map (·.1)).Nodup →
      members.foldl (fun set member => setMember member.1 member.2 set) set = set ++ members := by
    clear h
    induction members with
    | nil => exact fun set _ => (List.append_nil set).symm
    | cons member rest ih =>
      intro set hset
      have hnew : member.1 ∉ set.map (·.1) := by
        rw [List.map_append, List.nodup_append] at hset
        exact fun hmem => hset.2.2 _ hmem _ List.mem_cons_self rfl
      rw [List.foldl_cons, setMember_of_not_mem hnew, ih, List.append_assoc]
      · rfl
      · rw [List.append_assoc]
        exact hset
  exact hset [] h

/-! ### Other values under the same names -/

/-- Members with their values changed one by one. -/
def mapValues (f : Json → Json) (members : List (String × Json)) : List (String × Json) :=
  members.map fun member => (member.1, f member.2)

theorem names_mapValues (f : Json → Json) (members : List (String × Json)) :
    (mapValues f members).map (·.1) = members.map (·.1) := by
  unfold mapValues
  rw [List.map_map]
  rfl

theorem setMember_mapValues (f : Json → Json) (name : String) (value : Json)
    (members : List (String × Json)) :
    setMember name (f value) (mapValues f members) = mapValues f (setMember name value members) := by
  induction members with
  | nil => rfl
  | cons member rest ih =>
    show setMember name (f value) ((member.1, f member.2) :: mapValues f rest) = _
    rw [setMember, setMember, ih]
    split <;> rfl

theorem ofMembers_mapValues (f : Json → Json) (members : List (String × Json)) :
    ofMembers (mapValues f members) = mapValues f (ofMembers members) := by
  have hset : ∀ set : List (String × Json),
      (mapValues f members).foldl (fun set member => setMember member.1 member.2 set)
          (mapValues f set) =
        mapValues f (members.foldl (fun set member => setMember member.1 member.2 set) set) := by
    induction members with
    | nil => exact fun _ => rfl
    | cons member rest ih =>
      intro set
      rw [List.foldl_cons, ← ih (setMember member.1 member.2 set), ← setMember_mapValues]
      rfl
  exact hset []

end CallTracing.Json
