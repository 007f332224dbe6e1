/-
  CallTracing/Proofs/Json/Reread.lean
  ===================================
  **Values as they are read from their own text.**

  When a value is written and read again, what it is made of stays, except that each number becomes
  what the reader makes of its text (`Json.reread`).  Names, places and nesting are those of the
  value, so settling repeated names has nothing to do with it (`collapsed_reread`); and a value is
  the same again if each of its numbers is (`reread_eq_self`).
-/
import CallTracing.Proofs.Json.Members
import CallTracing.Proofs.Json.NumberText

namespace CallTracing.Json

mutual

/-- The value with each number as it is read from its text. -/
def reread : Json → Json
  | .array items => .array (rereadItems items)
  | .object members => .object (rereadMembers members)
  | .number n => .number n.reread
  | .null => .null
  | .bool b => .bool b
  | .string s => .string s

/-- Items with their numbers as they are read. -/
def rereadItems : List Json → List Json
  | [] => []
  | item :: rest => reread item :: rereadItems rest

/-- Members with their numbers as they are read. -/
def rereadMembers : List (String × Json) → List (String × Json)
  | [] => []
  | (name, value) :: rest => (name, reread value) :: rereadMembers rest

end

theorem rereadMembers_eq (members : List (String × Json)) :
    rereadMembers members = mapValues reread members := by
  induction members with
  | nil => rfl
  | cons member rest ih =>
    rw [rereadMembers, ih]
    rfl

/-! ### Numbers -/

mutual

theorem numbers_reread (v : Json) : numbers v.reread = (numbers v).map (·.reread) := by
  cases v with
  | null | bool _ | string _ | number _ => rfl
  | array items => exact numbersItems_reread items
  | object members => exact numbersMembers_reread members

theorem numbersItems_reread (items : List Json) :
    numbersItems (rereadItems items) = (numbersItems items).map (·.reread) := by
  cases items with
  | nil => rfl
  | cons item rest =>
    rw [rereadItems, numbersItems, numbersItems, numbers_reread item, numbersItems_reread rest,
      List.map_append]

theorem numbersMembers_reread (members : List (String × Json)) :
    numbersMembers (rereadMembers members) = (numbersMembers members).map (·.reread) := by
  cases members with
  | nil => rfl
  | cons member rest =>
    rw [rereadMembers, numbersMembers, numbersMembers, numbers_reread member.2,
      numbersMembers_reread rest, List.map_append]

end

theorem isKept_numbers_reread {v : Json} (h : ∀ n ∈ numbers v, n.IsKept) :
    ∀ n ∈ numbers v.reread, n.IsKept := by
  rw [numbers_reread]
  exact List.forall_mem_map.mpr fun n hn => JsonNumber.isKept_reread (h n hn)

/-- A value of which every number is read as it was written. -/
def IsSteady (v : Json) : Prop := ∀ n ∈ numbers v, n.reread = n

mutual

theorem reread_eq_self (v : Json) (h : IsSteady v) : v.reread = v := by
  cases v with
  | null | bool _ | string _ => rfl
  | number n => exact congrArg Json.number (h n List.mem_cons_self)
  | array items => exact congrArg Json.array (rereadItems_eq_self items h)
  | object members => exact congrArg Json.object (rereadMembers_eq_self members h)

theorem rereadItems_eq_self (items : List Json) (h : ∀ n ∈ numbersItems items, n.reread = n) :
    rereadItems items = items := by
  cases items with
  | nil => rfl
  | cons item rest =>
    obtain ⟨hitem, hrest⟩ := List.forall_mem_append.mp h
    rw [rereadItems, reread_eq_self item hitem, rereadItems_eq_self rest hrest]

theorem rereadMembers_eq_self (members : List (String × Json))
    (h : ∀ n ∈ numbersMembers members, n.reread = n) : rereadMembers members = members := by
  cases members with
  | nil => rfl
  | cons member rest =>
    obtain ⟨hvalue, hrest⟩ := List.forall_mem_append.mp h
    rw [rereadMembers, reread_eq_self member.2 hvalue, rereadMembers_eq_self rest hrest]

end

/-- Members in another order have the same numbers. -/
theorem isSteady_iff_of_perm {members out : List (String × Json)} (h : out.Perm members) :
    IsSteady (.object out) ↔ IsSteady (.object members) := by
  have hsame : ∀ n, n ∈ numbersMembers out ↔ n ∈ numbersMembers members := by
    intro n
    rw [mem_numbersMembers, mem_numbersMembers]
    simp only [h.mem_iff]
  exact forall_congr' fun n => imp_congr_left (hsame n)

/-! ### Nesting and names -/

mutual

theorem depth_reread (v : Json) : v.reread.depth = v.depth := by
  cases v with
  | null | bool _ | string _ | number _ => rfl
  | array items => exact congrArg (· + 1) (depthItems_reread items)
  | object members => exact congrArg (· + 1) (depthMembers_reread members)

theorem depthItems_reread (items : List Json) :
    depthItems (rereadItems items) = depthItems items := by
  cases items with
  | nil => rfl
  | cons item rest =>
    rw [rereadItems, depthItems, depthItems, depth_reread item, depthItems_reread rest]

theorem depthMembers_reread (members : List (String × Json)) :
    depthMembers (rereadMembers members) = depthMembers members := by
  cases members with
  | nil => rfl
  | cons member rest =>
    rw [rereadMembers, depthMembers, depthMembers, depth_reread member.2, depthMembers_reread rest]

end

mutual

/-- Settling repeated names and reading numbers again may change places. -/
theorem collapsed_reread (v : Json) : v.reread.collapsed = v.collapsed.reread := by
  cases v with
  | null | bool _ | string _ | number _ => rfl
  | array items => exact congrArg Json.array (collapsedItems_reread items)
  | object members =>
    refine congrArg Json.object ?_
    rw [collapsedMembers_reread members, rereadMembers_eq, rereadMembers_eq, ofMembers_mapValues]

theorem collapsedItems_reread (items : List Json) :
    collapsedItems (rereadItems items) = rereadItems (collapsedItems items) := by
  cases items with
  | nil => rfl
  | cons item rest =>
    rw [rereadItems, collapsedItems, collapsedItems, rereadItems, collapsed_reread item,
      collapsedItems_reread rest]

theorem collapsedMembers_reread (members : List (String × Json)) :
    collapsedMembers (rereadMembers members) = rereadMembers (collapsedMembers members) := by
  cases members with
  | nil => rfl
  | cons member rest =>
    rw [rereadMembers, collapsedMembers, collapsedMembers, rereadMembers,
      collapsed_reread member.2, collapsedMembers_reread rest]

end

end CallTracing.Json
