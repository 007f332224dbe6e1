/-
  CallTracing/Attribute/Set.lean
  ==============================
  **The attributes gathered for one phase of a span.**

  A set is kept as a list of names with values, in the order in which the names first came.  That
  order is never shown: the view of a set is `get?`, and it is exported by `toKeyValues`, in
  ascending order of names.  Each write is described by one equation on `get?`, and `put_nodup`
  says that no name comes twice.
-/
import CallTracing.Attribute.Value

namespace CallTracing

/-- Attributes by name. -/
structure AttributeSet where
  entries : List (String × AttributeValue) := []
deriving DecidableEq, Repr

namespace AttributeSet

/-- The set without attributes. -/
def empty : AttributeSet := ⟨[]⟩

/-! ### Entries -/

/-- The value of the first entry of this name. -/
def find (name : String) : List (String × AttributeValue) → Option AttributeValue
  | [] => none
  | (key, value) :: rest => if key = name then some value else find name rest

/-- Write an entry: in its place if the name is there, at the end if not. -/
def write (name : String) (value : AttributeValue) :
    List (String × AttributeValue) → List (String × AttributeValue)
  | [] => [(name, value)]
  | (key, old) :: rest =>
    if key = name then (name, value) :: rest else (key, old) :: write name value rest

theorem find_write (name : String) (value : AttributeValue) (other : String)
    (entries : List (String × AttributeValue)) :
    find other (write name value entries) =
      if name = other then some value else find other entries := by
  induction entries with
  | nil => rfl
  | cons entry rest ih =>
    obtain ⟨key, old⟩ := entry
    by_cases hk : key = name
    · by_cases ho : name = other <;> simp_all [write, find]
    · by_cases ho : name = other
      · subst ho
        simp [write, find, hk, ih]
      · by_cases hko : key = other
        · subst hko
          simp [write, find, hk, ho]
        · simp [write, find, hk, ho, hko, ih]

theorem keys_write (name : String) (value : AttributeValue)
    (entries : List (String × AttributeValue)) :
    (write name value entries).map (·.1) =
      if name ∈ entries.map (·.1) then entries.map (·.1) else entries.map (·.1) ++ [name] := by
  induction entries with
  | nil => rfl
  | cons entry rest ih =>
    obtain ⟨key, old⟩ := entry
    by_cases hk : key = name
    · simp [write, hk]
    · have hk' : ¬ name = key := fun h => hk h.symm
      by_cases hm : name ∈ rest.map (·.1) <;> simp_all [write]

/-! ### Sets -/

/-- Write an attribute over whatever value its name had. -/
def put (set : AttributeSet) (name : String) (value : AttributeValue) : AttributeSet :=
  ⟨write name value set.entries⟩

/-- Write a text attribute, unless the text is empty. -/
def putNonEmpty (set : AttributeSet) (name : String) (value : String) : AttributeSet :=
  if value.isEmpty then set else set.put name (.text value)

/-- The value of an attribute. -/
def get? (set : AttributeSet) (name : String) : Option AttributeValue := find name set.entries

/-- The value of an attribute that is a text. -/
def getText? (set : AttributeSet) (name : String) : Option String :=
  (set.get? name).bind AttributeValue.text?

/-- Whether the attribute was written. -/
def contains (set : AttributeSet) (name : String) : Bool := (set.get? name).isSome

/-- How many attributes there are. -/
def size (set : AttributeSet) : Nat := set.entries.length

/-- Whether there are none. -/
def isEmpty (set : AttributeSet) : Bool := set.entries.isEmpty

/-- Write every attribute of another set. -/
def extend (set other : AttributeSet) : AttributeSet :=
  other.entries.foldl (fun sum entry => sum.put entry.1 entry.2) set

/-- A set written entry by entry. -/
def ofList (entries : List (String × AttributeValue)) : AttributeSet := empty.extend ⟨entries⟩

/-- Whether one entry's name is at most another's, character by character. -/
def nameLe (a b : String × AttributeValue) : Bool := decide (a.1 ≤ b.1)

/-- The attributes in ascending order of names. -/
def toKeyValues (set : AttributeSet) : List (String × AttributeValue) :=
  set.entries.mergeSort nameLe

/-! ### Laws -/

theorem get?_empty (name : String) : empty.get? name = none := rfl

theorem get?_put (set : AttributeSet) (name : String) (value : AttributeValue) (other : String) :
    (set.put name value).get? other = if name = other then some value else set.get? other :=
  find_write name value other set.entries

theorem put_nodup {set : AttributeSet} (h : (set.entries.map (·.1)).Nodup) (name : String)
    (value : AttributeValue) : ((set.put name value).entries.map (·.1)).Nodup := by
  rw [put, keys_write]
  split
  · exact h
  · next hm =>
    rw [List.nodup_append]
    refine ⟨h, by simp, ?_⟩
    intro a ha b hb
    simp only [List.mem_singleton] at hb
    subst hb
    rintro rfl
    exact hm ha

end AttributeSet

end CallTracing
