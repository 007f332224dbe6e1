/-
  CallTracing/Proofs/Payload/Views.lean
  =====================================
  **Payloads as values, and the caches that show them so.**

  A payload with repeatable answers is a value: a field of it is what the first accessor that it
  exposes answers (`Payload.field?`), and a path leads to one value (`Payload.at?`).

  A session reads a payload through its cache.  What the cache finds for the canonical fields of a
  payload does not change while this payload is read (`AccessorCache.Shows`).  Nor does it while
  another one is, unless the other has the same key, was not known, and has other accessors.  A
  cache that was filled by payloads which keep their contract towards a payload
  (`AccessorCache.Honours`) finds what that payload exposes.
-/
import CallTracing.Proofs.Payload.Readings

namespace CallTracing

open Reading

/-! ### Payloads as values -/

namespace Payload

/-- Whether every accessor answers the same each time that it is invoked. -/
def Repeatable (payload : Payload) : Prop :=
  ∀ accessor n m, payload.answer accessor n = payload.answer accessor m

/-- The contract of two payloads: with one key, they expose the same accessors. -/
def Agrees (p q : Payload) : Prop :=
  p.profileKey = q.profileKey → ∀ name, p.exposes name = q.exposes name

/-- The value of a field. -/
def field? (payload : Payload) (name : String) : Option FieldValue :=
  (payload.firstExposed (candidates name)).bind fun accessor =>
    (payload.answer accessor 0).given?

end Payload

/-- The value at the end of a path: into records by field, into maps by key. -/
def FieldValue.at? (value : FieldValue) : List String → Option FieldValue
  | [] => some value
  | name :: rest =>
    match value with
    | .record payload => (payload.field? name).bind fun next => next.at? rest
    | .map entries => (FieldValue.entry? name entries).bind fun next => next.at? rest
    | _ => none

/-- The value at the end of a path; an empty path leads nowhere. -/
def Payload.at? (root : Payload) (path : List String) : Option FieldValue :=
  if path = [] then none else FieldValue.at? (.record root) path

theorem Payload.at?_singleton (root : Payload) (name : String) :
    root.at? [name] = root.field? name := by
  show ((root.field? name).bind fun next => some next) = root.field? name
  cases root.field? name <;> rfl

/-! ### What a cache finds -/

namespace AccessorCache

/-- The accessor of a canonical field that a payload is read by: that of the profile which is known
for its key, or else its own. -/
def finds (cache : AccessorCache) (payload : Payload) (name : String) : Option String :=
  match cache.profiles.lookup payload.profileKey with
  | some known => known.accessor? name
  | none => (canonicalFields.lookup name).bind payload.firstExposed

theorem accessor?_profile_eq (cache : AccessorCache) (payload : Payload) (name : String) :
    (cache.profile payload).1.accessor? name = cache.finds payload name := by
  unfold finds
  cases h : cache.profiles.lookup payload.profileKey with
  | some known => rw [profile_of_known h]
  | none => rw [profile_of_new h, AccessorProfile.accessor?_discover]

theorem finds_profile_self (cache : AccessorCache) (payload : Payload) :
    (cache.profile payload).2.finds payload = cache.finds payload := by
  funext name
  rw [← accessor?_profile_eq, ← accessor?_profile_eq, profile_profile]

/-- To read another payload does not change what is found, but where it settles the profile of a
common key. -/
theorem finds_profile_other {cache : AccessorCache} {root other : Payload}
    (h : other.profileKey = root.profileKey →
      root.profileKey ∈ cache.keys ∨ ∀ name, other.exposes name = root.exposes name) :
    (cache.profile other).2.finds root = cache.finds root := by
  funext name
  cases hlookup : cache.profiles.lookup other.profileKey with
  | some known => rw [profile_of_known hlookup]
  | none =>
    by_cases hkey : other.profileKey = root.profileKey
    · rw [hkey] at hlookup
      rcases h hkey with hknown | hsame
      · exact absurd hknown (not_mem_keys_of_lookup hlookup)
      · have hnew := cache.lookup_profile other
        rw [hkey] at hnew
        simp only [finds, hnew, hlookup, accessor?_profile_eq]
        rw [hkey, hlookup, Payload.firstExposed_congr hsame]
    · simp only [finds, lookup_profile_of_ne hkey]

/-- A cache that finds the fields of `root` in a fixed way, also once `asked` is read. -/
structure Shows (root asked : Payload) (view : String → Option String) (cache : AccessorCache) :
    Prop where
  discovered : cache.Discovered
  finds : cache.finds root = view
  settled : asked.profileKey = root.profileKey →
    root.profileKey ∈ cache.keys ∨ ∀ name, asked.exposes name = root.exposes name

variable {root asked : Payload} {view : String → Option String}

theorem Shows.profile {cache : AccessorCache} (h : cache.Shows root asked view) (payload : Payload)
    (hpayload : payload = root ∨ payload = asked) :
    (cache.profile payload).2.Shows root asked view where
  discovered := h.discovered.profile payload
  finds := by
    rw [← h.finds]
    rcases hpayload with rfl | rfl
    · exact cache.finds_profile_self payload
    · exact finds_profile_other h.settled
  settled := by
    intro hkey
    rcases h.settled hkey with hknown | hsame
    · exact Or.inl ((mem_keys_profile payload root.profileKey).mpr (Or.inl hknown))
    · exact Or.inr hsame

theorem readable_of_shows {payload : Payload} (hpayload : payload = root ∨ payload = asked) :
    payload.Readable (Shows root asked view) fun _ => True where
  discovered := fun _ hcache => hcache.discovered
  profile := fun _ hcache => hcache.profile payload hpayload
  reports := fun _ _ => trivial

/-- A canonical field of a payload with repeatable answers is read as the cache shows it. -/
theorem maintains_read_shown (hrepeat : root.Repeatable) {name : String}
    (hname : (canonicalFields.lookup name).isSome) :
    Maintains (Session.Within (Shows root asked view) fun _ => True) (Session.read root name)
      fun value => value = (view name).bind fun accessor => (root.answer accessor 0).given? := by
  have hreadable : root.Readable (Shows root asked view) fun _ => True :=
    readable_of_shows (Or.inl rfl)
  refine (hreadable.maintains_read hname).imp ?_
  rintro value ⟨cache, hcache, n, rfl⟩
  rw [accessor?_profile_eq, hcache.finds]
  cases view name with
  | none => rfl
  | some accessor => exact congrArg Answer.given? (hrepeat accessor n 0)

/-! ### Caches of payloads that keep their contract -/

/-- A cache whose profiles were discovered on payloads that keep their contract towards a payload. -/
def Honours (cache : AccessorCache) (payload : Payload) : Prop :=
  ∀ key known, (key, known) ∈ cache.profiles →
    ∃ identity other, known = .discover identity other ∧ other.profileKey = key ∧
      other.Agrees payload

theorem honours_empty (payload : Payload) : Honours {} payload := fun _ _ hmem => nomatch hmem

variable {cache : AccessorCache} {payload : Payload}

theorem Honours.discovered (h : cache.Honours payload) : cache.Discovered := by
  intro key known hmem
  obtain ⟨identity, other, hknown, -, -⟩ := h key known hmem
  exact ⟨identity, other, hknown⟩

/-- Such a cache stays one as long as payloads are read that keep their contract. -/
theorem Honours.profile (h : cache.Honours payload) {other : Payload} (hagrees : other.Agrees payload) :
    (cache.profile other).2.Honours payload := by
  cases hlookup : cache.profiles.lookup other.profileKey with
  | some known =>
    rw [profile_of_known hlookup]
    exact h
  | none =>
    rw [profile_of_new hlookup]
    intro key known hmem
    rcases List.mem_append.mp hmem with hpast | hnew
    · exact h key known hpast
    · obtain ⟨rfl, rfl⟩ := Prod.mk.inj (List.mem_singleton.mp hnew)
      exact ⟨_, other, rfl, rfl, hagrees⟩

theorem Honours.finds (h : cache.Honours payload) (name : String) :
    cache.finds payload name = (canonicalFields.lookup name).bind payload.firstExposed := by
  unfold AccessorCache.finds
  cases hlookup : cache.profiles.lookup payload.profileKey with
  | none => rfl
  | some known =>
    obtain ⟨identity, other, rfl, hkey, hagrees⟩ := h _ known (mem_profiles_of_lookup hlookup)
    show (AccessorProfile.discover identity other).accessor? name = _
    rw [AccessorProfile.accessor?_discover, Payload.firstExposed_congr (hagrees hkey)]

end AccessorCache

end CallTracing
