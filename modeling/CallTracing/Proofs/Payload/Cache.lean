/-
  CallTracing/Proofs/Payload/Cache.lean
  =====================================
  **What each operation of an accessor cache gives and leaves behind.**

  Under a canonical name a profile gives the first accessor that the payload exposed that it was
  discovered on (`accessor?_discover`).  A fresh cache gives the first accessor that the payload
  exposes among the candidates (`accessor?_fresh`), and a cache that was asked about one other
  payload gives that of the first payload of the key (`accessor?_after`).

  In a session the same holds: reading never touches the cache but through these operations, and
  invoking an accessor does not touch it at all, whatever the accessor does.
-/
import CallTracing.Payload.Accessor
import CallTracing.Proofs.Lists

namespace CallTracing

/-! ### Looking for accessors -/

theorem Payload.firstExposed_congr {p q : Payload}
    (h : ∀ name, p.exposes name = q.exposes name) : p.firstExposed = q.firstExposed := by
  have hexposes : p.exposes = q.exposes := funext h
  funext accessors
  rw [firstExposed, firstExposed, hexposes]

theorem candidates_of_canonical {name : String} {accessors : List String}
    (h : canonicalFields.lookup name = some accessors) : candidates name = accessors := by
  rw [candidates, h]

theorem candidates_of_other {name : String} (h : canonicalFields.lookup name = none) :
    candidates name = derivedCandidates name := by
  rw [candidates, h]

namespace AccessorProfile

variable (identity : Nat) (payload : Payload) (name : String)

theorem lookup_fields_discover (fields : List (String × List String)) :
    (fields.map fun field => (field.1, payload.firstExposed field.2)).lookup name =
      (fields.lookup name).map payload.firstExposed := by
  induction fields with
  | nil => rfl
  | cons field rest ih =>
    obtain ⟨canonical, accessors⟩ := field
    simp only [List.map_cons, List.lookup_cons, ih]
    split <;> rfl

theorem isCanonical_discover :
    (discover identity payload).isCanonical name = (canonicalFields.lookup name).isSome := by
  simp only [isCanonical, discover, lookup_fields_discover, Option.isSome_map]

theorem accessor?_discover :
    (discover identity payload).accessor? name =
      (canonicalFields.lookup name).bind payload.firstExposed := by
  simp only [accessor?, discover, lookup_fields_discover]
  cases canonicalFields.lookup name <;> rfl

end AccessorProfile

/-! ### The cache -/

namespace AccessorCache

variable {cache : AccessorCache} {payload : Payload} {name : String}

theorem profile_of_known {known : AccessorProfile}
    (h : cache.profiles.lookup payload.profileKey = some known) :
    cache.profile payload = (known, cache) := by
  rw [profile, h]

theorem profile_of_new (h : cache.profiles.lookup payload.profileKey = none) :
    cache.profile payload =
      (.discover cache.size payload,
        { cache with
          profiles :=
            cache.profiles ++ [(payload.profileKey, .discover cache.size payload)] }) := by
  rw [profile, h]

/-- What was given once is known from then on. -/
theorem lookup_profile (cache : AccessorCache) (payload : Payload) :
    (cache.profile payload).2.profiles.lookup payload.profileKey =
      some (cache.profile payload).1 := by
  cases h : cache.profiles.lookup payload.profileKey with
  | some known =>
    rw [profile_of_known h]
    exact h
  | none =>
    rw [profile_of_new h]
    simp [List.lookup_append, h]

/-- To ask again for a profile changes nothing. -/
theorem profile_profile (cache : AccessorCache) (payload : Payload) :
    (cache.profile payload).2.profile payload = cache.profile payload :=
  profile_of_known (cache.lookup_profile payload)

theorem derived_profile (cache : AccessorCache) (payload : Payload) :
    (cache.profile payload).2.derived = cache.derived := by
  cases h : cache.profiles.lookup payload.profileKey with
  | some known => rw [profile_of_known h]
  | none => rw [profile_of_new h]

theorem accessor?_of_canonical (h : (cache.profile payload).1.isCanonical name = true) :
    cache.accessor? payload name =
      ((cache.profile payload).1.accessor? name, (cache.profile payload).2) := by
  simp only [accessor?, if_pos h]

theorem accessor?_of_known {found : Option String}
    (h : (cache.profile payload).1.isCanonical name = false)
    (hknown : cache.derived.lookup (payload.profileKey, name) = some found) :
    cache.accessor? payload name = (found, (cache.profile payload).2) := by
  rw [← cache.derived_profile payload] at hknown
  simp only [accessor?, h, Bool.false_eq_true, if_false, hknown]

theorem accessor?_of_new (h : (cache.profile payload).1.isCanonical name = false)
    (hnew : cache.derived.lookup (payload.profileKey, name) = none) :
    cache.accessor? payload name =
      (payload.firstExposed (derivedCandidates name),
        { (cache.profile payload).2 with
          derived := cache.derived ++
            [((payload.profileKey, name), payload.firstExposed (derivedCandidates name))] }) := by
  rw [← cache.derived_profile payload] at hnew ⊢
  simp only [accessor?, h, Bool.false_eq_true, if_false, hnew]

theorem accessor?_profile (cache : AccessorCache) (payload : Payload) (name : String) :
    (cache.profile payload).2.accessor? payload name = cache.accessor? payload name := by
  simp only [accessor?, profile_profile]

/-! ### What a profile adds to the cache -/

/-- The profile keys that are known. -/
def keys (cache : AccessorCache) : List String := cache.profiles.map (·.1)

theorem mem_profiles_of_lookup {key : String} {known : AccessorProfile}
    (h : cache.profiles.lookup key = some known) : (key, known) ∈ cache.profiles := by
  obtain ⟨before, after, hsplit, -⟩ := List.lookup_eq_some_iff.mp h
  rw [hsplit]
  simp

theorem mem_keys_of_lookup {key : String} {known : AccessorProfile}
    (h : cache.profiles.lookup key = some known) : key ∈ cache.keys :=
  List.mem_map.mpr ⟨_, mem_profiles_of_lookup h, rfl⟩

theorem not_mem_keys_of_lookup {key : String} (h : cache.profiles.lookup key = none) :
    key ∉ cache.keys := by
  intro hmem
  obtain ⟨entry, hentry, rfl⟩ := List.mem_map.mp hmem
  have hne := List.lookup_eq_none_iff.mp h entry hentry
  simp at hne

theorem mem_keys_profile (payload : Payload) (key : String) :
    key ∈ (cache.profile payload).2.keys ↔ key ∈ cache.keys ∨ key = payload.profileKey := by
  cases h : cache.profiles.lookup payload.profileKey with
  | some known =>
    rw [profile_of_known h]
    constructor
    · exact Or.inl
    · rintro (hkey | rfl)
      · exact hkey
      · exact mem_keys_of_lookup h
  | none =>
    rw [profile_of_new h]
    simp [keys]

theorem nodup_keys_profile (payload : Payload) (hnodup : cache.keys.Nodup) :
    (cache.profile payload).2.keys.Nodup := by
  cases h : cache.profiles.lookup payload.profileKey with
  | some known =>
    rw [profile_of_known h]
    exact hnodup
  | none =>
    rw [profile_of_new h, keys, List.map_append, List.map_singleton]
    refine List.nodup_append.mpr ⟨hnodup, by simp, ?_⟩
    rintro key hkey other hother rfl
    rw [List.mem_singleton.mp hother] at hkey
    exact not_mem_keys_of_lookup h hkey

/-- Profiles are numbered in the order of their discovery. -/
theorem identities_profile (payload : Payload)
    (hidentities : cache.profiles.map (·.2.identity) = List.range cache.size) :
    (cache.profile payload).2.profiles.map (·.2.identity) =
      List.range (cache.profile payload).2.size := by
  cases h : cache.profiles.lookup payload.profileKey with
  | some known =>
    rw [profile_of_known h]
    exact hidentities
  | none =>
    rw [profile_of_new h]
    simp only [size, List.length_append, List.length_singleton, List.map_append, hidentities,
      List.map_singleton]
    exact List.range_succ.symm

theorem lookup_profile_of_some (payload : Payload) {key : String} {known : AccessorProfile}
    (h : cache.profiles.lookup key = some known) :
    (cache.profile payload).2.profiles.lookup key = some known := by
  cases hlookup : cache.profiles.lookup payload.profileKey with
  | some known => rw [profile_of_known hlookup, h]
  | none =>
    rw [profile_of_new hlookup, List.lookup_append, h]
    rfl

theorem of_lookup_profile {key : String} {found : AccessorProfile}
    (h : (cache.profile payload).2.profiles.lookup key = some found) :
    cache.profiles.lookup key = some found ∨
      key = payload.profileKey ∧ found = .discover cache.size payload := by
  cases hlookup : cache.profiles.lookup payload.profileKey with
  | some known =>
    rw [profile_of_known hlookup] at h
    exact Or.inl h
  | none =>
    rw [profile_of_new hlookup] at h
    exact lookup_snoc h

/-! ### What a cache finds -/

/-- What a cache gives that knows nothing of a payload's key. -/
theorem accessor?_of_unknown (hprofile : cache.profiles.lookup payload.profileKey = none)
    (hderived : cache.derived.lookup (payload.profileKey, name) = none) :
    (cache.accessor? payload name).1 = payload.firstExposed (candidates name) := by
  have hcanonical : (cache.profile payload).1.isCanonical name =
      (canonicalFields.lookup name).isSome := by
    rw [profile_of_new hprofile, AccessorProfile.isCanonical_discover]
  cases hlookup : canonicalFields.lookup name with
  | some accessors =>
    rw [hlookup] at hcanonical
    rw [accessor?_of_canonical hcanonical, profile_of_new hprofile,
      AccessorProfile.accessor?_discover, hlookup, candidates_of_canonical hlookup]
    rfl
  | none =>
    rw [hlookup] at hcanonical
    rw [accessor?_of_new hcanonical hderived, candidates_of_other hlookup]

theorem accessor?_fresh (payload : Payload) (name : String) :
    (({} : AccessorCache).accessor? payload name).1 = payload.firstExposed (candidates name) :=
  accessor?_of_unknown rfl rfl

/-- What is asked of one payload is remembered for all payloads of its key. -/
theorem accessor?_again {p q : Payload} (hkey : p.profileKey = q.profileKey) :
    (cache.accessor? p name).2.accessor? q name = cache.accessor? p name := by
  have hknown := cache.lookup_profile p
  rw [hkey] at hknown
  cases hcanonical : (cache.profile p).1.isCanonical name with
  | true =>
    rw [accessor?_of_canonical hcanonical]
    have hprofile : (cache.profile p).2.profile q = cache.profile p := profile_of_known hknown
    rw [accessor?_of_canonical (by rw [hprofile, hcanonical]), hprofile]
  | false =>
    cases hlookup : cache.derived.lookup (p.profileKey, name) with
    | some found =>
      rw [accessor?_of_known hcanonical hlookup]
      have hprofile : (cache.profile p).2.profile q = cache.profile p := profile_of_known hknown
      rw [accessor?_of_known (by rw [hprofile, hcanonical])
        (by rw [derived_profile, ← hkey, hlookup]), hprofile]
    | none =>
      rw [accessor?_of_new hcanonical hlookup]
      generalize hafter : ({ (cache.profile p).2 with
        derived := cache.derived ++
          [((p.profileKey, name), p.firstExposed (derivedCandidates name))] } :
            AccessorCache) = after
      have hprofile : after.profile q = ((cache.profile p).1, after) := by
        rw [← hafter]
        exact profile_of_known hknown
      rw [accessor?_of_known (by rw [hprofile, hcanonical]), hprofile]
      rw [← hafter, ← hkey]
      simp [List.lookup_append, hlookup]

theorem lookup_profile_of_ne {key : String} (hkey : payload.profileKey ≠ key) :
    (cache.profile payload).2.profiles.lookup key = cache.profiles.lookup key := by
  cases h : cache.profiles.lookup payload.profileKey with
  | some known => rw [profile_of_known h]
  | none =>
    rw [profile_of_new h]
    have hne : (key == payload.profileKey) = false := by simpa using Ne.symm hkey
    simp [List.lookup_append, List.lookup_cons, hne]

/-- Asking about one key tells nothing of another. -/
theorem accessor?_of_ne (cache : AccessorCache) {key : String} (hkey : payload.profileKey ≠ key)
    (name name' : String) :
    (cache.accessor? payload name).2.profiles.lookup key = cache.profiles.lookup key ∧
      (cache.accessor? payload name).2.derived.lookup (key, name') =
        cache.derived.lookup (key, name') := by
  cases hcanonical : (cache.profile payload).1.isCanonical name with
  | true =>
    rw [accessor?_of_canonical hcanonical, derived_profile]
    exact ⟨lookup_profile_of_ne hkey, rfl⟩
  | false =>
    cases hlookup : cache.derived.lookup (payload.profileKey, name) with
    | some found =>
      rw [accessor?_of_known hcanonical hlookup, derived_profile]
      exact ⟨lookup_profile_of_ne hkey, rfl⟩
    | none =>
      rw [accessor?_of_new hcanonical hlookup]
      refine ⟨lookup_profile_of_ne hkey, ?_⟩
      have hne : ((key, name') == (payload.profileKey, name)) = false := by
        simpa using fun h => absurd h.symm hkey
      simp [List.lookup_append, List.lookup_cons, hne]

/-- What a cache gives that was asked for the same field of one other payload: of two payloads with
one key, the first decides. -/
theorem accessor?_after (p q : Payload) (name : String) :
    ((({} : AccessorCache).accessor? p name).2.accessor? q name).1 =
      (if p.profileKey = q.profileKey then p else q).firstExposed (candidates name) := by
  by_cases hkey : p.profileKey = q.profileKey
  · rw [if_pos hkey, accessor?_again hkey, accessor?_fresh]
  · obtain ⟨hprofile, hderived⟩ := accessor?_of_ne {} hkey name name
    rw [if_neg hkey, accessor?_of_unknown hprofile hderived]

end AccessorCache

/-! ### Sessions -/

namespace Session

variable (session : Session) (payload : Payload) (name : String)

theorem run_profile :
    ((profile payload).run session).1 = (session.cache.profile payload).1 ∧
      ((profile payload).run session).2.cache = (session.cache.profile payload).2 := by
  have hrun : (profile payload).run session =
      (if session.cache.size < (session.cache.profile payload).2.size then do
        report ⟨.debug, .accessors, "accessor profile discovered",
          [("type_name", (session.cache.profile payload).1.typeName),
            ("supported", toString (session.cache.profile payload).1.supported.length)]⟩
        pure (session.cache.profile payload).1
      else pure (session.cache.profile payload).1 : Reading AccessorProfile).run
        { session with cache := (session.cache.profile payload).2 } := rfl
  rw [hrun]
  split <;> exact ⟨rfl, rfl⟩

theorem run_accessor? :
    ((accessor? payload name).run session).1 = (session.cache.accessor? payload name).1 ∧
      ((accessor? payload name).run session).2.cache =
        (session.cache.accessor? payload name).2 := by
  obtain ⟨-, hcache⟩ := run_profile session payload
  have hrun : (accessor? payload name).run session =
      ((((profile payload).run session).2.cache.accessor? payload name).1,
        { ((profile payload).run session).2 with
          cache := (((profile payload).run session).2.cache.accessor? payload name).2 }) := rfl
  rw [hrun, hcache, AccessorCache.accessor?_profile]
  exact ⟨rfl, rfl⟩

theorem run_read :
    (read payload name).run session =
      (match ((accessor? payload name).run session).1 with
        | some accessor => invoke payload accessor
        | none => pure none : Reading (Option FieldValue)).run
        ((accessor? payload name).run session).2 := rfl

theorem run_invoke (accessor : String) :
    (invoke payload accessor).run session =
      (match payload.answer accessor (session.invocationCount payload accessor) with
        | .value value => pure (some value)
        | .unset => pure none
        | .fails error => do
          report ⟨.debug, .accessors, "accessor invocation failed",
            [("type_name", payload.typeName), ("accessor", accessor), ("error", error.text)]⟩
          pure none
        | .panics => do
          report ⟨.debug, .accessors, "accessor invocation panicked",
            [("type_name", payload.typeName), ("accessor", accessor)]⟩
          pure none : Reading (Option FieldValue)).run
        ((countInvocation payload accessor).run session).2 := rfl

/-- Invoking an accessor leaves the cache alone, also where it fails or panics. -/
theorem cache_invoke (accessor : String) :
    ((invoke payload accessor).run session).2.cache = session.cache := by
  rw [run_invoke]
  cases payload.answer accessor (session.invocationCount payload accessor) <;> rfl

end Session

end CallTracing
