/-
  CallTracing/Proofs/Payload/History.lean
  =======================================
  **What a cache answers does not depend on what it was asked before.**

  The payloads are assumed to keep their contract (`SameByKey`): what is found on one of them is
  found on all of its key.  Then the searches of any run of lookups from an empty cache are
  `HistoryIndependent`.

  The invariant is `Remembers`, which says what the cache holds after some searches.  The two
  searches keep it (`Remembers.profile`, `Remembers.accessor?`), hence every lookup does, and runs
  do (`Lookup.keeps_noteAll`).
-/
import CallTracing.Proofs.Payload.Searches

namespace CallTracing

/-! ### The invariant -/

/-- The contract of payloads: what is found on one of them is found on all of its key. -/
def SameByKey (searches : List Search) : Prop :=
  ∀ s ∈ searches, ∀ t ∈ searches, s.payload.profileKey = t.payload.profileKey →
    ∀ name, s.payload.exposes name = t.payload.exposes name

theorem SameByKey.mono {first searches : List Search} (h : SameByKey searches)
    (hsub : first ⊆ searches) : SameByKey first :=
  fun s hs t ht => h s (hsub hs) t (hsub ht)

/-- What a cache holds after searches. -/
structure Remembers (cache : AccessorCache) (searches : List Search) : Prop where
  keys_nodup : cache.keys.Nodup
  mem_keys : ∀ key, key ∈ cache.keys ↔ key ∈ searches.map (·.payload.profileKey)
  identities : cache.profiles.map (·.2.identity) = List.range cache.size
  /-- Every profile was discovered on a payload of its key. -/
  profile_of : ∀ key known, cache.profiles.lookup key = some known →
    ∃ s ∈ searches, s.payload.profileKey = key ∧ ∃ identity, known = .discover identity s.payload
  /-- So was every accessor of another name. -/
  derived_of : ∀ key name found, cache.derived.lookup (key, name) = some found →
    ∃ s ∈ searches, s.payload.profileKey = key ∧
      found = s.payload.firstExposed (derivedCandidates name)
  profile_kept : ∀ payload found, .profile payload found ∈ searches →
    cache.profiles.lookup payload.profileKey = some found
  accessor_first : ∀ payload name found, .accessor payload name found ∈ searches →
    found = payload.firstExposed (candidates name)

theorem remembers_empty : Remembers {} [] where
  keys_nodup := List.nodup_nil
  mem_keys := by simp [AccessorCache.keys]
  identities := rfl
  profile_of := by simp
  derived_of := by simp
  profile_kept := by simp
  accessor_first := by simp

namespace Remembers

variable {cache : AccessorCache} {past : List Search} {new : Search}

/-- A search looks a profile up, which is in the cache from then on. -/
theorem search (h : Remembers cache past) (new : Search)
    (hprofile : ∀ payload found, new = .profile payload found →
      found = (cache.profile payload).1)
    (haccessor : ∀ payload name found, new = .accessor payload name found →
      found = payload.firstExposed (candidates name)) :
    Remembers (cache.profile new.payload).2 (past ++ [new]) where
  keys_nodup := AccessorCache.nodup_keys_profile _ h.keys_nodup
  mem_keys := by
    intro key
    rw [AccessorCache.mem_keys_profile, h.mem_keys, List.map_append, List.mem_append,
      List.map_singleton, List.mem_singleton]
  identities := AccessorCache.identities_profile _ h.identities
  profile_of := by
    intro key found hfound
    rcases AccessorCache.of_lookup_profile hfound with hpast | ⟨rfl, rfl⟩
    · obtain ⟨s, hs, hkey⟩ := h.profile_of key found hpast
      exact ⟨s, List.mem_append_left _ hs, hkey⟩
    · exact ⟨new, by simp, rfl, _, rfl⟩
  derived_of := by
    intro key name found hfound
    rw [AccessorCache.derived_profile] at hfound
    obtain ⟨s, hs, hkey⟩ := h.derived_of key name found hfound
    exact ⟨s, List.mem_append_left _ hs, hkey⟩
  profile_kept := by
    intro payload found hmem
    rcases List.mem_append.mp hmem with hpast | hnew
    · exact AccessorCache.lookup_profile_of_some _ (h.profile_kept payload found hpast)
    · obtain rfl := (List.mem_singleton.mp hnew).symm
      rw [hprofile payload found rfl]
      exact cache.lookup_profile payload
  accessor_first := by
    intro payload name found hmem
    rcases List.mem_append.mp hmem with hpast | hnew
    · exact h.accessor_first payload name found hpast
    · exact haccessor payload name found (List.mem_singleton.mp hnew).symm

/-- The accessor of another name may be remembered of a payload that was looked up. -/
theorem derive (h : Remembers cache past) {payload : Payload} (name : String)
    (hmem : ∃ s ∈ past, s.payload = payload) :
    Remembers
      { cache with
        derived := cache.derived ++
          [((payload.profileKey, name), payload.firstExposed (derivedCandidates name))] }
      past where
  keys_nodup := h.keys_nodup
  mem_keys := h.mem_keys
  identities := h.identities
  profile_of := h.profile_of
  derived_of := by
    intro key name' found hfound
    rcases lookup_snoc hfound with hpast | ⟨heq, rfl⟩
    · exact h.derived_of key name' found hpast
    · obtain ⟨rfl, rfl⟩ := Prod.mk.inj heq
      obtain ⟨s, hs, rfl⟩ := hmem
      exact ⟨s, hs, rfl, rfl⟩
  profile_kept := h.profile_kept
  accessor_first := h.accessor_first

theorem profile (h : Remembers cache past) (payload : Payload) :
    Remembers (cache.profile payload).2
      (past ++ [.profile payload (cache.profile payload).1]) := by
  refine h.search (.profile payload (cache.profile payload).1) ?_ ?_
  · rintro _ _ ⟨⟩
    rfl
  · rintro _ _ _ ⟨⟩

/-- The search of an accessor finds what there is on the payload itself, whatever is remembered. -/
theorem accessor? (h : Remembers cache past) (payload : Payload) (name : String)
    (hsame : SameByKey (past ++ [.accessor payload name (cache.accessor? payload name).1])) :
    Remembers (cache.accessor? payload name).2
      (past ++ [.accessor payload name (cache.accessor? payload name).1]) := by
  have hafter : ∀ found, found = payload.firstExposed (candidates name) →
      Remembers (cache.profile payload).2 (past ++ [.accessor payload name found]) := by
    rintro found rfl
    refine h.search (.accessor payload name (payload.firstExposed (candidates name))) ?_ ?_
    · rintro _ _ ⟨⟩
    · rintro _ _ _ ⟨⟩
      rfl
  -- every payload of this key has the accessors of this one
  have hexposed : ∀ s ∈ past, s.payload.profileKey = payload.profileKey →
      s.payload.firstExposed = payload.firstExposed := by
    intro s hs hkey
    refine Payload.firstExposed_congr ?_
    exact hsame s (List.mem_append_left _ hs)
      (.accessor payload name (cache.accessor? payload name).1) (by simp) hkey
  have hdiscovered : ∃ identity s, s.firstExposed = payload.firstExposed ∧
      (cache.profile payload).1 = .discover identity s := by
    obtain ⟨s, hs, hkey, identity, hknown⟩ :=
      (hafter _ rfl).profile_of _ _ (cache.lookup_profile payload)
    refine ⟨identity, s.payload, ?_, hknown⟩
    rcases List.mem_append.mp hs with hpast | hnew
    · exact hexposed s hpast hkey
    · rw [List.mem_singleton.mp hnew]
      rfl
  obtain ⟨identity, s, hs, hprofile⟩ := hdiscovered
  have hcanonical : (cache.profile payload).1.isCanonical name =
      (canonicalFields.lookup name).isSome := by
    rw [hprofile, AccessorProfile.isCanonical_discover]
  cases hlookup : canonicalFields.lookup name with
  | some accessors =>
    rw [hlookup] at hcanonical
    rw [AccessorCache.accessor?_of_canonical hcanonical]
    refine hafter _ ?_
    show (cache.profile payload).1.accessor? name = _
    rw [hprofile, AccessorProfile.accessor?_discover, hlookup, candidates_of_canonical hlookup,
      ← hs]
    rfl
  | none =>
    rw [hlookup] at hcanonical
    cases hderived : cache.derived.lookup (payload.profileKey, name) with
    | some found =>
      rw [AccessorCache.accessor?_of_known hcanonical hderived]
      obtain ⟨s, hs, hkey, hfound⟩ := h.derived_of _ _ _ hderived
      refine hafter found ?_
      rw [hfound, hexposed s hs hkey, candidates_of_other hlookup]
    | none =>
      rw [AccessorCache.accessor?_of_new hcanonical hderived]
      have hfirst := hafter (payload.firstExposed (derivedCandidates name))
        (by rw [candidates_of_other hlookup])
      have hderive := hfirst.derive name
        ⟨_, List.mem_append_right _ (List.mem_singleton_self _), rfl⟩
      rw [AccessorCache.derived_profile] at hderive
      exact hderive

end Remembers

/-! ### What a run of lookups keeps -/

section

variable {α : Type}

/-- A computation whose searches the cache remembers after it, together with those before. -/
def Keeps (m : Reading (α × List Search)) : Prop :=
  ∀ session past, Remembers session.cache past →
    SameByKey (past ++ (m.run session).1.2) →
    Remembers (m.run session).2.cache (past ++ (m.run session).1.2)

theorem keeps_pure (a : α) : Keeps (pure (a, []) : Reading (α × List Search)) := by
  intro session past h _
  rw [show (past ++ ((pure (a, []) : Reading (α × List Search)).run session).1.2) = past from
    List.append_nil past]
  exact h

/-- After a computation that keeps the cache, another one that does. -/
theorem keeps_bind {β γ : Type} {m : Reading (β × List Search)}
    {next : β → Reading (γ × List Search)} {join : β → γ → α}
    (hm : Keeps m) (hnext : ∀ b, Keeps (next b)) :
    Keeps (do
      let (b, searches) ← m
      let (c, later) ← next b
      pure (join b c, searches ++ later) : Reading (α × List Search)) := by
  intro session past h hsame
  have hrun : ((do
      let (b, searches) ← m
      let (c, later) ← next b
      pure (join b c, searches ++ later) : Reading (α × List Search)).run session) =
      ((join (m.run session).1.1 ((next (m.run session).1.1).run (m.run session).2).1.1,
          (m.run session).1.2 ++ ((next (m.run session).1.1).run (m.run session).2).1.2),
        ((next (m.run session).1.1).run (m.run session).2).2) := rfl
  rw [hrun] at hsame ⊢
  rw [← List.append_assoc] at hsame ⊢
  exact hnext _ _ _ (hm _ _ h (hsame.mono (List.subset_append_left _ _))) hsame

end

namespace Lookup

theorem keeps_noteRead (payload : Payload) (name : String) : Keeps (noteRead payload name) := by
  intro session past h hsame
  obtain ⟨hfound, hcache⟩ := Session.run_accessor? session payload name
  have hsearches : ((noteRead payload name).run session).1.2 =
      [.accessor payload name (session.cache.accessor? payload name).1] := by
    rw [run_noteRead, ← hfound]
    cases ((Session.accessor? payload name).run session).1 <;> rfl
  have hafter : ((noteRead payload name).run session).2.cache =
      (session.cache.accessor? payload name).2 := by
    rw [run_noteRead, ← hcache]
    cases ((Session.accessor? payload name).run session).1 with
    | none => rfl
    | some getter => exact Session.cache_invoke _ payload getter
  rw [hsearches] at hsame ⊢
  rw [hafter]
  exact h.accessor? payload name hsame

theorem keeps_noteFollow (value : FieldValue) (path : List String) :
    Keeps (noteFollow value path) := by
  induction path generalizing value with
  | nil => exact keeps_pure _
  | cons name rest ih =>
    cases value with
    | record payload =>
      intro session past h hsame
      rw [run_noteFollow_record] at hsame ⊢
      have hread := keeps_noteRead payload name session past h
      cases hnext : ((noteRead payload name).run session).1.1 with
      | none =>
        rw [hnext] at hsame
        exact hread hsame
      | some next =>
        rw [hnext] at hsame
        have hsame' : SameByKey (past ++ (((noteRead payload name).run session).1.2 ++
            ((noteFollow next rest).run ((noteRead payload name).run session).2).1.2)) := hsame
        rw [← List.append_assoc] at hsame'
        have hfollow := ih next _ _ (hread (hsame'.mono (List.subset_append_left _ _))) hsame'
        rw [List.append_assoc] at hfollow
        exact hfollow
    | map entries =>
      simp only [noteFollow]
      cases FieldValue.entry? name entries with
      | none => exact keeps_pure _
      | some next => exact ih next
    | _ => exact keeps_pure _

theorem keeps_note (lookup : Lookup) : Keeps lookup.note := by
  cases lookup with
  | profile payload =>
    intro session past h hsame
    obtain ⟨hfound, hcache⟩ := Session.run_profile session payload
    show Remembers ((Session.profile payload).run session).2.cache
      (past ++ [.profile payload ((Session.profile payload).run session).1])
    rw [hfound, hcache]
    exact h.profile payload
  | accessor payload name =>
    intro session past h hsame
    obtain ⟨hfound, hcache⟩ := Session.run_accessor? session payload name
    have hsame' : SameByKey
        (past ++ [.accessor payload name ((Session.accessor? payload name).run session).1]) := hsame
    show Remembers ((Session.accessor? payload name).run session).2.cache
      (past ++ [.accessor payload name ((Session.accessor? payload name).run session).1])
    rw [hfound] at hsame' ⊢
    rw [hcache]
    exact h.accessor? payload name hsame'
  | read payload name => exact keeps_noteRead payload name
  | resolve root path =>
    cases path with
    | nil => exact keeps_pure _
    | cons name rest => exact keeps_noteFollow (.record root) (name :: rest)

theorem keeps_noteAll (lookups : List Lookup) : Keeps (noteAll lookups) := by
  induction lookups with
  | nil => exact keeps_pure _
  | cons lookup rest ih => exact keeps_bind lookup.keeps_note fun _ => ih

end Lookup

/-! ### Independence of history -/

/-- What searches may rely on, whatever order they come in. -/
structure HistoryIndependent (cache : AccessorCache) (searches : List Search) : Prop where
  /-- Every accessor is the one that a fresh cache gives. -/
  accessor_fresh : ∀ payload name found, .accessor payload name found ∈ searches →
    found = (({} : AccessorCache).accessor? payload name).1
  /-- A key has one profile for good, and no two keys have the same. -/
  profile_eq_iff : ∀ payload found payload' found',
    .profile payload found ∈ searches → .profile payload' found' ∈ searches →
      (found = found' ↔ payload.profileKey = payload'.profileKey)
  /-- As many profiles are known as there were keys. -/
  size_eq : cache.size = (searches.map (·.payload.profileKey)).eraseDups.length

theorem Remembers.identity_getElem {cache : AccessorCache} {searches : List Search}
    (h : Remembers cache searches) (i : Nat) (hi : i < cache.profiles.length) :
    cache.profiles[i].2.identity = i := by
  have hat := congrArg (·[i]?) h.identities
  simp only [List.getElem?_map, List.getElem?_eq_getElem hi, Option.map_some,
    List.getElem?_range hi, AccessorCache.size] at hat
  exact Option.some.inj hat

theorem Remembers.historyIndependent {cache : AccessorCache} {searches : List Search}
    (h : Remembers cache searches) : HistoryIndependent cache searches where
  accessor_fresh := by
    intro payload name found hmem
    rw [AccessorCache.accessor?_fresh]
    exact h.accessor_first payload name found hmem
  profile_eq_iff := by
    intro payload found payload' found' hmem hmem'
    have hkept := h.profile_kept payload found hmem
    have hkept' := h.profile_kept payload' found' hmem'
    constructor
    · rintro rfl
      -- a profile stands at the place that its identity tells, so it stands at one place only
      obtain ⟨i, hi, hentry⟩ := List.mem_iff_getElem.mp (AccessorCache.mem_profiles_of_lookup hkept)
      obtain ⟨j, hj, hentry'⟩ :=
        List.mem_iff_getElem.mp (AccessorCache.mem_profiles_of_lookup hkept')
      have hidentity := h.identity_getElem i hi
      have hidentity' := h.identity_getElem j hj
      rw [hentry] at hidentity
      rw [hentry'] at hidentity'
      obtain rfl : i = j := hidentity.symm.trans hidentity'
      exact (Prod.mk.inj (hentry.symm.trans hentry')).1
    · intro hkey
      rw [hkey, hkept'] at hkept
      exact (Option.some.inj hkept).symm
  size_eq := by
    have hperm : cache.keys.Perm (searches.map (·.payload.profileKey)).eraseDups := by
      refine (List.perm_ext_iff_of_nodup h.keys_nodup (nodup_eraseDups _)).mpr fun key => ?_
      rw [List.mem_eraseDups, h.mem_keys]
    rw [← hperm.length_eq, AccessorCache.keys, List.length_map, AccessorCache.size]

/-- **The answers of a cache do not depend on its history.**  Whatever is asked of a cache that
starts empty, for whatever payloads that keep their contract, and whatever their accessors do, the
searches made are `HistoryIndependent`; and they are those of the lookups themselves. -/
theorem historyIndependent_lookups (lookups : List Lookup) (session : Session)
    (hempty : session.cache = {}) (hsame : SameByKey (Lookup.searches lookups session)) :
    let run := (Lookup.noteAll lookups).run session
    HistoryIndependent run.2.cache run.1.2 ∧
      (Lookup.answerAll lookups).run session = (run.1.1, run.2) := by
  intro run
  have hstart : Remembers session.cache [] := hempty ▸ remembers_empty
  have hremembers : Remembers run.2.cache run.1.2 :=
    Lookup.keeps_noteAll lookups session [] hstart hsame
  exact ⟨hremembers.historyIndependent, Lookup.answerAll_eq lookups session⟩

/-- The sender of a parcel.  To look for its topic panics. -/
def sender : Payload where
  identity := 0
  typeName := "Sender"
  profileKey := "Sender"
  probe := fun name => if name = "getTopicArn" then .panics else .absent
  answer := fun _ _ => .unset
  marshalled := none

/-- A parcel, which gives its sender.  Its queue is found, but reading it fails. -/
def parcel (identity : Nat) : Payload where
  identity := identity
  typeName := "Parcel"
  profileKey := "Parcel"
  probe := fun name => if name = "getQueueUrl" ∨ name = "sender" then .present else .absent
  answer := fun name _ => if name = "sender" then .value (.record sender) else .panics
  marshalled := none

/-- Lookups for two parcels of one key, in turn. -/
def parcelLookups : List Lookup :=
  [.profile (parcel 1), .read (parcel 2) "queueUrl", .resolve (parcel 1) ["sender", "topicArn"],
    .accessor (parcel 2) "sender", .profile (parcel 2)]

theorem parcelLookups_historyIndependent :
    let run := (Lookup.noteAll parcelLookups).run {}
    SameByKey (Lookup.searches parcelLookups {}) ∧
      HistoryIndependent run.2.cache run.1.2 ∧
        (Lookup.answerAll parcelLookups).run {} = (run.1.1, run.2) := by
  have hclosed : ClosedUnderReading fun payload => payload = sender ∨ ∃ n, payload = parcel n := by
    rintro payload hknown accessor n value hvalue reached hleads
    rcases hknown with rfl | ⟨n, rfl⟩
    · cases hvalue
    · by_cases hsender : accessor = "sender"
      · simp only [parcel, hsender, if_true, Answer.value.injEq] at hvalue
        subst hvalue
        cases hleads
        exact Or.inl rfl
      · simp only [parcel, hsender, if_false, reduceCtorEq] at hvalue
  have hparcels : ∀ lookup ∈ parcelLookups,
      lookup.payload = sender ∨ ∃ n, lookup.payload = parcel n := by
    intro lookup hlookup
    simp only [parcelLookups, List.mem_cons, List.not_mem_nil, or_false] at hlookup
    rcases hlookup with rfl | rfl | rfl | rfl | rfl
    · exact .inr ⟨1, rfl⟩
    · exact .inr ⟨2, rfl⟩
    · exact .inr ⟨1, rfl⟩
    · exact .inr ⟨2, rfl⟩
    · exact .inr ⟨2, rfl⟩
  have hknown := Lookup.known_of_mem_searches hclosed parcelLookups hparcels {}
  have hkeys : "Sender" ≠ "Parcel" := by decide
  have hsame : SameByKey (Lookup.searches parcelLookups {}) := by
    intro s hs t ht hkey name
    rcases hknown s hs with hs | ⟨n, hs⟩
    · rcases hknown t ht with ht | ⟨m, ht⟩
      · rw [hs, ht]
      · rw [hs, ht] at hkey
        exact absurd hkey hkeys
    · rcases hknown t ht with ht | ⟨m, ht⟩
      · rw [hs, ht] at hkey
        exact absurd hkey.symm hkeys
      · rw [hs, ht]
        rfl
  exact ⟨hsame, historyIndependent_lookups parcelLookups {} rfl hsame⟩

end CallTracing
