/-
  CallTracing/Proofs/Payload/Readings.lean
  ========================================
  **What readings of fields keep, and what they give.**

  `Maintains inv m post` says of a reading `m` that it keeps the invariant `inv` of sessions and that
  what it gives meets `post`.  The rules follow the way readings are put together; how a session is
  passed on need not be looked at again.

  Invariants have two parts (`Session.Within`): one on the cache, and one on every event of the log.
  For the canonical fields this is enough to describe a reading in full.  A cache whose profiles were
  all discovered (`AccessorCache.Discovered`) answers for them out of the profile of the payload and
  learns nothing but that profile; what is reported is one of three events (`Payload.Reports`).
-/
import CallTracing.Proofs.Payload.AssembledKey

namespace CallTracing

/-! ### Rules -/

namespace Reading

variable {α β : Type} {inv : Session → Prop} {m : Reading α} {post post' : α → Prop}

/-- A reading that keeps an invariant and gives what meets a condition. -/
def Maintains (inv : Session → Prop) (m : Reading α) (post : α → Prop) : Prop :=
  ∀ session, inv session → inv (m.run session).2 ∧ post (m.run session).1

theorem maintains_pure {a : α} (h : post a) : Maintains inv (pure a) post :=
  fun _ hsession => ⟨hsession, h⟩

theorem Maintains.bind {next : α → Reading β} {last : β → Prop} (h : Maintains inv m post)
    (hnext : ∀ a, post a → Maintains inv (next a) last) : Maintains inv (m >>= next) last := by
  intro session hsession
  obtain ⟨hkept, hpost⟩ := h session hsession
  exact hnext _ hpost _ hkept

theorem Maintains.imp (h : Maintains inv m post) (himp : ∀ a, post a → post' a) :
    Maintains inv m post' :=
  fun session hsession => ⟨(h session hsession).1, himp _ (h session hsession).2⟩

theorem maintains_trivial (m : Reading α) : Maintains (fun _ => True) m fun _ => True :=
  fun _ _ => ⟨trivial, trivial⟩

end Reading

open Reading

/-! ### Sessions -/

/-- A session whose cache and whose events are as they should be. -/
def Session.Within (shape : AccessorCache → Prop) (allowed : Event → Prop) (session : Session) :
    Prop :=
  shape session.cache ∧ ∀ event ∈ session.log, allowed event

/-- What reading canonical fields of a payload may report. -/
inductive Payload.Reports (payload : Payload) : Event → Prop where
  | discovered (supported : Nat) :
      Reports payload ⟨.debug, .accessors, "accessor profile discovered",
        [("type_name", payload.typeName), ("supported", toString supported)]⟩
  | failed {accessor : String} {n : Nat} {error : TraceError}
      (haccessor : accessor ∈ canonicalFields.flatMap (·.2))
      (hanswer : payload.answer accessor n = .fails error) :
      Reports payload ⟨.debug, .accessors, "accessor invocation failed",
        [("type_name", payload.typeName), ("accessor", accessor), ("error", error.text)]⟩
  | panicked {accessor : String} {n : Nat}
      (haccessor : accessor ∈ canonicalFields.flatMap (·.2))
      (hanswer : payload.answer accessor n = .panics) :
      Reports payload ⟨.debug, .accessors, "accessor invocation panicked",
        [("type_name", payload.typeName), ("accessor", accessor)]⟩

namespace AccessorCache

/-- Whether every profile was discovered on some payload. -/
def Discovered (cache : AccessorCache) : Prop :=
  ∀ key known, (key, known) ∈ cache.profiles →
    ∃ identity payload, known = .discover identity payload

theorem discovered_empty : Discovered {} := fun _ _ hmem => nomatch hmem

variable {cache : AccessorCache} {payload : Payload}

theorem Discovered.discover_profile (h : cache.Discovered) (payload : Payload) :
    ∃ identity known, (cache.profile payload).1 = .discover identity known := by
  cases hlookup : cache.profiles.lookup payload.profileKey with
  | some known =>
    rw [profile_of_known hlookup]
    exact h _ known (mem_profiles_of_lookup hlookup)
  | none =>
    rw [profile_of_new hlookup]
    exact ⟨_, payload, rfl⟩

theorem Discovered.profile (h : cache.Discovered) (payload : Payload) :
    (cache.profile payload).2.Discovered := by
  cases hlookup : cache.profiles.lookup payload.profileKey with
  | some known =>
    rw [profile_of_known hlookup]
    exact h
  | none =>
    rw [profile_of_new hlookup]
    intro key known hmem
    rcases List.mem_append.mp hmem with hpast | hnew
    · exact h key known hpast
    · obtain ⟨-, rfl⟩ := Prod.mk.inj (List.mem_singleton.mp hnew)
      exact ⟨_, payload, rfl⟩

/-- A canonical field is answered out of the profile of the payload. -/
theorem Discovered.accessor? (h : cache.Discovered) (payload : Payload) {name : String}
    (hname : (canonicalFields.lookup name).isSome) :
    cache.accessor? payload name =
      ((cache.profile payload).1.accessor? name, (cache.profile payload).2) := by
  obtain ⟨identity, known, hknown⟩ := h.discover_profile payload
  refine accessor?_of_canonical ?_
  rw [hknown, AccessorProfile.isCanonical_discover, hname]

theorem Discovered.accessor_mem (h : cache.Discovered) {name accessor : String}
    (hfound : (cache.profile payload).1.accessor? name = some accessor) :
    accessor ∈ canonicalFields.flatMap (·.2) := by
  obtain ⟨identity, known, hknown⟩ := h.discover_profile payload
  rw [hknown, AccessorProfile.accessor?_discover] at hfound
  obtain ⟨accessors, hlookup, hfirst⟩ := Option.bind_eq_some_iff.mp hfound
  obtain ⟨before, after, hsplit, -⟩ := List.lookup_eq_some_iff.mp hlookup
  refine List.mem_flatMap.mpr ⟨(name, accessors), ?_, List.mem_of_find?_eq_some hfirst⟩
  rw [hsplit]
  simp

end AccessorCache

/-! ### Reading fields -/

section

variable {shape : AccessorCache → Prop} {allowed : Event → Prop}

theorem maintains_report {event : Event} (h : allowed event) :
    Maintains (Session.Within shape allowed) (Session.report event) fun _ => True := by
  rintro session ⟨hcache, hlog⟩
  refine ⟨⟨hcache, fun other hother => ?_⟩, trivial⟩
  rcases List.mem_append.mp hother with hpast | hnew
  · exact hlog other hpast
  · rw [List.mem_singleton.mp hnew]
    exact h

/-- Payloads that can be read under an invariant: their profiles may enter the cache, and what
reading them reports may enter the log. -/
structure Payload.Readable (shape : AccessorCache → Prop) (allowed : Event → Prop)
    (payload : Payload) : Prop where
  discovered : ∀ cache, shape cache → cache.Discovered
  profile : ∀ cache, shape cache → shape (cache.profile payload).2
  reports : ∀ event, payload.Reports event → allowed event

variable {payload : Payload}

theorem Payload.Readable.maintains_profile (h : payload.Readable shape allowed) :
    Maintains (Session.Within shape allowed) (Session.profile payload) fun _ => True := by
  rintro session ⟨hcache, hlog⟩
  obtain ⟨-, hafter⟩ := Session.run_profile session payload
  refine ⟨⟨?_, ?_⟩, trivial⟩
  · rw [hafter]
    exact h.profile _ hcache
  -- only a profile that is new is reported, and it was discovered on this very payload
  · have hrun : (Session.profile payload).run session =
        (if session.cache.size < (session.cache.profile payload).2.size then do
          Session.report ⟨.debug, .accessors, "accessor profile discovered",
            [("type_name", (session.cache.profile payload).1.typeName),
              ("supported", toString (session.cache.profile payload).1.supported.length)]⟩
          pure (session.cache.profile payload).1
        else pure (session.cache.profile payload).1 : Reading AccessorProfile).run
          { session with cache := (session.cache.profile payload).2 } := rfl
    rw [hrun]
    split
    · next hgrown =>
      have htype : (session.cache.profile payload).1.typeName = payload.typeName := by
        cases hlookup : session.cache.profiles.lookup payload.profileKey with
        | some known =>
          rw [AccessorCache.profile_of_known hlookup] at hgrown
          exact absurd hgrown (Nat.lt_irrefl _)
        | none => rw [AccessorCache.profile_of_new hlookup]; rfl
      intro event hevent
      rcases List.mem_append.mp hevent with hpast | hnew
      · exact hlog event hpast
      · rw [List.mem_singleton.mp hnew, htype]
        exact h.reports _ (.discovered _)
    · exact hlog

theorem Payload.Readable.maintains_accessor? (h : payload.Readable shape allowed) {name : String}
    (hname : (canonicalFields.lookup name).isSome) :
    Maintains (Session.Within shape allowed) (Session.accessor? payload name) fun found =>
      ∃ cache, shape cache ∧ found = (cache.profile payload).1.accessor? name := by
  intro session hsession
  obtain ⟨⟨hcache, hlog⟩, -⟩ := h.maintains_profile session hsession
  obtain ⟨hfound, hafter⟩ := Session.run_accessor? session payload name
  rw [(h.discovered _ hsession.1).accessor? payload hname] at hfound hafter
  refine ⟨⟨?_, hlog⟩, session.cache, hsession.1, hfound⟩
  rw [hafter]
  exact h.profile _ hsession.1

theorem Payload.Readable.maintains_invoke (h : payload.Readable shape allowed) {accessor : String}
    (haccessor : accessor ∈ canonicalFields.flatMap (·.2)) :
    Maintains (Session.Within shape allowed) (Session.invoke payload accessor) fun value =>
      ∃ n, value = (payload.answer accessor n).given? := by
  intro session hsession
  have hcounted : Session.Within shape allowed
      ((Session.countInvocation payload accessor).run session).2 := hsession
  have hreported : ∀ event, payload.Reports event → Session.Within shape allowed
      ((Session.report event).run ((Session.countInvocation payload accessor).run session).2).2 :=
    fun event hevent => (maintains_report (h.reports event hevent) _ hcounted).1
  rw [Session.run_invoke]
  cases hanswer : payload.answer accessor (session.invocationCount payload accessor) with
  | value value => exact ⟨hcounted, _, by rw [hanswer]; rfl⟩
  | unset => exact ⟨hcounted, _, by rw [hanswer]; rfl⟩
  | fails error => exact ⟨hreported _ (.failed haccessor hanswer), _, by rw [hanswer]; rfl⟩
  | panics => exact ⟨hreported _ (.panicked haccessor hanswer), _, by rw [hanswer]; rfl⟩

/-- A canonical field is read through the accessor in the profile of the payload. -/
theorem Payload.Readable.maintains_read (h : payload.Readable shape allowed) {name : String}
    (hname : (canonicalFields.lookup name).isSome) :
    Maintains (Session.Within shape allowed) (Session.read payload name) fun value =>
      ∃ cache, shape cache ∧ ∃ n, value =
        ((cache.profile payload).1.accessor? name).bind fun accessor =>
          (payload.answer accessor n).given? := by
  refine (h.maintains_accessor? hname).bind ?_
  rintro found ⟨cache, hcache, hfound⟩
  cases found with
  | none => exact maintains_pure ⟨cache, hcache, 0, by rw [← hfound]; rfl⟩
  | some accessor =>
    have haccessor := (h.discovered cache hcache).accessor_mem hfound.symm
    refine (h.maintains_invoke haccessor).imp ?_
    rintro value ⟨n, rfl⟩
    exact ⟨cache, hcache, n, by rw [← hfound]; rfl⟩

end

/-- To follow a path of one field is to read it. -/
theorem Session.resolve_singleton (root : Payload) (name : String) :
    Session.resolve root [name] = Session.read root name := by
  refine Eq.trans (bind_congr fun value => ?_) (bind_pure (Session.read root name))
  cases value <;> rfl

end CallTracing
