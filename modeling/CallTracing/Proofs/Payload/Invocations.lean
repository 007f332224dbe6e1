/-
  CallTracing/Proofs/Payload/Invocations.lean
  ===========================================
  **What a reading gives where accessors answer differently each time.**

  An accessor may give a value, then nothing, then panic.  What a reading gives then depends on how
  often the accessor was invoked before, and this is counted by the session.  So a reading of a
  canonical field is described in full by three equations: it gives the next answer of the accessor
  that the cache finds (`value_read_next`), the profile of the payload is known from then on
  (`cache_read_canonical`), and this one accessor of this one payload was invoked once more
  (`invocationCount_read`).
-/
import CallTracing.Proofs.Payload.Views

namespace CallTracing

open Reading

namespace Session

/-- The session once the profile of a payload is known. -/
def knowing (session : Session) (payload : Payload) : Session :=
  { session with cache := (session.cache.profile payload).2 }

/-- What a field of a payload gives once its accessor has been invoked `n` more times. -/
def answerAfter (session : Session) (payload : Payload) (name : String) (n : Nat) :
    Option FieldValue :=
  (session.cache.finds payload name).bind fun accessor =>
    (payload.answer accessor (session.invocationCount payload accessor + n)).given?

/-- A profile that is known stays as it is. -/
theorem cache_knowing_of_known {session known : Session} {payload : Payload}
    (h : known.cache = (session.knowing payload).cache) :
    (known.knowing payload).cache = (session.knowing payload).cache := by
  unfold knowing at h ⊢
  rw [h, AccessorCache.profile_profile]

variable (session : Session) (payload other : Payload) (name accessor : String)

/-! ### Invoking an accessor -/

theorem invocationCount_countInvocation (counted : String) :
    ((countInvocation payload accessor).run session).2.invocationCount other counted =
      session.invocationCount other counted +
        if other.identity = payload.identity ∧ counted = accessor then 1 else 0 := by
  have hrun : ((countInvocation payload accessor).run session).2.invocations =
      ((payload.identity, accessor), session.invocationCount payload accessor + 1) ::
        session.invocations.filter (·.1 != (payload.identity, accessor)) := rfl
  unfold invocationCount at hrun ⊢
  rw [hrun, lookup_entry, lookup_removed]
  by_cases hsame : other.identity = payload.identity ∧ counted = accessor
  · obtain ⟨hidentity, rfl⟩ := hsame
    rw [if_pos (by rw [hidentity]), if_pos ⟨hidentity, rfl⟩, hidentity]
    rfl
  · have hne : ¬(other.identity, counted) = (payload.identity, accessor) := by
      rintro heq
      exact hsame (Prod.mk.inj heq)
    rw [if_neg hne, if_neg hne, if_neg hsame, Nat.add_zero]

/-- Whatever the accessor answers, it is counted. -/
theorem invocations_invoke :
    ((invoke payload accessor).run session).2.invocations =
      ((countInvocation payload accessor).run session).2.invocations := by
  rw [run_invoke]
  cases payload.answer accessor (session.invocationCount payload accessor) <;> rfl

theorem value_invoke_next :
    ((invoke payload accessor).run session).1 =
      (payload.answer accessor (session.invocationCount payload accessor)).given? := by
  rw [run_invoke]
  cases payload.answer accessor (session.invocationCount payload accessor) <;> rfl

/-! ### Reading a canonical field -/

theorem invocations_accessor? :
    ((accessor? payload name).run session).2.invocations = session.invocations := by
  have hprofile : ((profile payload).run session).2.invocations = session.invocations := by
    have hrun : (profile payload).run session =
        (if session.cache.size < (session.cache.profile payload).2.size then do
          report ⟨.debug, .accessors, "accessor profile discovered",
            [("type_name", (session.cache.profile payload).1.typeName),
              ("supported", toString (session.cache.profile payload).1.supported.length)]⟩
          pure (session.cache.profile payload).1
        else pure (session.cache.profile payload).1 : Reading AccessorProfile).run
          (session.knowing payload) := rfl
    rw [hrun]
    split <;> rfl
  exact hprofile

variable {session payload name}

theorem value_accessor? (hcache : session.cache.Discovered)
    (hname : (canonicalFields.lookup name).isSome) :
    ((accessor? payload name).run session).1 = session.cache.finds payload name := by
  obtain ⟨hfound, -⟩ := run_accessor? session payload name
  rw [hfound, hcache.accessor? payload hname, AccessorCache.accessor?_profile_eq]

theorem cache_read_canonical (hcache : session.cache.Discovered)
    (hname : (canonicalFields.lookup name).isSome) :
    ((read payload name).run session).2.cache = (session.knowing payload).cache := by
  rw [cache_read, hcache.accessor? payload hname]
  rfl

theorem value_read_next (hcache : session.cache.Discovered)
    (hname : (canonicalFields.lookup name).isSome) :
    ((read payload name).run session).1 = session.answerAfter payload name 0 := by
  have hcount : ∀ accessor, ((accessor? payload name).run session).2.invocationCount payload
      accessor = session.invocationCount payload accessor := by
    intro accessor
    unfold invocationCount
    rw [invocations_accessor?]
  rw [run_read, value_accessor? hcache hname, answerAfter]
  cases session.cache.finds payload name with
  | none => rfl
  | some accessor =>
    show ((invoke payload accessor).run _).1 = (payload.answer accessor _).given?
    rw [value_invoke_next, hcount, Nat.add_zero]

theorem invocationCount_read (hcache : session.cache.Discovered)
    (hname : (canonicalFields.lookup name).isSome) (other : Payload) (accessor : String) :
    ((read payload name).run session).2.invocationCount other accessor =
      session.invocationCount other accessor +
        if other.identity = payload.identity ∧ session.cache.finds payload name = some accessor
        then 1 else 0 := by
  have hcount : ∀ counted, ((accessor? payload name).run session).2.invocationCount other
      counted = session.invocationCount other counted := by
    intro counted
    unfold invocationCount
    rw [invocations_accessor?]
  rw [run_read, value_accessor? hcache hname]
  cases session.cache.finds payload name with
  | none => exact (hcount accessor).trans (by simp)
  | some found =>
    have hinvoke : ((invoke payload found).run
        ((accessor? payload name).run session).2).2.invocationCount other accessor =
        ((countInvocation payload found).run
          ((accessor? payload name).run session).2).2.invocationCount other accessor := by
      unfold invocationCount
      rw [invocations_invoke]
    refine hinvoke.trans ?_
    rw [invocationCount_countInvocation, hcount]
    simp only [Option.some.injEq, eq_comm]

end Session

namespace AccessorCache

variable {cache : AccessorCache} {payload : Payload} {name accessor : String}

/-- What is found for a field is one of the accessors that are looked for. -/
theorem Discovered.mem_candidates (h : cache.Discovered)
    (hname : (canonicalFields.lookup name).isSome)
    (hfound : cache.finds payload name = some accessor) : accessor ∈ candidates name := by
  obtain ⟨accessors, hlookup⟩ := Option.isSome_iff_exists.mp hname
  obtain ⟨identity, known, hknown⟩ := h.discover_profile payload
  rw [← accessor?_profile_eq, hknown, AccessorProfile.accessor?_discover, hlookup] at hfound
  rw [candidates_of_canonical hlookup]
  exact List.mem_of_find?_eq_some hfound

end AccessorCache

/-- What a field gives depends on the profiles and on how often its accessors were invoked. -/
theorem Session.answerAfter_congr {session session' : Session} {payload : Payload} {name : String}
    {n n' : Nat} (hcache : session.cache.Discovered) (hname : (canonicalFields.lookup name).isSome)
    (hfinds : session'.cache.finds payload name = session.cache.finds payload name)
    (hcount : ∀ accessor ∈ candidates name, session.cache.finds payload name = some accessor →
      session'.invocationCount payload accessor + n' =
        session.invocationCount payload accessor + n) :
    session'.answerAfter payload name n' = session.answerAfter payload name n := by
  unfold answerAfter
  rw [hfinds]
  cases hfound : session.cache.finds payload name with
  | none => rfl
  | some accessor =>
    have hmem := hcache.mem_candidates hname hfound
    rw [Option.bind_some, Option.bind_some, hcount accessor hmem hfound]

/-! ### Repeatable answers -/

/-- The value of a canonical field as a cache shows it, of a payload with repeatable answers. -/
def AccessorCache.field? (cache : AccessorCache) (payload : Payload) (name : String) :
    Option FieldValue :=
  (cache.finds payload name).bind fun accessor => (payload.answer accessor 0).given?

theorem Session.answerAfter_of_repeatable {payload : Payload} (h : payload.Repeatable)
    (session : Session) (name : String) (n : Nat) :
    session.answerAfter payload name n = session.cache.field? payload name := by
  unfold answerAfter AccessorCache.field?
  cases session.cache.finds payload name with
  | none => rfl
  | some accessor => exact congrArg Answer.given? (h accessor _ 0)

/-- Where payloads keep their contract, the cache shows the field itself. -/
theorem AccessorCache.Honours.field? {cache : AccessorCache} {payload : Payload}
    (h : cache.Honours payload) {name : String} (hname : (canonicalFields.lookup name).isSome) :
    cache.field? payload name = payload.field? name := by
  obtain ⟨accessors, hlookup⟩ := Option.isSome_iff_exists.mp hname
  unfold AccessorCache.field? Payload.field?
  rw [h.finds, hlookup, candidates_of_canonical hlookup]
  rfl

/-- To read a field leaves the other accessors alone. -/
theorem maintains_invocationCount {payload other : Payload} {name accessor : String} {n : Nat}
    (hname : (canonicalFields.lookup name).isSome) (hother : accessor ∉ candidates name) :
    Maintains (fun session => session.cache.Discovered ∧ session.invocationCount other accessor = n)
      (Session.read payload name) fun _ => True := by
  rintro session ⟨hcache, hcount⟩
  refine ⟨⟨?_, ?_⟩, trivial⟩
  · rw [Session.cache_read_canonical hcache hname]
    exact hcache.profile payload
  · have hne : ¬session.cache.finds payload name = some accessor :=
      fun hfound => hother (hcache.mem_candidates hname hfound)
    rw [Session.invocationCount_read hcache hname, if_neg (fun h => hne h.2), hcount, Nat.add_zero]

end CallTracing
