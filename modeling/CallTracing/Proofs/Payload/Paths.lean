/-
  CallTracing/Proofs/Payload/Paths.lean
  =====================================
  **Paths lead where the payloads say, whatever the cache has seen.**

  A path from a payload with repeatable answers has an end that needs no cache to be told
  (`Payload.at?`): it goes into a record by the first accessor that the record exposes, and into a map
  by the key.  A session gets there through its cache, which learns on the way.

  The invariant is that the cache holds what searches for payloads have left that keep their contract
  (`Session.RemembersOf`).  So it is after any run of lookups (`remembersOf_of_reached`), a search keeps
  it and finds what the payload itself exposes, and hence a path is followed to its end
  (`maintains_resolve`).  Ends compose (`FieldValue.at?_append`), and so do paths.
-/
import CallTracing.Proofs.Payload.History
import CallTracing.Proofs.Payload.Invocations

namespace CallTracing

open Reading

/-! ### Ends of paths -/

theorem FieldValue.at?_append (value : FieldValue) (p q : List String) :
    value.at? (p ++ q) = (value.at? p).bind fun next => next.at? q := by
  induction p generalizing value with
  | nil => rfl
  | cons name rest ih =>
    cases value with
    | record payload =>
      simp only [List.cons_append, FieldValue.at?]
      cases payload.field? name with
      | none => rfl
      | some next => exact ih next
    | map entries =>
      simp only [List.cons_append, FieldValue.at?]
      cases FieldValue.entry? name entries with
      | none => rfl
      | some next => exact ih next
    | _ => rfl

theorem Payload.at?_append (root : Payload) {p : List String} (hp : p ≠ []) (q : List String) :
    root.at? (p ++ q) = (root.at? p).bind fun next => next.at? q := by
  unfold Payload.at?
  rw [if_neg hp, if_neg (List.append_ne_nil_of_left_ne_nil hp q), FieldValue.at?_append]

/-- The payloads that a payload leads to, itself included. -/
inductive Payload.Reaches (root : Payload) : Payload → Prop where
  | refl : Reaches root root
  | step {payload reached : Payload} {accessor : String} {n : Nat} {value : FieldValue}
      (hpayload : Reaches root payload) (hanswer : payload.answer accessor n = .value value)
      (hleads : value.Leads reached) : Reaches root reached

theorem Payload.Reaches.within {root payload : Payload} (h : root.Reaches payload) {name : String}
    {value : FieldValue} (hvalue : payload.field? name = some value) :
    ∀ reached, value.Leads reached → root.Reaches reached := by
  obtain ⟨accessor, -, hgiven⟩ := Option.bind_eq_some_iff.mp hvalue
  cases hanswer : payload.answer accessor 0 with
  | value read =>
    rw [hanswer] at hgiven
    obtain rfl := Option.some.inj hgiven
    exact fun reached hleads => h.step hanswer hleads
  | _ =>
    rw [hanswer] at hgiven
    cases hgiven

/-! ### Caches of payloads that keep their contract -/

/-- Payloads that keep their contract, with all that they lead to. -/
structure KeepContract (known : Payload → Prop) : Prop where
  closed : ClosedUnderReading known
  agrees : ∀ p q, known p → known q → p.Agrees q

namespace Session

/-- A session after lookups for such payloads, with a cache that was empty at first. -/
def Reached (known : Payload → Prop) (session : Session) : Prop :=
  ∃ start lookups, start.cache = {} ∧ (∀ lookup ∈ lookups, known (Lookup.payload lookup)) ∧
    session = ((Lookup.answerAll lookups).run start).2

/-- A session whose cache holds what searches for such payloads have left. -/
def RemembersOf (known : Payload → Prop) (session : Session) : Prop :=
  ∃ past, Remembers session.cache past ∧ ∀ s ∈ past, known s.payload

end Session

namespace KeepContract

variable {known : Payload → Prop} {root payload : Payload}

theorem sameByKey (h : KeepContract known) {searches : List Search}
    (hsearches : ∀ s ∈ searches, known s.payload) : SameByKey searches :=
  fun s hs t ht hkey => h.agrees _ _ (hsearches s hs) (hsearches t ht) hkey

theorem known_of_reaches (h : KeepContract known) (hroot : known root)
    (hreaches : root.Reaches payload) : known payload := by
  induction hreaches with
  | refl => exact hroot
  | step _ hanswer hleads ih => exact h.closed _ ih _ _ _ hanswer _ hleads

theorem remembersOf_of_reached (h : KeepContract known) {session : Session}
    (hsession : session.Reached known) : session.RemembersOf known := by
  obtain ⟨start, lookups, hempty, hpayloads, rfl⟩ := hsession
  have hknown := Lookup.known_of_mem_searches h.closed lookups hpayloads start
  have hstart : Remembers start.cache [] := hempty ▸ remembers_empty
  rw [Lookup.answerAll_eq]
  exact ⟨_, Lookup.keeps_noteAll lookups start [] hstart (h.sameByKey hknown), hknown⟩

/-! ### Reading -/

/-- What is found is what the payload exposes, whatever is remembered. -/
theorem maintains_accessor? (h : KeepContract known) (hpayload : known payload) (name : String) :
    Maintains (Session.RemembersOf known) (Session.accessor? payload name) fun found =>
      found = payload.firstExposed (candidates name) := by
  rintro session ⟨past, hremembers, hpast⟩
  obtain ⟨hfound, hcache⟩ := Session.run_accessor? session payload name
  -- this search is one more of those that the cache holds, so its result is right by the invariant
  have hall : ∀ s ∈ past ++ [.accessor payload name (session.cache.accessor? payload name).1],
      known s.payload :=
    List.forall_mem_append.mpr ⟨hpast, List.forall_mem_singleton.mpr hpayload⟩
  have hafter := hremembers.accessor? payload name (h.sameByKey hall)
  rw [← hcache] at hafter
  refine ⟨⟨_, hafter, hall⟩, ?_⟩
  rw [hfound]
  exact hafter.accessor_first payload name _ (by simp)

theorem maintains_invoke (hrepeat : payload.Repeatable) (accessor : String) :
    Maintains (Session.RemembersOf known) (Session.invoke payload accessor) fun value =>
      value = (payload.answer accessor 0).given? := by
  rintro session ⟨past, hremembers, hpast⟩
  refine ⟨⟨past, ?_, hpast⟩, ?_⟩
  · rw [Session.cache_invoke]
    exact hremembers
  · rw [Session.value_invoke_next]
    exact congrArg Answer.given? (hrepeat accessor _ 0)

theorem maintains_read (h : KeepContract known) (hpayload : known payload)
    (hrepeat : payload.Repeatable) (name : String) :
    Maintains (Session.RemembersOf known) (Session.read payload name) fun value =>
      value = payload.field? name := by
  refine (h.maintains_accessor? hpayload name).bind fun found hfound => ?_
  unfold Payload.field?
  rw [← hfound]
  cases found with
  | none => exact maintains_pure rfl
  | some accessor => exact maintains_invoke hrepeat accessor

theorem maintains_follow (h : KeepContract known) (hroot : known root)
    (hrepeat : ∀ payload, root.Reaches payload → payload.Repeatable) (value : FieldValue)
    (path : List String) (hvalue : ∀ reached, value.Leads reached → root.Reaches reached) :
    Maintains (Session.RemembersOf known) (Session.follow value path) fun last =>
      last = value.at? path := by
  induction path generalizing value with
  | nil => exact maintains_pure rfl
  | cons name rest ih =>
    cases value with
    | record payload =>
      have hreaches := hvalue payload (.record payload)
      have hread := h.maintains_read (h.known_of_reaches hroot hreaches) (hrepeat _ hreaches) name
      refine hread.bind fun next hnext => ?_
      simp only [FieldValue.at?]
      rw [← hnext]
      cases next with
      | none => exact maintains_pure rfl
      | some next => exact ih next (hreaches.within hnext.symm)
    | map entries =>
      -- no accessor is looked for in a map, so the cache stays as it is
      simp only [Session.follow, FieldValue.at?]
      cases hentry : FieldValue.entry? name entries with
      | none => exact maintains_pure rfl
      | some next => exact ih next fun reached hleads => hvalue reached (.entry hentry hleads)
    | _ => exact maintains_pure rfl

theorem maintains_resolve (h : KeepContract known) (hroot : known root)
    (hrepeat : ∀ payload, root.Reaches payload → payload.Repeatable) (path : List String) :
    Maintains (Session.RemembersOf known) (Session.resolve root path) fun last =>
      last = root.at? path := by
  cases path with
  | nil => exact maintains_pure rfl
  | cons name rest =>
    refine h.maintains_follow hroot hrepeat (.record root) (name :: rest) ?_
    rintro reached ⟨⟩
    exact .refl

end KeepContract

/-- **Paths compose, and lead where the payloads say.**  Whatever the caches have seen of payloads that
keep their contract: a path leads to its end, and a path that goes on leads to where the rest of it
leads from the end of its first part, or nowhere if that leads nowhere. -/
theorem resolve_append {known : Payload → Prop} (h : KeepContract known) {root : Payload}
    (hroot : known root) (hrepeat : ∀ payload, root.Reaches payload → payload.Repeatable)
    {session session' : Session} (hsession : session.Reached known)
    (hsession' : session'.Reached known) :
    (∀ path, ((Session.resolve root path).run session).1 = root.at? path) ∧
    ∀ p q, p ≠ [] → ((Session.resolve root (p ++ q)).run session).1 =
      (((Session.resolve root p).run session').1).bind fun value => value.at? q := by
  have hresolve : ∀ {session : Session}, session.Reached known → ∀ path,
      ((Session.resolve root path).run session).1 = root.at? path := by
    intro session hsession path
    exact (h.maintains_resolve hroot hrepeat path session (h.remembersOf_of_reached hsession)).2
  refine ⟨hresolve hsession, fun p q hp => ?_⟩
  rw [hresolve hsession, hresolve hsession', Payload.at?_append root hp]

/-- The customer of an order.  To look for a topic panics. -/
def customer : Payload where
  identity := 0
  typeName := "Customer"
  profileKey := "Customer"
  probe := fun name =>
    if name = "getName" then .present else if name = "getTopicArn" then .panics else .absent
  answer := fun name _ => if name = "getName" then .value (.text "ada") else .panics
  marshalled := none

/-- An order, with its customer in a map. -/
def order (identity : Nat) : Payload where
  identity := identity
  typeName := "Order"
  profileKey := "Order"
  probe := fun name => if name = "getBody" ∨ name = "name" then .present else .absent
  answer := fun name _ =>
    if name = "getBody" then .value (.map [("name", .record customer)]) else .panics
  marshalled := none

/-- A session in which another order was asked, and the customer for a topic. -/
def ordersSession : Session :=
  ((Lookup.answerAll
    [.read (order 2) "name", .read customer "topicArn", .resolve (order 2) ["body"]]).run {}).2

/-- `name` is a key of the map first, and then a field of the customer with a getter. -/
theorem ordersSession_resolve :
    let known := fun payload => payload = customer ∨ ∃ n, payload = order n
    KeepContract known ∧ known (order 1) ∧
    (∀ payload, (order 1).Reaches payload → payload.Repeatable) ∧ ordersSession.Reached known ∧
    ((((Session.resolve (order 1) (["body", "name"] ++ ["name"])).run ordersSession).1).bind
      FieldValue.text?) = some "ada" := by
  intro known
  have hclosed : ClosedUnderReading known := by
    rintro payload (rfl | ⟨n, rfl⟩) accessor count value hvalue reached hleads
    · by_cases hname : accessor = "getName"
      · simp only [customer, hname, if_true, Answer.value.injEq] at hvalue
        subst hvalue
        cases hleads
      · simp only [customer, hname, if_false, reduceCtorEq] at hvalue
    · by_cases hbody : accessor = "getBody"
      · simp only [order, hbody, if_true, Answer.value.injEq] at hvalue
        subst hvalue
        cases hleads with
        | entry hentry hleads =>
          simp only [FieldValue.entry?, Option.ite_none_right_eq_some, Option.some.injEq] at hentry
          obtain ⟨-, rfl⟩ := hentry
          cases hleads
          exact Or.inl rfl
      · simp only [order, hbody, if_false, reduceCtorEq] at hvalue
  have hagrees : ∀ p q, known p → known q → p.Agrees q := by
    have hkeys : "Customer" ≠ "Order" := by decide
    rintro p q (rfl | ⟨n, rfl⟩) (rfl | ⟨m, rfl⟩) hkey name
    · rfl
    · exact absurd hkey hkeys
    · exact absurd hkey.symm hkeys
    · rfl
  have hcontract : KeepContract known := ⟨hclosed, hagrees⟩
  have hroot : known (order 1) := Or.inr ⟨1, rfl⟩
  have hrepeat : ∀ payload, (order 1).Reaches payload → payload.Repeatable := by
    intro payload hreaches accessor n m
    rcases hcontract.known_of_reaches hroot hreaches with rfl | ⟨k, rfl⟩ <;> rfl
  have hreached : ordersSession.Reached known := by
    refine ⟨{}, _, rfl, ?_, rfl⟩
    simp only [List.forall_mem_cons, Lookup.payload]
    exact ⟨Or.inr ⟨2, rfl⟩, Or.inl rfl, Or.inr ⟨2, rfl⟩, List.forall_mem_nil _⟩
  refine ⟨hcontract, hroot, hrepeat, hreached, ?_⟩
  obtain ⟨hpath, -⟩ := resolve_append hcontract hroot hrepeat hreached hreached
  rw [hpath]
  decide +kernel

end CallTracing
