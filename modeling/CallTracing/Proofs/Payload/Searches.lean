/-
  CallTracing/Proofs/Payload/Searches.lean
  ========================================
  **Lookups, and the searches that they make in the cache.**

  A `Lookup` is what can be asked of the one cache of a session: a profile, an accessor, a field, or
  the end of a path.  A lookup looks accessors up for one payload or more, a path for every record
  that it comes through; each of these is a `Search`, and `Lookup.noteAll` runs lookups with their
  searches written down.  Writing them down changes nothing (`Lookup.answerAll_eq`), and only
  payloads are looked up that the lookups start from or that are read off such
  (`Lookup.known_of_mem_searches`).
-/
import CallTracing.Proofs.Payload.Cache

namespace CallTracing

/-! ### Lookups -/

/-- What can be asked of a cache. -/
inductive Lookup where
  | profile (payload : Payload)
  | accessor (payload : Payload) (name : String)
  | read (payload : Payload) (name : String)
  | resolve (root : Payload) (path : List String)

/-- What a lookup comes back with. -/
inductive Found where
  | profile (found : AccessorProfile)
  | accessor (found : Option String)
  | value (found : Option FieldValue)

/-- A look into the cache for a payload, with what was found. -/
inductive Search where
  | profile (payload : Payload) (found : AccessorProfile)
  | accessor (payload : Payload) (name : String) (found : Option String)

/-- The payload that was looked up. -/
def Search.payload : Search → Payload
  | .profile payload _ => payload
  | .accessor payload _ _ => payload

namespace Lookup

/-- Answer a lookup. -/
def answer : Lookup → Reading Found
  | .profile payload => .profile <$> Session.profile payload
  | .accessor payload name => .accessor <$> Session.accessor? payload name
  | .read payload name => .value <$> Session.read payload name
  | .resolve root path => .value <$> Session.resolve root path

/-- Answer lookups one after the other. -/
def answerAll : List Lookup → Reading (List Found)
  | [] => return []
  | lookup :: rest => do
    let found ← lookup.answer
    let later ← answerAll rest
    return found :: later

/-! ### Lookups with their searches -/

/-- Read a field: search its accessor, and invoke the one that is found. -/
def noteRead (payload : Payload) (name : String) :
    Reading (Option FieldValue × List Search) := do
  let found ← Session.accessor? payload name
  match found with
  | some getter =>
    let value ← Session.invoke payload getter
    return (value, [.accessor payload name found])
  | none => return (none, [.accessor payload name found])

/-- Follow the rest of a path, with a search for each record on the way. -/
def noteFollow (value : FieldValue) :
    List String → Reading (Option FieldValue × List Search)
  | [] => return (some value, [])
  | name :: rest =>
    match value with
    | .record payload => do
      let (next, searches) ← noteRead payload name
      match next with
      | some next =>
        let (last, later) ← noteFollow next rest
        return (last, searches ++ later)
      | none => return (none, searches)
    | .map entries =>
      match FieldValue.entry? name entries with
      | some next => noteFollow next rest
      | none => return (none, [])
    | _ => return (none, [])

/-- Answer a lookup, with its searches. -/
def note : Lookup → Reading (Found × List Search)
  | .profile payload => do
    let found ← Session.profile payload
    return (.profile found, [.profile payload found])
  | .accessor payload name => do
    let found ← Session.accessor? payload name
    return (.accessor found, [.accessor payload name found])
  | .read payload name => do
    let (value, searches) ← noteRead payload name
    return (.value value, searches)
  | .resolve root path =>
    match path with
    | [] => return (.value none, [])
    | _ :: _ => do
      let (value, searches) ← noteFollow (.record root) path
      return (.value value, searches)

/-- Answer lookups one after the other, with all their searches. -/
def noteAll : List Lookup → Reading (List Found × List Search)
  | [] => return ([], [])
  | lookup :: rest => do
    let (found, searches) ← lookup.note
    let (later, more) ← noteAll rest
    return (found :: later, searches ++ more)

/-- The searches that lookups make from a session on. -/
def searches (lookups : List Lookup) (session : Session) : List Search :=
  ((noteAll lookups).run session).1.2

/-! ### Writing searches down changes nothing -/

theorem run_noteRead (payload : Payload) (name : String) (session : Session) :
    (noteRead payload name).run session =
      (match ((Session.accessor? payload name).run session).1 with
        | some getter => do
          let value ← Session.invoke payload getter
          pure (value, [.accessor payload name
            ((Session.accessor? payload name).run session).1])
        | none => pure (none, [.accessor payload name
            ((Session.accessor? payload name).run session).1]) :
        Reading (Option FieldValue × List Search)).run
        ((Session.accessor? payload name).run session).2 := rfl

theorem run_noteFollow_record (payload : Payload) (name : String) (rest : List String)
    (session : Session) :
    (noteFollow (.record payload) (name :: rest)).run session =
      (match ((noteRead payload name).run session).1.1 with
        | some next => do
          let (last, later) ← noteFollow next rest
          pure (last, ((noteRead payload name).run session).1.2 ++ later)
        | none => pure (none, ((noteRead payload name).run session).1.2) :
        Reading (Option FieldValue × List Search)).run
        ((noteRead payload name).run session).2 := rfl

theorem read_eq (payload : Payload) (name : String) (session : Session) :
    (Session.read payload name).run session =
      (((noteRead payload name).run session).1.1, ((noteRead payload name).run session).2) := by
  rw [Session.run_read, run_noteRead]
  cases ((Session.accessor? payload name).run session).1 <;> rfl

theorem follow_eq (value : FieldValue) (path : List String) (session : Session) :
    (Session.follow value path).run session =
      (((noteFollow value path).run session).1.1, ((noteFollow value path).run session).2) := by
  induction path generalizing value session with
  | nil => rfl
  | cons name rest ih =>
    cases value with
    | record payload =>
      have hread := read_eq payload name session
      have hfollow : (Session.follow (.record payload) (name :: rest)).run session =
          (match ((Session.read payload name).run session).1 with
            | some next => Session.follow next rest
            | none => pure none : Reading (Option FieldValue)).run
            ((Session.read payload name).run session).2 := rfl
      rw [hfollow, run_noteFollow_record, hread]
      cases ((noteRead payload name).run session).1.1 with
      | none => rfl
      | some next => exact ih next _
    | map entries =>
      simp only [Session.follow, noteFollow]
      cases FieldValue.entry? name entries with
      | none => rfl
      | some next => exact ih next session
    | _ => rfl

theorem answer_eq (lookup : Lookup) (session : Session) :
    lookup.answer.run session =
      ((lookup.note.run session).1.1, (lookup.note.run session).2) := by
  cases lookup with
  | profile payload => rfl
  | accessor payload name => rfl
  | read payload name =>
    have hread := read_eq payload name session
    show (Found.value ((Session.read payload name).run session).1,
      ((Session.read payload name).run session).2) = _
    rw [hread]
    rfl
  | resolve root path =>
    cases path with
    | nil => rfl
    | cons name rest =>
      have hfollow := follow_eq (.record root) (name :: rest) session
      show (Found.value ((Session.follow (.record root) (name :: rest)).run session).1,
        ((Session.follow (.record root) (name :: rest)).run session).2) = _
      rw [hfollow]
      rfl

/-- Lookups answer the same whether or not their searches are written down. -/
theorem answerAll_eq (lookups : List Lookup) (session : Session) :
    (answerAll lookups).run session =
      (((noteAll lookups).run session).1.1, ((noteAll lookups).run session).2) := by
  induction lookups generalizing session with
  | nil => rfl
  | cons lookup rest ih =>
    have hanswer := lookup.answer_eq session
    have hrest := ih ((lookup.note.run session).2)
    show ((lookup.answer.run session).1 :: ((answerAll rest).run (lookup.answer.run session).2).1,
      ((answerAll rest).run (lookup.answer.run session).2).2) = _
    rw [hanswer, hrest]
    rfl

end Lookup

/-! ### The payloads that are looked up -/

/-- The payloads that a value leads to: itself, or those under the keys of a map. -/
inductive FieldValue.Leads : FieldValue → Payload → Prop where
  | record (payload : Payload) : Leads (.record payload) payload
  | entry {name : String} {entries : List (String × FieldValue)} {value : FieldValue}
      {payload : Payload} (hentry : FieldValue.entry? name entries = some value)
      (hleads : Leads value payload) : Leads (.map entries) payload

/-- Whether reading the payloads of a set leads to payloads of the set only. -/
def ClosedUnderReading (known : Payload → Prop) : Prop :=
  ∀ payload, known payload → ∀ accessor n value, payload.answer accessor n = .value value →
    ∀ reached, value.Leads reached → known reached

theorem Session.value_invoke {payload : Payload} {accessor : String} {session : Session}
    {value : FieldValue} (h : ((invoke payload accessor).run session).1 = some value) :
    ∃ n, payload.answer accessor n = .value value := by
  rw [run_invoke] at h
  cases hanswer : payload.answer accessor (session.invocationCount payload accessor) with
  | value read =>
    rw [hanswer] at h
    obtain rfl : read = value := Option.some.inj h
    exact ⟨_, hanswer⟩
  | _ =>
    rw [hanswer] at h
    cases h

namespace Lookup

/-- The payload that a lookup starts from. -/
def payload : Lookup → Payload
  | .profile payload => payload
  | .accessor payload _ => payload
  | .read payload _ => payload
  | .resolve root _ => root

variable {known : Payload → Prop}

theorem payload_noteRead (payload : Payload) (name : String) (session : Session) :
    ∀ s ∈ ((noteRead payload name).run session).1.2, s.payload = payload := by
  rw [run_noteRead]
  cases ((Session.accessor? payload name).run session).1 with
  | none => exact fun s hs => by rw [List.mem_singleton.mp hs]; rfl
  | some getter => exact fun s hs => by rw [List.mem_singleton.mp hs]; rfl

theorem value_noteRead {payload : Payload} {name : String} {session : Session}
    {value : FieldValue} (h : ((noteRead payload name).run session).1.1 = some value) :
    ∃ accessor n, payload.answer accessor n = .value value := by
  rw [run_noteRead] at h
  cases hfound : ((Session.accessor? payload name).run session).1 with
  | none =>
    rw [hfound] at h
    cases h
  | some getter =>
    rw [hfound] at h
    exact ⟨getter, Session.value_invoke h⟩

theorem known_noteFollow (hclosed : ClosedUnderReading known) (value : FieldValue)
    (path : List String) (session : Session)
    (hvalue : ∀ reached, value.Leads reached → known reached) :
    ∀ s ∈ ((noteFollow value path).run session).1.2, known s.payload := by
  induction path generalizing value session with
  | nil => exact fun s hs => nomatch hs
  | cons name rest ih =>
    cases value with
    | record payload =>
      have hpayload := hvalue payload (.record payload)
      have hread : ∀ s ∈ ((noteRead payload name).run session).1.2, known s.payload := by
        intro s hs
        rw [payload_noteRead payload name session s hs]
        exact hpayload
      rw [run_noteFollow_record]
      cases hnext : ((noteRead payload name).run session).1.1 with
      | none => exact hread
      | some next =>
        obtain ⟨accessor, n, hanswer⟩ := value_noteRead hnext
        intro s hs
        rcases List.mem_append.mp hs with hs | hs
        · exact hread s hs
        · exact ih next _ (hclosed payload hpayload accessor n next hanswer) s hs
    | map entries =>
      simp only [noteFollow]
      cases hentry : FieldValue.entry? name entries with
      | none => exact fun s hs => nomatch hs
      | some next =>
        exact ih next session fun reached hleads => hvalue reached (.entry hentry hleads)
    | _ => exact fun s hs => nomatch hs

theorem known_note (hclosed : ClosedUnderReading known) (lookup : Lookup)
    (hpayload : known lookup.payload) (session : Session) :
    ∀ s ∈ ((lookup.note).run session).1.2, known s.payload := by
  cases lookup with
  | profile payload => exact fun s hs => by rw [List.mem_singleton.mp hs]; exact hpayload
  | accessor payload name => exact fun s hs => by rw [List.mem_singleton.mp hs]; exact hpayload
  | read payload name =>
    intro s hs
    rw [payload_noteRead payload name session s hs]
    exact hpayload
  | resolve root path =>
    cases path with
    | nil => exact fun s hs => nomatch hs
    | cons name rest =>
      refine known_noteFollow hclosed (.record root) (name :: rest) session ?_
      rintro reached ⟨⟩
      exact hpayload

/-- Only payloads are looked up that the lookups start from or that are read off such. -/
theorem known_of_mem_searches (hclosed : ClosedUnderReading known) (lookups : List Lookup)
    (hpayloads : ∀ lookup ∈ lookups, known lookup.payload) (session : Session) :
    ∀ s ∈ searches lookups session, known s.payload := by
  induction lookups generalizing session with
  | nil => exact fun s hs => nomatch hs
  | cons lookup rest ih =>
    intro s hs
    rcases List.mem_append.mp hs with hs | hs
    · exact known_note hclosed lookup (hpayloads lookup (by simp)) session s hs
    · exact ih (fun later hlater => hpayloads later (by simp [hlater])) _ s hs

end Lookup

end CallTracing
