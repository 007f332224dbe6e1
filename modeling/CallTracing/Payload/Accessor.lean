/-
  CallTracing/Payload/Accessor.lean
  =================================
  **Finding and invoking accessors.**

  A field is asked for by name.  For the canonical names there is a fixed list of accessor names
  to look for; any other name is looked for as it is, and then as a getter.  What is found is
  remembered: for the canonical names as one profile per profile key, for other names one by one,
  and a search that found nothing is remembered too.  The memory is an `AccessorCache`.

  Reading happens in a `Session`: the cache, how often each accessor of each payload has been
  invoked, and the events reported so far.  Nothing here fails.  An accessor that gives an error or
  panics is reported and counts as an absent value, and the cache is left as it is.
-/
import CallTracing.Event
import CallTracing.Payload.Basic
import CallTracing.Text.Casing
import CallTracing.Text.Quoted

namespace CallTracing

/-! ### Names -/

/-- The canonical fields, each with the accessors that are looked for, in order. -/
def canonicalFields : List (String × List String) :=
  [("bucketName", ["getBucketName", "getBucket"]),
    ("queueUrl", ["getQueueUrl"]),
    ("queueName", ["getQueueName"]),
    ("streamName", ["getStreamName"]),
    ("streamArn", ["getStreamARN", "getStreamArn"]),
    ("streamConsumerName", ["getConsumerName"]),
    ("tableName", ["getTableName"]),
    ("topicArn", ["getTopicArn"]),
    ("targetArn", ["getTargetArn"]),
    ("secretArn", ["getARN", "getArn"]),
    ("stateMachineArn", ["getStateMachineArn"]),
    ("activityArn", ["getActivityArn"]),
    ("functionName", ["getFunctionName"]),
    ("resourceMappingId", ["getUUID", "getUuid"]),
    ("agentId", ["getAgentId"]),
    ("knowledgeBaseId", ["getKnowledgeBaseId"]),
    ("dataSourceId", ["getDataSourceId"]),
    ("guardrailId", ["getGuardrailId", "getGuardrailIdentifier"]),
    ("modelId", ["getModelId"]),
    ("body", ["getBody"])]

/-- The accessors looked for under a name that is not canonical: the name itself and its getter,
with the first letter raised.  An empty name has no accessor. -/
def derivedCandidates (name : String) : List String :=
  match name.toList with
  | [] => []
  | first :: rest => [name, "get" ++ String.ofList (Text.upperChar first ++ rest)]

/-- The accessors looked for under a name. -/
def candidates (name : String) : List String :=
  match canonicalFields.lookup name with
  | some accessors => accessors
  | none => derivedCandidates name

/-- The first of some accessors that a payload has. -/
def Payload.firstExposed (payload : Payload) (accessors : List String) : Option String :=
  accessors.find? payload.exposes

/-! ### Memory -/

/-- Which canonical fields the payloads of one profile key support. -/
structure AccessorProfile where
  /-- The place of the profile among those discovered; tells profiles apart. -/
  identity : Nat
  typeName : String
  fields : List (String × Option String)
deriving DecidableEq, Repr

namespace AccessorProfile

/-- Look for every canonical field on a payload. -/
def discover (identity : Nat) (payload : Payload) : AccessorProfile where
  identity := identity
  typeName := payload.typeName
  fields := canonicalFields.map fun field => (field.1, payload.firstExposed field.2)

/-- Whether a name is canonical. -/
def isCanonical (profile : AccessorProfile) (name : String) : Bool :=
  (profile.fields.lookup name).isSome

/-- The accessor of a canonical field that is supported. -/
def accessor? (profile : AccessorProfile) (name : String) : Option String :=
  (profile.fields.lookup name).join

/-- The supported fields with their accessors. -/
def supported (profile : AccessorProfile) : List (String × String) :=
  profile.fields.filterMap fun field => field.2.map fun accessor => (field.1, accessor)

end AccessorProfile

/-- What is remembered about payloads: profiles by profile key, and the accessors of other names
by profile key and name. -/
structure AccessorCache where
  profiles : List (String × AccessorProfile) := []
  derived : List ((String × String) × Option String) := []
deriving DecidableEq, Repr

namespace AccessorCache

/-- How many profile keys are known. -/
def size (cache : AccessorCache) : Nat := cache.profiles.length

/-- Whether none is. -/
def isEmpty (cache : AccessorCache) : Bool := cache.profiles.isEmpty

/-- The profile of a payload's key, discovered at the first encounter. -/
def profile (cache : AccessorCache) (payload : Payload) : AccessorProfile × AccessorCache :=
  match cache.profiles.lookup payload.profileKey with
  | some known => (known, cache)
  | none =>
    let discovered := AccessorProfile.discover cache.size payload
    (discovered, { cache with profiles := cache.profiles ++ [(payload.profileKey, discovered)] })

/-- The accessor of a field, looked for at the first time that its name is asked for. -/
def accessor? (cache : AccessorCache) (payload : Payload) (name : String) :
    Option String × AccessorCache :=
  let (profile, cache) := cache.profile payload
  if profile.isCanonical name then (profile.accessor? name, cache)
  else
    let key := (payload.profileKey, name)
    match cache.derived.lookup key with
    | some known => (known, cache)
    | none =>
      let found := payload.firstExposed (derivedCandidates name)
      (found, { cache with derived := cache.derived ++ [(key, found)] })

/-- The cache as diagnostics show it. -/
def shown (cache : AccessorCache) : String :=
  Text.shownRecord "AccessorCache"
    [("profiles", toString cache.profiles.length), ("derived", toString cache.derived.length)]

end AccessorCache

/-! ### Reading -/

/-- What reading payloads depends on and leaves behind. -/
structure Session where
  cache : AccessorCache := {}
  /-- How often each accessor of each payload has been invoked. -/
  invocations : List ((Nat × String) × Nat) := []
  /-- The events reported, oldest first. -/
  log : List Event := []
deriving DecidableEq, Repr

/-- A computation in a session. -/
abbrev Reading := StateM Session

namespace Session

/-- Report an event. -/
def report (event : Event) : Reading Unit :=
  modify fun session => { session with log := session.log ++ [event] }

/-- How often an accessor of a payload has been invoked. -/
def invocationCount (session : Session) (payload : Payload) (accessor : String) : Nat :=
  (session.invocations.lookup (payload.identity, accessor)).getD 0

/-- Count an invocation, and give the number of earlier ones. -/
def countInvocation (payload : Payload) (accessor : String) : Reading Nat :=
  modifyGet fun session =>
    let key := (payload.identity, accessor)
    let count := session.invocationCount payload accessor
    (count, { session with
      invocations := (key, count + 1) :: session.invocations.filter (·.1 != key) })

/-- The profile of a payload. -/
def profile (payload : Payload) : Reading AccessorProfile := do
  let before := (← get).cache
  let (profile, after) := before.profile payload
  modify fun session => { session with cache := after }
  if before.size < after.size then
    report ⟨.debug, .accessors, "accessor profile discovered",
      [("type_name", profile.typeName), ("supported", toString profile.supported.length)]⟩
  return profile

/-- The accessor of a field. -/
def accessor? (payload : Payload) (name : String) : Reading (Option String) := do
  let _ ← profile payload
  modifyGet fun session =>
    let (accessor, cache) := session.cache.accessor? payload name
    (accessor, { session with cache := cache })

/-- Invoke an accessor; an error or a panic is reported and gives no value. -/
def invoke (payload : Payload) (accessor : String) : Reading (Option FieldValue) := do
  let count ← countInvocation payload accessor
  match payload.answer accessor count with
  | .value value => return some value
  | .unset => return none
  | .fails error =>
    report ⟨.debug, .accessors, "accessor invocation failed",
      [("type_name", payload.typeName), ("accessor", accessor), ("error", error.text)]⟩
    return none
  | .panics =>
    report ⟨.debug, .accessors, "accessor invocation panicked",
      [("type_name", payload.typeName), ("accessor", accessor)]⟩
    return none

/-- Read a field. -/
def read (payload : Payload) (name : String) : Reading (Option FieldValue) := do
  match ← accessor? payload name with
  | some accessor => invoke payload accessor
  | none => return none

/-- Follow the rest of a path from a value: into records by field, into maps by key. -/
def follow (value : FieldValue) : List String → Reading (Option FieldValue)
  | [] => return some value
  | name :: rest =>
    match value with
    | .record payload => do
      match ← read payload name with
      | some next => follow next rest
      | none => return none
    | .map entries =>
      match FieldValue.entry? name entries with
      | some next => follow next rest
      | none => return none
    | _ => return none

/-- Follow a path from a payload; an empty path leads nowhere. -/
def resolve (root : Payload) (path : List String) : Reading (Option FieldValue) :=
  match path with
  | [] => return none
  | _ :: _ => follow (.record root) path

end Session

end CallTracing
