/-
  CallTracing/Payload/Assembled.lean
  ==================================
  **Payloads put together at run time** from named accessors, for hosts whose objects cannot answer
  for themselves.  Two objects of one type name may have different accessors, so the profile key
  takes in their names, in ascending order: `PutObjectRequest[getBucketName,getKey]`.
-/
import CallTracing.Payload.Basic
import CallTracing.Text.Quoted

namespace CallTracing

/-- The answer that an accessor gives at its `n`-th invocation, from a list of answers; the last
one repeats. -/
def Answer.sequence (answers : List Answer) (n : Nat) : Answer :=
  match answers[n]? with
  | some answer => answer
  | none => answers.getLastD .unset

/-- A payload as its accessors by name. -/
structure AssembledPayload where
  typeName : String
  accessors : List (String × (Nat → Answer)) := []
  marshalled : Option Json := none

namespace AssembledPayload

/-- Put an accessor in; a later one replaces an earlier one of its name. -/
def withAccessor (payload : AssembledPayload) (name : String) (answer : Nat → Answer) :
    AssembledPayload :=
  { payload with
    accessors := payload.accessors.filter (·.1 != name) ++ [(name, answer)] }

/-- The names of the accessors in ascending order. -/
def names (payload : AssembledPayload) : List String :=
  (payload.accessors.map (·.1)).mergeSort fun a b => decide (a ≤ b)

/-- What the discovered accessors are remembered under. -/
def profileKey (payload : AssembledPayload) : String :=
  payload.typeName ++ "[" ++ ",".intercalate payload.names ++ "]"

/-- What invoking an accessor gives. -/
def answer (payload : AssembledPayload) (name : String) (n : Nat) : Answer :=
  match payload.accessors.lookup name with
  | some answer => answer n
  | none => .fails ⟨.access, payload.typeName ++ " has no accessor " ++ name⟩

/-- The payload as tracing sees it. -/
def toPayload (payload : AssembledPayload) (identity : Nat) : Payload where
  identity := identity
  typeName := payload.typeName
  profileKey := payload.profileKey
  probe := fun name => if (payload.accessors.lookup name).isSome then .present else .absent
  answer := payload.answer
  marshalled := payload.marshalled

/-- The payload as diagnostics show it. -/
def shown (payload : AssembledPayload) : String :=
  Text.shownRecord "DynamicPayload"
    [("type_name", Text.quoted payload.typeName),
      ("accessors", Text.shownList (payload.names.map Text.quoted))]

end AssembledPayload

end CallTracing
