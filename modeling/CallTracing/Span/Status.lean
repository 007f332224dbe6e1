/-
  CallTracing/Span/Status.lean
  ============================
  **The status of a finished span.**  A call failed if the host says so, if its response carries a
  failure, or if its HTTP status is none of 100 to 499; the message is that of the failure where
  there is one.  A client error such as 404 is no failure of the call.
-/
import CallTracing.Envelope

namespace CallTracing

/-- The status of a span. -/
inductive SpanStatus where
  | unset
  | ok
  | error (message : String)
deriving DecidableEq, Repr

/-- Why a call failed: what the host says, or what its response carries. -/
def failureCause (response : Option Response) (failure : Option CallFailure) :
    Option CallFailure :=
  failure.or (response.bind (·.error))

/-- Whether an HTTP status is within 100 to 499. -/
def isAcceptedStatus (status : UInt16) : Bool := decide (100 ≤ status) && decide (status < 500)

/-- The status of the span of a call. -/
def spanStatus (response : Option Response) (failure : Option CallFailure) : SpanStatus :=
  match failureCause response failure, response.bind (·.status) with
  | some cause, _ => .error cause.message
  | none, some status =>
    if isAcceptedStatus status then .unset else .error ("HTTP " ++ toString status.toNat)
  | none, none => .unset

end CallTracing
