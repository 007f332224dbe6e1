/-
  CallTracing/Call/Slot.lean
  ==========================
  **The state of one call between its hooks.**  A slot is made when a call is intercepted.  Its
  phase starts as `pendingStart`, or as `idle` where the call is not traced; it goes to `active`
  when a span was started, and to `suppressed` or `ended` when nothing more is to come.  The
  context and the activation of the span are in the slot while it is active.
-/
import CallTracing.Envelope

namespace CallTracing

/-- How far a call has come. -/
inductive CallPhase where
  | idle
  | pendingStart
  | active
  | ended
  | suppressed
deriving DecidableEq, Repr

namespace CallPhase

/-- The name of a phase. -/
def name : CallPhase → String
  | .idle => "IDLE"
  | .pendingStart => "PENDING_START"
  | .active => "ACTIVE"
  | .ended => "ENDED"
  | .suppressed => "SUPPRESSED"

/-- The phase as diagnostics show it. -/
def shown : CallPhase → String
  | .idle => "Idle"
  | .pendingStart => "PendingStart"
  | .active => "Active"
  | .ended => "Ended"
  | .suppressed => "Suppressed"

/-- Whether nothing more is to come. -/
def isTerminal (phase : CallPhase) : Bool := phase == .ended || phase == .suppressed

end CallPhase

/-- The state of one call. -/
structure Slot (κ ς : Type) where
  request : Request
  phase : CallPhase
  context : Option κ := none
  scope : Option ς := none
  /-- Whether the time of the start is known. -/
  started : Bool := false
  correlationIds : Option (String × String) := none
  /-- The headers that the outgoing request is to carry. -/
  headers : Headers := []

namespace Slot

variable {κ ς : Type}

/-- The trace id, once a span was started. -/
def traceId? (slot : Slot κ ς) : Option String := slot.correlationIds.map (·.1)

/-- The span id, once a span was started. -/
def spanId? (slot : Slot κ ς) : Option String := slot.correlationIds.map (·.2)

/-- Whether the span's context is current because of this call. -/
def isActivated (slot : Slot κ ς) : Bool := slot.scope.isSome

/-- The slot as diagnostics show it, under a name for the call. -/
def shown (slot : Slot κ ς) (callId : String) : String :=
  Text.shownRecord "CallSlot"
    [("call_id", callId), ("phase", slot.phase.shown), ("request", slot.request.shown),
      ("has_context", Text.shownBool slot.context.isSome),
      ("has_scope", Text.shownBool slot.scope.isSome),
      ("correlation_ids", Text.shownOption (slot.correlationIds.map fun ids =>
        "(" ++ Text.quoted ids.1 ++ ", " ++ Text.quoted ids.2 ++ ")"))]

end Slot

end CallTracing
