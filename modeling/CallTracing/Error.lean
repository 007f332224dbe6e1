/-
  CallTracing/Error.lean
  ======================
  **What can go wrong.**  A `TraceError` is trouble in the tracing layer: it is logged and kept
  away from the traced call.  A `CallFailure` is the traced call's own failure, which ends up on
  its span.  Both are a cause and a message; the wording of a cause stands in one place.
-/

namespace CallTracing

/-- The causes of trouble in the tracing layer. -/
inductive ErrorKind where
  /-- A request that cannot be traced. -/
  | invalidInput
  /-- Settings that cannot be used. -/
  | configuration
  /-- A body that is not what it should be. -/
  | decode
  /-- A span that is not where it should be. -/
  | correlation
  /-- A sink that failed. -/
  | sink
  /-- An accessor that exists and failed. -/
  | access
  /-- A record that could not be written. -/
  | serialization
deriving DecidableEq, Repr

/-- How each cause is announced. -/
def ErrorKind.title : ErrorKind → String
  | .invalidInput => "Invalid input"
  | .configuration => "Configuration error"
  | .decode => "Decode error"
  | .correlation => "Correlation error"
  | .sink => "Sink error"
  | .access => "Accessor error"
  | .serialization => "Serialization error"

/-- Trouble in the tracing layer. -/
structure TraceError where
  kind : ErrorKind
  message : String
deriving DecidableEq, Repr

namespace TraceError

/-- The error as text. -/
def text (error : TraceError) : String := error.kind.title ++ ": " ++ error.message

/-- Whether tracing goes on, with less to show for this call. -/
def isRecoverable (error : TraceError) : Bool := error.kind != .configuration

/-- Whether a sink reported the error. -/
def isSinkError (error : TraceError) : Bool := error.kind == .sink

end TraceError

/-- Why a JSON text was not read or written. -/
inductive JsonFault where
  /-- The text is no JSON, or not what was expected. -/
  | data
  /-- The text could not be transported. -/
  | transport
deriving DecidableEq, Repr

/-- A JSON fault as trouble of the tracing layer. -/
def JsonFault.toTraceError (fault : JsonFault) (message : String) : TraceError :=
  match fault with
  | .data => ⟨.decode, message⟩
  | .transport => ⟨.serialization, message⟩

/-- The failure of a traced call. -/
structure CallFailure where
  kind : String
  message : String
deriving DecidableEq, Repr

/-- The failure as text. -/
def CallFailure.text (failure : CallFailure) : String := failure.kind ++ ": " ++ failure.message

end CallTracing
