/-
  CallTracing/Event.lean
  ======================
  **Diagnostic events.**  Every part of the tracing layer reports what it does as events; an event
  has a level, the part that it comes from, a message, and named fields in a fixed order.  The
  identifier of a call and times are no part of an event here.
-/

namespace CallTracing

/-- How important an event is. -/
inductive Level where
  | trace
  | debug
  | info
  | warn
  | error
deriving DecidableEq, Repr

/-- The name of a level. -/
def Level.name : Level → String
  | .trace => "TRACE"
  | .debug => "DEBUG"
  | .info => "INFO"
  | .warn => "WARN"
  | .error => "ERROR"

/-- How much is told where events down to a level are: more at the less important ones. -/
def Level.verbosity : Level → Nat
  | .error => 1
  | .warn => 2
  | .info => 3
  | .debug => 4
  | .trace => 5

/-- All levels. -/
def Level.all : List Level := [.error, .warn, .info, .debug, .trace]

/-- The parts of the tracing layer that report events. -/
inductive EventSource where
  | correlation
  | extraction
  | accessors
  | tokenHeaders
  | fieldMappings
  | bodyDecoding
  | tracer
  | propagation
  | logging
deriving DecidableEq, Repr

/-- The target under which the events of a part are filtered. -/
def EventSource.target : EventSource → String
  | .correlation => "otel_correlate::correlation"
  | .extraction => "otel_correlate::extraction"
  | .accessors => "otel_correlate::extraction::accessor"
  | .tokenHeaders => "otel_correlate::extraction::aws"
  | .fieldMappings => "otel_correlate::extraction::field_mapper"
  | .bodyDecoding => "otel_correlate::extraction::decoder"
  | .tracer => "otel_correlate::telemetry::otel"
  | .propagation => "otel_correlate::telemetry::propagation"
  | .logging => "otel_correlate::telemetry::logging"

/-- One report. -/
structure Event where
  level : Level
  source : EventSource
  message : String
  fields : List (String × String) := []
deriving DecidableEq, Repr

end CallTracing
