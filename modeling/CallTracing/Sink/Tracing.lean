/-
  CallTracing/Sink/Tracing.lean
  =============================
  **The sink in front of a tracer.**  Suppression is decided on the keys that are claimed in the
  parent context; a started span adds its own key and those of the policy.  The headers that pass a
  context on are written by the installed propagators, unless the settings forbid it.
-/
import CallTracing.Propagation
import CallTracing.Settings.Basic
import CallTracing.Sink.Basic
import CallTracing.Trace.Tracer

namespace CallTracing

/-- What a tracing sink is made of. -/
structure TracingSink where
  policy : SuppressionPolicy := {}
  injectHeaders : Bool := true
  propagators : List Propagator := []
deriving DecidableEq, Repr

namespace TracingSink

/-- The sink that settings ask for. -/
def ofSettings (settings : Settings) : TracingSink where
  policy := settings.suppression.policy
  injectHeaders := settings.propagation.injectHeaders
  propagators := Propagator.configured settings.propagation.propagators

/-- The sink as diagnostics show it. -/
def shown (sink : TracingSink) : String :=
  Text.shownRecord "OtelSink"
    [("policy", sink.policy.shown), ("inject_headers", Text.shownBool sink.injectHeaders)]

/-- Whether a call gets a span inside a context. -/
def shouldStart (sink : TracingSink) (parent : TraceContext) (request : Request) : Bool :=
  sink.policy.shouldStart parent.claimed request.spanKey

/-- Start the span of a call; a call without an operation has none. -/
def start (sink : TracingSink) (parent : TraceContext) (request : Request)
    (attributes : AttributeSet) (tracer : Tracer) : Except TraceError TraceContext × Tracer :=
  match request.spanName? with
  | none => (.error ⟨.invalidInput, "request has no operation name"⟩, tracer)
  | some name =>
    let (context, tracer) := tracer.start parent name request.spanKey.kind attributes.toKeyValues
    (.ok { context with claimed := sink.policy.claims parent.claimed request.spanKey }, tracer)

/-- What is reported when a span ends with a status. -/
def endEvents : SpanStatus → List Event
  | .error message => [⟨.debug, .tracer, "ending span with error status", [("error", message)]⟩]
  | _ => []

/-- End the span of a context. -/
def finish (context : TraceContext) (outcome : Outcome) (attributes : AttributeSet) :
    Operation Tracer (Except TraceError Unit) := fun tracer =>
  if context.span.isNone then
    ⟨.returned (.error ⟨.correlation, "context carries no span to end"⟩), tracer, []⟩
  else
    let status := spanStatus outcome.response outcome.failure
    ⟨.returned (.ok ()), tracer.finish context attributes.toKeyValues status, endEvents status⟩

/-- The headers that pass a context on. -/
def inject (sink : TracingSink) (context : TraceContext) (headers : Headers) : Headers :=
  if sink.injectHeaders then Propagator.injectAll sink.propagators context headers else headers

/-- The operations of the sink. -/
def toSink (sink : TracingSink) : Sink Tracer TraceContext TraceContext where
  currentContext := fun tracer => ⟨.returned tracer.current, tracer.hold tracer.current, []⟩
  shouldStart := fun parent request => .pure (sink.shouldStart parent request)
  start := fun parent request attributes tracer =>
    let (started, tracer) := sink.start parent request attributes tracer
    ⟨.returned started, tracer, []⟩
  activate := fun context tracer =>
    let (before, tracer) := tracer.activate context
    ⟨.returned before, tracer, []⟩
  inject := fun context headers tracer =>
    (sink.inject context headers, ⟨.returned (), tracer, []⟩)
  correlationIds := fun context => .pure context.ids?
  finish := fun context _ outcome attributes => finish context outcome attributes
  release := fun before tracer => tracer.restore before
  discard := fun context tracer => tracer.letGo context

end TracingSink

end CallTracing
