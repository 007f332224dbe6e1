/-
  CallTracing/Trace/Tracer.lean
  =============================
  **A tracer**: it starts spans, keeps the current context, and exports finished spans.

  A span inside another one continues its trace and is sampled exactly if that one is; a span
  inside none begins a trace of its own.  Ids are drawn from one counter.  A span that is not
  sampled has ids like any other but is never exported.

  Contexts are values, yet the tracer knows how many holders each span has: the context given back
  when it was started, the current context, and whatever still waits to become current again.  A
  sampled span that loses its last holder before it was ended is exported as it stands.
-/
import CallTracing.Attribute.Set
import CallTracing.Span.Status
import CallTracing.Trace.Context

namespace CallTracing

/-- What an exporter is told about a span. -/
structure SpanRecord where
  name : String
  kind : SpanKind
  context : SpanContext
  /-- The id of the span around it; zero for none. -/
  parentId : Nat := 0
  status : SpanStatus := .unset
  attributes : List (String × AttributeValue) := []
deriving DecidableEq, Repr

/-- A span that was started here. -/
structure TracedSpan where
  span : SpanRecord
  ended : Bool := false
  holders : Nat := 1
deriving DecidableEq, Repr

/-- How many attributes a span takes. -/
def maxAttributes : Nat := 128

/-- A tracer at work. -/
structure Tracer where
  /-- The context that code runs in now. -/
  current : TraceContext := {}
  /-- The next number that an id is made of. -/
  counter : Nat := 1
  /-- The spans started so far. -/
  spans : List TracedSpan := []
  /-- The spans exported so far. -/
  exported : List SpanRecord := []
deriving Repr

namespace Tracer

/-! ### Spans -/

/-- The id of a span, drawn from the counter. -/
def spanIdAt (counter : Nat) : Nat := 0x1000 + counter

/-- The id of a trace, drawn from the counter. -/
def traceIdAt (counter : Nat) : Nat := 0xabc00000 + counter

/-- The name of the next span inside a context, and the counter after it. -/
def nextSpan (tracer : Tracer) (parent : TraceContext) : SpanContext × Nat :=
  let spanId := spanIdAt tracer.counter
  match parent.span.map SpanReference.context with
  | some around =>
    (⟨around.traceId, spanId, around.sampled, around.traceState⟩, tracer.counter + 1)
  | none => (⟨traceIdAt (tracer.counter + 1), spanId, true, []⟩, tracer.counter + 2)

/-- Start a span inside a context.  The context given back holds it. -/
def start (tracer : Tracer) (parent : TraceContext) (name : String) (kind : SpanKind)
    (attributes : List (String × AttributeValue)) : TraceContext × Tracer :=
  let (context, counter) := tracer.nextSpan parent
  let span : SpanRecord :=
    { name := name
      kind := kind
      context := context
      parentId := (parent.span.map (·.context.spanId)).getD 0
      attributes := attributes.take maxAttributes }
  ({ parent with span := some (.started context tracer.spans.length) },
    { tracer with counter := counter, spans := tracer.spans ++ [{ span := span }] })

/-- Export a span, if it is sampled. -/
def exporting (tracer : Tracer) (span : SpanRecord) : Tracer :=
  if span.context.sampled then { tracer with exported := tracer.exported ++ [span] } else tracer

/-- Change the span at a place. -/
def changing (tracer : Tracer) (index : Nat) (change : TracedSpan → TracedSpan) : Tracer :=
  { tracer with spans := tracer.spans.modify index change }

/-- End the span of a context with more attributes and a status.  A span that was started
elsewhere, or has ended, is left alone. -/
def finish (tracer : Tracer) (context : TraceContext)
    (attributes : List (String × AttributeValue)) (status : SpanStatus) : Tracer :=
  match context.span.bind SpanReference.index? with
  | none => tracer
  | some index =>
    match tracer.spans[index]? with
    | none => tracer
    | some traced =>
      if traced.ended then tracer
      else
        let span := { traced.span with
          status := status
          attributes := (traced.span.attributes ++ attributes).take maxAttributes }
        (tracer.changing index fun traced => { traced with span := span, ended := true }).exporting
          span

/-! ### Holders -/

/-- One more holder for the span of a context. -/
def hold (tracer : Tracer) (context : TraceContext) : Tracer :=
  match context.span.bind SpanReference.index? with
  | none => tracer
  | some index => tracer.changing index fun traced => { traced with holders := traced.holders + 1 }

/-- One holder less for the span of a context; with the last one, a span that was not ended is
exported. -/
def letGo (tracer : Tracer) (context : TraceContext) : Tracer :=
  match context.span.bind SpanReference.index? with
  | none => tracer
  | some index =>
    match tracer.spans[index]? with
    | none => tracer
    | some traced =>
      let fewer := tracer.changing index fun traced => { traced with holders := traced.holders - 1 }
      if traced.holders = 1 && !traced.ended then
        (fewer.changing index fun traced => { traced with ended := true }).exporting traced.span
      else fewer

/-! ### The current context -/

/-- Make a context current.  What was current before is given back, to be restored. -/
def activate (tracer : Tracer) (context : TraceContext) : TraceContext × Tracer :=
  (tracer.current, { tracer.hold context with current := context })

/-- Make a context current again that was so at an activation; the one that is current now is let
go, whichever it is. -/
def restore (tracer : Tracer) (before : TraceContext) : Tracer :=
  { tracer.letGo tracer.current with current := before }

end Tracer

end CallTracing
