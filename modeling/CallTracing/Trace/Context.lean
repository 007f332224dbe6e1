/-
  CallTracing/Trace/Context.lean
  ==============================
  **Where in a trace a call stands.**  A `SpanContext` names a span across processes.  A
  `TraceContext` is what is current while code runs: a span, the keys claimed by the spans around,
  and a baggage of named texts that is passed on.  A span is known here only by what is passed on
  and, if it was started in this process, by its place among the spans that were.
-/
import CallTracing.Span.Key
import CallTracing.Text.Hex
import CallTracing.Text.Utf8

namespace CallTracing

/-- The name of a span across processes. -/
structure SpanContext where
  traceId : Nat
  spanId : Nat
  sampled : Bool := true
  /-- What other tracing systems pass along, in order. -/
  traceState : List (String × String) := []
deriving DecidableEq, Repr

namespace SpanContext

/-- Whether the context names a span; zeros name none. -/
def isValid (context : SpanContext) : Bool := context.traceId != 0 && context.spanId != 0

/-- The trace id as text. -/
def traceIdText (context : SpanContext) : String := Text.hexPadded 32 context.traceId

/-- The span id as text. -/
def spanIdText (context : SpanContext) : String := Text.hexPadded 16 context.spanId

/-- Both ids as text. -/
def ids (context : SpanContext) : String × String := (context.traceIdText, context.spanIdText)

end SpanContext

/-- A span as the code inside it sees it. -/
inductive SpanReference where
  /-- Started elsewhere. -/
  | remote (context : SpanContext)
  /-- Started here, as the `index`-th span. -/
  | started (context : SpanContext) (index : Nat)
deriving DecidableEq, Repr

/-- The name of the span. -/
def SpanReference.context : SpanReference → SpanContext
  | .remote context => context
  | .started context _ => context

/-- The place of the span among those started here. -/
def SpanReference.index? : SpanReference → Option Nat
  | .remote _ => none
  | .started _ index => some index

/-- What is current while code runs. -/
structure TraceContext where
  span : Option SpanReference := none
  claimed : List SpanKey := []
  baggage : List (String × String) := []
deriving DecidableEq, Repr

namespace TraceContext

/-- The name of the current span, if it is valid. -/
def validSpan? (context : TraceContext) : Option SpanContext :=
  (context.span.map SpanReference.context).filter SpanContext.isValid

/-- Whether a baggage takes an entry: names are ASCII, and an entry has fewer than 4096 bytes. -/
def takesEntry (name value : String) : Bool :=
  name.toList.all (·.toNat < 128) &&
    decide ((Text.Utf8.encode name).length + (Text.Utf8.encode value).length < 4096)

/-- The context with an entry in its baggage, in place of one of the same name. -/
def withBaggage (context : TraceContext) (name value : String) : TraceContext :=
  if takesEntry name value then
    { context with baggage := context.baggage.filter (·.1 != name) ++ [(name, value)] }
  else context

/-- The ids of the current span, if it is valid. -/
def ids? (context : TraceContext) : Option (String × String) :=
  context.validSpan?.map SpanContext.ids

end TraceContext

end CallTracing
