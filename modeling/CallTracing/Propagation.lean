/-
  CallTracing/Propagation.lean
  ============================
  **Passing a trace on.**  A propagator writes headers onto the outgoing request.  Two are
  available: `traceContext` names the current span, `baggage` carries the baggage.

  Which propagators are installed is settled by a list of configured names (`install`).  A name is
  taken without the blanks around it and whatever its case; a name that is spelled exactly like one
  already installed is passed over, and one that is not available is reported.
-/
import CallTracing.Envelope
import CallTracing.Event
import CallTracing.Text.Quoted
import CallTracing.Text.Utf8
import CallTracing.Trace.Context

namespace CallTracing

/-- What writes headers onto an outgoing request. -/
inductive Propagator where
  | traceContext
  | baggage
deriving DecidableEq, Repr

namespace Propagator

/-! ### Headers -/

/-- The headers that a propagator may write. -/
def fields : Propagator → List String
  | .traceContext => ["traceparent", "tracestate"]
  | .baggage => ["baggage"]

/-- The header that names a span: version, trace, span, and whether it is sampled. -/
def traceParent (span : SpanContext) : String :=
  "00-" ++ span.traceIdText ++ "-" ++ span.spanIdText ++ (if span.sampled then "-01" else "-00")

/-- The entries of other tracing systems. -/
def traceState (span : SpanContext) : String :=
  ",".intercalate (span.traceState.map fun entry => entry.1 ++ "=" ++ entry.2)

/-- Whether a byte of a baggage entry is written by its code: controls, bytes outside ASCII, and
the marks that separate entries. -/
def isEscapedByte (byte : UInt8) : Bool :=
  let b := byte.toNat
  b < 0x20 || 0x7F ≤ b || b == 0x20 || b == 0x22 || b == 0x3B || b == 0x2C || b == 0x3D

/-- A byte of a baggage entry. -/
def escapedByte (byte : UInt8) : String :=
  if isEscapedByte byte then
    "%" ++ String.ofList ((Text.hexPadded 2 byte.toNat).toList.map Char.toUpper)
  else (Char.ofNat byte.toNat).toString

/-- A name or a value of a baggage entry, without the blanks around it. -/
def escapedText (text : String) : String :=
  String.join ((Text.Utf8.encode (Text.trim text)).map escapedByte)

/-- The header that carries the baggage. -/
def baggageText (entries : List (String × String)) : String :=
  ",".intercalate (entries.map fun entry => escapedText entry.1 ++ "=" ++ escapedText entry.2)

/-- Write the headers of a context: none for a span that is not valid, none for an empty
baggage. -/
def inject (context : TraceContext) (headers : Headers) : Propagator → Headers
  | .traceContext =>
    match context.validSpan? with
    | some span =>
      Headers.set "tracestate" (traceState span) (Headers.set "traceparent" (traceParent span) headers)
    | none => headers
  | .baggage =>
    if context.baggage.isEmpty then headers
    else Headers.set "baggage" (baggageText context.baggage) headers

/-- Write the headers of several propagators. -/
def injectAll (propagators : List Propagator) (context : TraceContext) (headers : Headers) :
    Headers :=
  propagators.foldl (inject context) headers

/-! ### Installing -/

/-- The names that mean a propagator which is not available. -/
def unavailable : List String := ["b3", "b3multi", "xray"]

/-- What a configured name means. -/
inductive Meaning where
  | propagator (p : Propagator)
  /-- Nothing is to be installed. -/
  | nothing
  | unavailable
  | unknown
deriving DecidableEq, Repr

/-- The names with a meaning. -/
def meanings : List (String × Meaning) :=
  [("tracecontext", .propagator .traceContext), ("baggage", .propagator .baggage),
    ("none", .nothing)] ++ unavailable.map fun name => (name, .unavailable)

/-- What a name means, whatever its case. -/
def meaningOf (name : String) : Meaning :=
  (meanings.lookup (Text.lower name)).getD .unknown

/-- A report that a name was passed over. -/
def skipped (name message : String) : Event := ⟨.warn, .propagation, message, [("propagator", name)]⟩

/-- Install what a list of configured names asks for, behind what is installed; each propagator
with its name, and what there is to report. -/
def install (installed : List (String × Propagator)) :
    List String → List (String × Propagator) × List Event
  | [] =>
    (installed, [⟨.info, .propagation, "text map propagator built",
      [("propagators", Text.shownList (installed.map fun entry => Text.quoted entry.1))]⟩])
  | configured :: rest =>
    let name := Text.trim configured
    if (installed.map (·.1)).contains name then install installed rest
    else
      match meaningOf name with
      | .propagator p => install (installed ++ [(name, p)]) rest
      | .nothing => install installed rest
      | .unavailable =>
        let (all, events) := install installed rest
        (all, skipped name "propagator not available, skipping" :: events)
      | .unknown =>
        let (all, events) := install installed rest
        (all, skipped name "unknown propagator, skipping" :: events)

/-- The propagators that configured names ask for. -/
def configured (names : List String) : List Propagator := (install [] names).1.map (·.2)

end Propagator

end CallTracing
