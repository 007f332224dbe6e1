/-
  CallTracing/Sink/Recording.lean
  ===============================
  **A sink that records what it is told**, for trying out a controller.  It numbers the spans it
  starts and keeps the activated contexts on a stack, whose top is the current context.  Taking
  any activation back takes off the top, whichever it is.

  Operations can be made to fail: a `Fault` befalls a run of calls of one operation.
-/
import CallTracing.Settings.Basic
import CallTracing.Sink.Basic
import CallTracing.Span.Status

namespace CallTracing.Recording

/-! ### Faults -/

/-- What happens to a call instead of what it should do. -/
inductive Failure where
  /-- It panics, with a message unless that is no text. -/
  | panic (message : Option String)
  /-- It reports an error, where its operation can. -/
  | error (error : TraceError)
deriving DecidableEq, Repr

/-- A failure of some calls: none of the first `skip`, and after these the next `times`, or all. -/
structure Fault where
  failure : Failure
  skip : Nat := 0
  times : Option Nat := none
deriving DecidableEq, Repr

/-- Whether a fault befalls the call that comes after so many others. -/
def Fault.befalls (fault : Fault) (earlier : Nat) : Bool :=
  decide (fault.skip ≤ earlier) &&
    match fault.times with
    | none => true
    | some times => decide (earlier < fault.skip + times)

/-- At most one fault for each operation. -/
abbrev Faults := List (SinkOperation × Fault)

/-- What happens to the call of an operation that comes after so many others. -/
def Faults.failure? (faults : Faults) (operation : SinkOperation) (earlier : Nat) :
    Option Failure :=
  ((faults.lookup operation).filter (·.befalls earlier)).map (·.failure)

/-! ### Records -/

/-- A context inside a span. -/
structure Mark where
  span : Nat
  claimed : List SpanKey
deriving DecidableEq, Repr

/-- What the sink was told. -/
inductive Record where
  | started (span : Nat) (parent : Option Nat) (name : Option String) (claimed : List SpanKey)
      (attributes : AttributeSet)
  | ended (span : Option Nat) (name : Option String) (hasResponse : Bool)
      (failure : Option CallFailure) (status : SpanStatus) (attributes : AttributeSet)
deriving DecidableEq, Repr

/-- The sink at work. -/
structure State where
  /-- The activated contexts, the current one first. -/
  stack : List (Option Mark) := []
  started : Nat := 0
  records : List Record := []
  /-- The operations called so far. -/
  calls : List SinkOperation := []
deriving Repr

/-- The spans of the activated contexts, the current one last. -/
def State.activeSpans (state : State) : List Nat := (state.stack.filterMap (·.map (·.span))).reverse

/-! ### The sink -/

/-- What a recording sink is made of. -/
structure RecordingSink where
  policy : SuppressionPolicy := {}
  faults : Faults := []
  givesIds : Bool := true
  injects : Bool := true

namespace RecordingSink

/-- Call an operation that can panic. -/
def calling {α : Type} (sink : RecordingSink) (operation : SinkOperation)
    (act : State → α × State) : Operation State α := fun state =>
  let earlier := state.calls.count operation
  let state := { state with calls := operation :: state.calls }
  match sink.faults.failure? operation earlier with
  | some (.panic message) => ⟨.panicked message, state, []⟩
  | _ =>
    let (value, state) := act state
    ⟨.returned value, state, []⟩

/-- Call an operation that can panic or report an error. -/
def callingFallible {α : Type} (sink : RecordingSink) (operation : SinkOperation)
    (act : State → α × State) : Operation State (Except TraceError α) := fun state =>
  let earlier := state.calls.count operation
  sink.calling operation (fun state =>
    match sink.faults.failure? operation earlier with
    | some (.error error) => (.error error, state)
    | _ =>
      let (value, state) := act state
      (.ok value, state)) state

/-- Start a span and record it. -/
def start (sink : RecordingSink) (parent : Option Mark) (request : Request)
    (attributes : AttributeSet) (state : State) : Option Mark × State :=
  let span := state.started + 1
  let claimed := sink.policy.claims ((parent.map (·.claimed)).getD []) request.spanKey
  (some ⟨span, claimed⟩,
    { state with
      started := span
      records := state.records ++
        [.started span (parent.map (·.span)) request.spanName? claimed attributes] })

/-- Record the end of a span. -/
def finish (context : Option Mark) (request : Request) (outcome : Outcome)
    (attributes : AttributeSet) (state : State) : Unit × State :=
  ((), { state with
    records := state.records ++
      [.ended (context.map (·.span)) request.spanName? outcome.response.isSome outcome.failure
        (spanStatus outcome.response outcome.failure) attributes] })

/-- The ids of a span: one trace for all, and its number. -/
def ids (mark : Mark) : String × String := (Text.hexPadded 32 0xabc, Text.hexPadded 16 mark.span)

/-- Write the number of a span and the height of the stack. -/
def headersFor (context : Option Mark) (state : State) (headers : Headers) : Headers :=
  match context with
  | none => headers
  | some mark =>
    Headers.set "x-test-depth" (toString state.stack.length)
      (Headers.set "x-test-span" (toString mark.span) headers)

/-- The operations of the sink. -/
def toSink (sink : RecordingSink) : Sink State (Option Mark) Unit where
  currentContext := sink.calling .currentContext fun state => (state.stack.head?.join, state)
  shouldStart := fun parent request => sink.calling .shouldStart fun state =>
    (sink.policy.shouldStart ((parent.map (·.claimed)).getD []) request.spanKey, state)
  start := fun parent request attributes =>
    sink.callingFallible .start (sink.start parent request attributes)
  activate := fun context => sink.calling .activate fun state =>
    ((), { state with stack := context :: state.stack })
  inject := fun context headers state =>
    if sink.injects then
      (headersFor context state headers, sink.calling .inject (fun state => ((), state)) state)
    else (headers, ⟨.returned (), state, []⟩)
  correlationIds := fun context => sink.calling .correlationIds fun state =>
    (if sink.givesIds then context.map ids else none, state)
  finish := fun context request outcome attributes =>
    sink.callingFallible .finish (finish context request outcome attributes)
  release := fun _ state => { state with stack := state.stack.tail }
  discard := fun _ state => state

end RecordingSink

end CallTracing.Recording
