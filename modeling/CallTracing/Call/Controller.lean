/-
  CallTracing/Call/Controller.lean
  ================================
  **From four hooks to one span.**

  A traced call passes four points: `beforeEnter` when it is intercepted, `beforeExit` just before
  it leaves, `afterEnter` when its response is there, and `afterExit` at its end.  A `Controller`
  turns them into at most one span: it starts the span at `beforeExit`, and ends it at the first of
  the two hooks after it, with the response or with the failure.  `intercept` runs a whole call
  between its hooks.

  The sink is asked through `guarded`: a panic is reported and then counts as no answer, so that a
  call never feels the tracing layer.  A context that the controller holds is handed back to the
  sink (`discard`) where the controller is done with it.

  The hooks run in a `Scene`: the session of the extractors, the state of the sink, and whatever the
  host keeps, which the hooks leave alone.
-/
import CallTracing.Call.Slot
import CallTracing.Extract.Chain
import CallTracing.Redaction
import CallTracing.Sink.Basic

namespace CallTracing

/-- Everything outside a slot. -/
structure Scene (σ η : Type) where
  session : Session
  sink : σ
  host : η

/-- A computation in a scene. -/
abbrev Hook (σ η : Type) := StateM (Scene σ η)

/-- What turns hooks into spans. -/
structure Controller (σ κ ς : Type) where
  sink : Sink σ κ ς
  extractors : ExtractorChain
  enabled : Bool := true

namespace Hook

variable {σ η α : Type}

/-- A computation of the session alone. -/
def reading (r : Reading α) : Hook σ η α := fun scene =>
  let (value, session) := r.run scene.session
  (value, { scene with session := session })

/-- Report an event. -/
def report (event : Event) : Hook σ η Unit := reading (Session.report event)

/-- Report events. -/
def reportAll (events : List Event) : Hook σ η Unit := events.forM report

/-- Change the state of the sink. -/
def onSink (change : σ → σ) : Hook σ η Unit :=
  modify fun scene => { scene with sink := change scene.sink }

/-- What is reported of a panic. -/
def panicText (message : Option String) : String := message.getD "unknown panic"

/-- Run an operation of the sink; a panic is reported and gives no value. -/
def guarded (operation : SinkOperation) (act : Operation σ α) : Hook σ η (Option α) := do
  let performed := act (← get).sink
  onSink fun _ => performed.state
  reportAll performed.events
  match performed.reply with
  | .returned value => return some value
  | .panicked message =>
    report ⟨.warn, .correlation, "telemetry sink panicked",
      [("operation", operation.name), ("panic", Redaction.sanitized (panicText message))]⟩
    return none

/-- Report an error of the sink. -/
def reportError (operation : SinkOperation) (error : TraceError) : Hook σ η Unit :=
  if error.isSinkError then
    report ⟨.warn, .correlation, "telemetry sink failed",
      [("operation", operation.name), ("error", Redaction.sanitized error.text)]⟩
  else if error.isRecoverable then
    report ⟨.debug, .correlation, "correlation skipped",
      [("operation", operation.name), ("error", error.text)]⟩
  else
    report ⟨.warn, .correlation, "correlation layer misconfigured",
      [("operation", operation.name), ("error", error.text)]⟩

/-- Report the attributes of a phase, each with the text that may be logged. -/
def reportAttributes (phase : String) (set : AttributeSet) : Hook σ η Unit := do
  report ⟨.trace, .correlation, "attributes extracted",
    [("phase", phase), ("count", toString set.size)]⟩
  reportAll (set.toKeyValues.map fun entry =>
    ⟨.trace, .correlation, "attribute",
      [("attribute", entry.1), ("value", Redaction.sanitized entry.2.display)]⟩)

end Hook

namespace Controller

variable {σ κ ς η : Type}

/-- A controller with the extractors that settings ask for. -/
def ofSettings (sink : Sink σ κ ς) (settings : Settings) : Controller σ κ ς where
  sink := sink
  extractors := .ofCapture settings.capture
  enabled := settings.instrumentation.enabled

/-- The controller as diagnostics show it, around its sink. -/
def shown (controller : Controller σ κ ς) (sinkShown : String) : String :=
  Text.shownRecord "SpanCorrelationController"
    [("sink", sinkShown), ("extractors", controller.extractors.shown),
      ("enabled", Text.shownBool controller.enabled)]

/-- Take the activation of a slot back. -/
def releaseScope (controller : Controller σ κ ς) (slot : Slot κ ς) : Hook σ η (Slot κ ς) := do
  match slot.scope with
  | none => return slot
  | some scope =>
    Hook.onSink (controller.sink.release scope)
    Hook.report ⟨.trace, .correlation, "activation scope released", []⟩
    return { slot with scope := none }

/-! ### Before the call -/

/-- A call is intercepted. -/
def beforeEnter (controller : Controller σ κ ς) (request : Request) : Hook σ η (Slot κ ς) := do
  let phase : CallPhase :=
    if controller.enabled && request.operation.isSome then .pendingStart else .idle
  Hook.report ⟨.trace, .correlation, "call intercepted",
    [("service", request.service), ("phase", phase.name)]⟩
  return { request := request, phase := phase }

/-- Write the headers that pass a context on; nothing where that panics. -/
def injectedHeaders (controller : Controller σ κ ς) (context : κ) : Hook σ η Headers := do
  let (headers, _) := controller.sink.inject context [] (← get).sink
  match ← Hook.guarded .inject fun state => (controller.sink.inject context [] state).2 with
  | some () => return headers
  | none => return []

/-- A span was started for a call: make it current and pass it on. -/
def activated (controller : Controller σ κ ς) (slot : Slot κ ς) (context : κ) :
    Hook σ η (Slot κ ς) := do
  let scope ← Hook.guarded .activate (controller.sink.activate context)
  let headers ← controller.injectedHeaders context
  let ids ← Hook.guarded .correlationIds (controller.sink.correlationIds context)
  let slot : Slot κ ς :=
    { slot with
      phase := .active
      context := some context
      scope := scope
      started := true
      correlationIds := ids.join
      headers := headers }
  Hook.report ⟨.debug, .correlation, "span started",
    [("span", Redaction.sanitized (slot.request.spanName?.getD "")),
      ("trace_id", slot.traceId?.getD ""), ("injected", toString slot.headers.length)]⟩
  return slot

/-- Start the span of a call. -/
def startSpan (controller : Controller σ κ ς) (slot : Slot κ ς) (parent : κ) :
    Hook σ η (Slot κ ς) := do
  let attributes ← Hook.reading (controller.extractors.onStart slot.request)
  Hook.reportAttributes "start" attributes
  match ← Hook.guarded .start (controller.sink.start parent slot.request attributes) with
  | some (.ok context) => controller.activated slot context
  | some (.error error) =>
    Hook.reportError .start error
    return { slot with phase := .ended }
  | none => return { slot with phase := .ended }

/-- The call is about to leave. -/
def beforeExit (controller : Controller σ κ ς) (slot : Slot κ ς) : Hook σ η (Slot κ ς) := do
  if slot.phase != .pendingStart then return slot
  match ← Hook.guarded .currentContext controller.sink.currentContext with
  | none => return { slot with phase := .ended }
  | some parent =>
    let wanted ← Hook.guarded .shouldStart (controller.sink.shouldStart parent slot.request)
    let slot ←
      if wanted.getD false then controller.startSpan slot parent
      else do
        Hook.report ⟨.debug, .correlation, "span suppressed by enclosing span",
          [("span_key", slot.request.spanKey.name)]⟩
        pure { slot with phase := .suppressed }
    Hook.onSink (controller.sink.discard parent)
    return slot

/-! ### After the call -/

/-- End the span of a call. -/
def endSpan (controller : Controller σ κ ς) (request : Request) (context : κ)
    (outcome : Outcome) : Hook σ η Unit := do
  let attributes ← Hook.reading (controller.extractors.onEnd request outcome)
  Hook.reportAttributes "end" attributes
  match ← Hook.guarded .finish (controller.sink.finish context request outcome attributes) with
  | some (.ok ()) => Hook.report ⟨.debug, .correlation, "span ended", []⟩
  | some (.error error) => Hook.reportError .finish error
  | none => return ()

/-- The response of the call is there. -/
def afterEnter (controller : Controller σ κ ς) (slot : Slot κ ς) (response : Response) :
    Hook σ η (Slot κ ς) := do
  if slot.phase != .active then
    if slot.phase == .ended then
      Hook.report ⟨.debug, .correlation, "response hook after span end ignored", []⟩
    return slot
  match slot.context with
  | none =>
    Hook.report ⟨.debug, .correlation, "no active context for call, nothing to end", []⟩
    let slot ← controller.releaseScope slot
    return { slot with phase := .ended }
  | some context =>
    controller.endSpan slot.request context { response := some response }
    let slot ← controller.releaseScope { slot with context := none }
    Hook.onSink (controller.sink.discard context)
    return { slot with phase := .ended }

/-- What is reported of the failure of a call. -/
def failureText (failure : Option CallFailure) : String :=
  Text.shownOption (failure.map fun f => Text.quoted (Redaction.sanitized f.text))

/-- The call is over. -/
def afterExit (controller : Controller σ κ ς) (slot : Slot κ ς) (failure : Option CallFailure) :
    Hook σ η (Slot κ ς) := do
  let slot ←
    match slot.phase, slot.context with
    | .active, some context => do
      Hook.report ⟨.debug, .correlation, "call exited before its response hook",
        [("failure", failureText failure)]⟩
      controller.endSpan slot.request context { failure := failure }
      Hook.onSink (controller.sink.discard context)
      pure { slot with context := none }
    | _, _ => pure slot
  let slot ← controller.releaseScope slot
  return if slot.phase == .suppressed then slot else { slot with phase := .ended }

/-- A slot is given up, at whatever phase it is: its context first, then its activation. -/
def drop (controller : Controller σ κ ς) (slot : Slot κ ς) : Hook σ η Unit := do
  if let some context := slot.context then Hook.onSink (controller.sink.discard context)
  if let some scope := slot.scope then Hook.onSink (controller.sink.release scope)

/-! ### Whole calls -/

/-- Run a call between its hooks.  Where the call itself panics, its slot is given up and the panic
goes on to the host. -/
def intercept (controller : Controller σ κ ς) (request : Request)
    (call : Headers → Hook σ η (Reply (Except CallFailure Response))) :
    Hook σ η (Reply (Except CallFailure Response)) := do
  let slot ← controller.beforeEnter request
  let slot ← controller.beforeExit slot
  let reply ← call slot.headers
  match reply with
  | .returned (.ok response) =>
    let slot ← controller.afterEnter slot response
    let slot ← controller.afterExit slot response.error
    controller.drop slot
  | .returned (.error failure) =>
    let slot ← controller.afterExit slot (some failure)
    controller.drop slot
  | .panicked _ => controller.drop slot
  return reply

end Controller

end CallTracing
