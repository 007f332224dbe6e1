/-
  CallTracing/Proofs/Call/Conduct.lean
  ====================================
  **What a hook asks of the sink, and what becomes of the slot.**

  `Hook.Asks` is a small logic for computations in a scene: it speaks of the calls that a
  computation makes to the sink, in order, and of its value.  The sink is any sink.

  `HookStep` then says, once for all, what one hook can do to a slot: one case for each way through
  the code, with every call that is made on that way.  `asks_runHook` proves that the hooks of a
  controller do nothing else, so that later results go by cases on `HookStep` and never look into a
  hook again.
-/
import CallTracing.Call.Controller
import CallTracing.Proofs.Sink.Watched

namespace CallTracing

variable {σ κ ς η α β : Type}

/-! ### Computations and the calls they make -/

namespace Hook

/-- From wherever it starts, a computation makes calls to the sink and gives a value such that
`post` holds of both.  What the host keeps is left alone. -/
def Asks (sink : Sink σ κ ς) (m : Hook σ η α) (post : α → List (SinkCall κ ς) → Prop) : Prop :=
  ∀ scene, ∃ calls,
    sink.PerformsAll scene.sink (m.run scene).2.sink calls ∧
      (m.run scene).2.host = scene.host ∧ post (m.run scene).1 calls

variable {sink : Sink σ κ ς}

theorem Asks.imp {m : Hook σ η α} {post post' : α → List (SinkCall κ ς) → Prop}
    (h : Asks sink m post) (himp : ∀ a calls, post a calls → post' a calls) :
    Asks sink m post' := by
  intro scene
  obtain ⟨calls, hcalls, hhost, hpost⟩ := h scene
  exact ⟨calls, hcalls, hhost, himp _ _ hpost⟩

theorem asks_pure {a : α} {post : α → List (SinkCall κ ς) → Prop} (h : post a []) :
    Asks sink (pure a : Hook σ η α) post :=
  fun _ => ⟨[], rfl, rfl, h⟩

/-- One computation after another makes the calls of the one and then those of the other. -/
theorem asks_bind {m : Hook σ η α} {next : α → Hook σ η β}
    {post : β → List (SinkCall κ ς) → Prop}
    (h : Asks sink m fun a first => Asks sink (next a) fun b rest => post b (first ++ rest)) :
    Asks sink (m >>= next) post := by
  intro scene
  obtain ⟨first, hfirst, hhost, hnext⟩ := h scene
  obtain ⟨rest, hrest, hhost', hpost⟩ := hnext (m.run scene).2
  refine ⟨first ++ rest, ?_, hhost'.trans hhost, hpost⟩
  exact (sink.performsAll_append _ _ _ _).mpr ⟨_, hfirst, hrest⟩

theorem asks_reading {r : Reading α} {post : α → List (SinkCall κ ς) → Prop}
    (h : ∀ a, post a []) : Asks sink (reading r : Hook σ η α) post :=
  fun _ => ⟨[], rfl, rfl, h _⟩

theorem asks_report {event : Event} {post : Unit → List (SinkCall κ ς) → Prop} (h : post () []) :
    Asks sink (report event : Hook σ η Unit) post :=
  asks_reading fun _ => h

theorem asks_reportAll {events : List Event} {post : Unit → List (SinkCall κ ς) → Prop}
    (h : post () []) : Asks sink (reportAll events : Hook σ η Unit) post := by
  induction events with
  | nil => exact asks_pure h
  | cons event events ih =>
    show Asks sink (report event >>= fun _ => reportAll events) post
    exact asks_bind (asks_report ih)

theorem asks_reportError {operation : SinkOperation} {error : TraceError}
    {post : Unit → List (SinkCall κ ς) → Prop} (h : post () []) :
    Asks sink (reportError operation error : Hook σ η Unit) post := by
  unfold reportError
  split
  · exact asks_report h
  · split
    · exact asks_report h
    · exact asks_report h

theorem asks_reportAttributes {phase : String} {set : AttributeSet}
    {post : Unit → List (SinkCall κ ς) → Prop} (h : post () []) :
    Asks sink (reportAttributes phase set : Hook σ η Unit) post :=
  asks_bind (asks_report (asks_reportAll h))

/-- A change of the sink's state that is one call of the sink. -/
theorem asks_onSink {change : σ → σ} {post : Unit → List (SinkCall κ ς) → Prop}
    (call : SinkCall κ ς) (hcall : ∀ state, sink.Performs state (change state) call)
    (h : post () [call]) :
    Asks sink (onSink change : Hook σ η Unit) post :=
  fun scene => ⟨[call], ⟨_, hcall scene.sink, rfl⟩, rfl, h⟩

/-- What is left to do once an operation of the sink came back. -/
def settled (operation : SinkOperation) (events : List Event) (reply : Reply α) :
    Hook σ η (Option α) := do
  reportAll events
  match reply with
  | .returned value => return some value
  | .panicked message =>
    report ⟨.warn, .correlation, "telemetry sink panicked",
      [("operation", operation.name), ("panic", Redaction.sanitized (panicText message))]⟩
    return none

theorem run_guarded (operation : SinkOperation) (act : Operation σ α) (scene : Scene σ η) :
    (guarded operation act).run scene =
      (settled operation (act scene.sink).events (act scene.sink).reply).run
        { scene with sink := (act scene.sink).state } := rfl

theorem asks_settled {operation : SinkOperation} {events : List Event} {reply : Reply α}
    {post : Option α → List (SinkCall κ ς) → Prop} (h : post reply.value? []) :
    Asks sink (settled operation events reply : Hook σ η (Option α)) post := by
  refine asks_bind (asks_reportAll ?_)
  cases reply with
  | returned value => exact asks_pure h
  | panicked message => exact asks_bind (asks_report (asks_pure h))

/-- An operation of the sink is called once, and what it returned is the value.  The call may tell
something of the state that it found. -/
theorem asks_guarded {operation : SinkOperation} {act : Operation σ α}
    {post : Option α → List (SinkCall κ ς) → Prop} (call : σ → Reply α → SinkCall κ ς)
    (hcall : ∀ state, sink.Performs state (act state).state (call state (act state).reply))
    (h : ∀ state reply, post reply.value? [call state reply]) :
    Asks sink (guarded operation act : Hook σ η (Option α)) post := by
  intro scene
  have hsettled : Asks sink
      (settled operation (act scene.sink).events (act scene.sink).reply : Hook σ η (Option α))
      fun value rest => post value (call scene.sink (act scene.sink).reply :: rest) :=
    asks_settled (h _ _)
  obtain ⟨rest, hperforms, hhost, hpost⟩ :=
    hsettled { scene with sink := (act scene.sink).state }
  rw [run_guarded]
  exact ⟨_ :: rest, ⟨_, hcall scene.sink, hperforms⟩, hhost, hpost⟩

end Hook

/-! ### What a hook can do -/

/-- A hook that a host runs on the slot of a call. -/
inductive HookCall where
  | beforeExit
  | afterEnter (response : Response)
  | afterExit (failure : Option CallFailure)

/-- What a hook tells of the call's end: its response or its failure, never both. -/
def HookCall.outcome? : HookCall → Option Outcome
  | .beforeExit => none
  | .afterEnter response => some { response := some response }
  | .afterExit failure => some { failure := failure }

/-- The call that takes the activation of a slot back, if the slot holds one. -/
def Slot.releases (slot : Slot κ ς) : List (SinkCall κ ς) := (slot.scope.map .release).toList

/-- The headers of a slot: what was written, unless writing it panicked. -/
def injected (written : Headers) : Reply Unit → Headers
  | .returned () => written
  | .panicked _ => []

/-- The ways through the hooks of a call: from which slot, by which hook, with which calls of the
sink, and to which slot. -/
inductive HookStep (slot : Slot κ ς) : HookCall → List (SinkCall κ ς) → Slot κ ς → Prop where
  /-- There is no span to be started. -/
  | notPending (hphase : slot.phase ≠ .pendingStart) : HookStep slot .beforeExit [] slot
  /-- The sink does not know the current context. -/
  | noParent (hphase : slot.phase = .pendingStart) (message : Option String) :
      HookStep slot .beforeExit [.currentContext (.panicked message)]
        { slot with phase := .ended }
  /-- The sink wants no span for the call. -/
  | suppressed (hphase : slot.phase = .pendingStart) (parent : κ) (wanted : Reply Bool)
      (hwanted : wanted.value? ≠ some true) :
      HookStep slot .beforeExit
        [.currentContext (.returned parent), .shouldStart parent slot.request wanted,
          .discard parent]
        { slot with phase := .suppressed }
  /-- The sink was told to start a span and did not. -/
  | notStarted (hphase : slot.phase = .pendingStart) (parent : κ) (attributes : AttributeSet)
      (reply : Reply (Except TraceError κ)) (hreply : ∀ context, reply ≠ .returned (.ok context)) :
      HookStep slot .beforeExit
        [.currentContext (.returned parent), .shouldStart parent slot.request (.returned true),
          .start parent slot.request attributes reply, .discard parent]
        { slot with phase := .ended }
  /-- A span was started; what comes after that may fail, each for itself. -/
  | started (hphase : slot.phase = .pendingStart) (parent context : κ)
      (attributes : AttributeSet) (scope : Reply ς) (written : Headers) (reply : Reply Unit)
      (ids : Reply (Option (String × String))) :
      HookStep slot .beforeExit
        [.currentContext (.returned parent), .shouldStart parent slot.request (.returned true),
          .start parent slot.request attributes (.returned (.ok context)),
          .activate context scope, .inject context [] written reply,
          .correlationIds context ids, .discard parent]
        { slot with
          phase := .active
          context := some context
          scope := scope.value?
          started := true
          correlationIds := ids.value?.join
          headers := injected written reply }
  /-- There is no span that a response could end. -/
  | notActive (hphase : slot.phase ≠ .active) (response : Response) :
      HookStep slot (.afterEnter response) [] slot
  /-- The response ends the span. -/
  | answered (hphase : slot.phase = .active) (context : κ) (hcontext : slot.context = some context)
      (response : Response) (attributes : AttributeSet) (reply : Reply (Except TraceError Unit)) :
      HookStep slot (.afterEnter response)
        (.finish context slot.request { response := some response } attributes reply ::
          (slot.releases ++ [.discard context]))
        { slot with phase := .ended, context := none, scope := none }
  /-- The slot is active without a context. -/
  | orphaned (hphase : slot.phase = .active) (hcontext : slot.context = none)
      (response : Response) :
      HookStep slot (.afterEnter response) slot.releases
        { slot with phase := .ended, scope := none }
  /-- The call is over before its response came: the failure ends the span. -/
  | exited (hphase : slot.phase = .active) (context : κ) (hcontext : slot.context = some context)
      (failure : Option CallFailure) (attributes : AttributeSet)
      (reply : Reply (Except TraceError Unit)) :
      HookStep slot (.afterExit failure)
        (.finish context slot.request { failure := failure } attributes reply ::
          .discard context :: slot.releases)
        { slot with phase := .ended, context := none, scope := none }
  /-- The call is over, and no span is to be ended. -/
  | closed (hidle : slot.phase ≠ .active ∨ slot.context = none) (failure : Option CallFailure) :
      HookStep slot (.afterExit failure) slot.releases
        { slot with
          phase := if slot.phase = .suppressed then .suppressed else .ended
          scope := none }

namespace Controller

open Hook

/-- Run a hook. -/
def runHook (controller : Controller σ κ ς) (slot : Slot κ ς) : HookCall → Hook σ η (Slot κ ς)
  | .beforeExit => controller.beforeExit slot
  | .afterEnter response => controller.afterEnter slot response
  | .afterExit failure => controller.afterExit slot failure

variable {controller : Controller σ κ ς}

/-! ### Each hook for itself -/

theorem asks_beforeEnter (controller : Controller σ κ ς) {request : Request}
    {post : Slot κ ς → List (SinkCall κ ς) → Prop}
    (h : post
      { request := request
        phase := if controller.enabled && request.operation.isSome then .pendingStart else .idle }
      []) :
    Asks controller.sink (controller.beforeEnter request : Hook σ η _) post :=
  asks_bind (asks_report (asks_pure h))

theorem asks_releaseScope {slot : Slot κ ς} {post : Slot κ ς → List (SinkCall κ ς) → Prop}
    (h : post { slot with scope := none } slot.releases) :
    Asks controller.sink (controller.releaseScope slot : Hook σ η _) post := by
  obtain ⟨request, phase, context, scope, started, ids, headers⟩ := slot
  cases scope with
  | none => exact asks_pure h
  | some scope =>
    refine asks_bind (asks_onSink (.release scope) (fun _ => rfl) ?_)
    exact asks_bind (asks_report (asks_pure h))

/-- Headers once written are kept unless writing them panicked. -/
theorem asks_written (controller : Controller σ κ ς) (context : κ) (headers : Headers) :
    Asks controller.sink (do
      match ← guarded .inject fun state => (controller.sink.inject context [] state).2 with
      | some () => return headers
      | none => return [] : Hook σ η Headers)
      fun value calls => ∃ written reply,
        value = injected headers reply ∧ calls = [.inject context [] written reply] := by
  refine asks_bind (asks_guarded
    (fun state => .inject context [] (controller.sink.inject context [] state).1)
    (fun _ => ⟨rfl, rfl, rfl⟩) fun state reply => ?_)
  cases reply with
  | returned done => exact asks_pure ⟨_, .returned done, rfl, rfl⟩
  | panicked message => exact asks_pure ⟨_, .panicked message, rfl, rfl⟩

theorem asks_injectedHeaders {context : κ} {post : Headers → List (SinkCall κ ς) → Prop}
    (h : ∀ written reply, post (injected written reply) [.inject context [] written reply]) :
    Asks controller.sink (controller.injectedHeaders context : Hook σ η _) post := by
  intro scene
  let headers := (controller.sink.inject context [] scene.sink).1
  obtain ⟨_, hperforms, hhost, written, reply, hvalue, rfl⟩ :=
    asks_written controller context headers scene
  -- the headers that the hook takes are those that the call tells of
  obtain ⟨_, ⟨rfl, _⟩, _⟩ := id hperforms
  refine ⟨[.inject context [] headers reply], hperforms, hhost, ?_⟩
  have hpost := h headers reply
  rw [← hvalue] at hpost
  exact hpost

theorem asks_activated {slot : Slot κ ς} {context : κ}
    {post : Slot κ ς → List (SinkCall κ ς) → Prop}
    (h : ∀ scope written reply ids,
      post
        { slot with
          phase := .active
          context := some context
          scope := scope.value?
          started := true
          correlationIds := ids.value?.join
          headers := injected written reply }
        [.activate context scope, .inject context [] written reply,
          .correlationIds context ids]) :
    Asks controller.sink (controller.activated slot context : Hook σ η _) post := by
  refine asks_bind (asks_guarded (fun _ => .activate context) (fun _ => ⟨rfl, rfl⟩)
    fun _ scope => ?_)
  refine asks_bind (asks_injectedHeaders fun written reply => ?_)
  refine asks_bind (asks_guarded (fun _ => .correlationIds context) (fun _ => ⟨rfl, rfl⟩)
    fun _ ids => ?_)
  exact asks_bind (asks_report (asks_pure (h scope written reply ids)))

/-- The hook before the exit, where the sink said to start a span. -/
theorem asks_startSpan {slot : Slot κ ς} {parent : κ}
    {post : Slot κ ς → List (SinkCall κ ς) → Prop}
    (hnot : ∀ attributes reply, (∀ context, reply ≠ .returned (.ok context)) →
      post { slot with phase := .ended } [.start parent slot.request attributes reply])
    (hstarted : ∀ attributes context scope written reply ids,
      post
        { slot with
          phase := .active
          context := some context
          scope := scope.value?
          started := true
          correlationIds := ids.value?.join
          headers := injected written reply }
        [.start parent slot.request attributes (.returned (.ok context)),
          .activate context scope, .inject context [] written reply,
          .correlationIds context ids]) :
    Asks controller.sink (controller.startSpan slot parent : Hook σ η _) post := by
  refine asks_bind (asks_reading fun attributes => asks_bind (asks_reportAttributes ?_))
  refine asks_bind (asks_guarded (fun _ => .start parent slot.request attributes)
    (fun _ => ⟨rfl, rfl⟩) fun _ reply => ?_)
  rcases reply with (error | context) | message
  · exact asks_bind (asks_reportError (asks_pure (hnot _ _ (by simp))))
  · exact asks_activated (hstarted _ _)
  · exact asks_pure (hnot _ _ (by simp))

theorem asks_beforeExit (slot : Slot κ ς) :
    Asks controller.sink (controller.beforeExit slot : Hook σ η _)
      fun slot' calls => HookStep slot .beforeExit calls slot' := by
  unfold beforeExit
  by_cases hphase : slot.phase = .pendingStart
  · rw [if_neg (by simp [hphase])]
    refine asks_bind (asks_guarded (fun _ => .currentContext) (fun _ => ⟨rfl, rfl⟩)
      fun _ current => ?_)
    rcases current with parent | message
    · refine asks_bind (asks_guarded (fun _ => .shouldStart parent slot.request)
        (fun _ => ⟨rfl, rfl⟩) fun _ wanted => ?_)
      by_cases hwanted : wanted.value? = some true
      · obtain rfl : wanted = .returned true := by
          cases wanted <;> simp_all [Reply.value?]
        refine asks_bind (asks_startSpan (fun attributes reply hreply => ?_)
          fun attributes context scope written reply ids => ?_)
        · exact asks_bind (asks_onSink (.discard parent) (fun _ => rfl)
            (asks_pure (.notStarted hphase _ _ _ hreply)))
        · exact asks_bind (asks_onSink (.discard parent) (fun _ => rfl)
            (asks_pure (.started hphase _ _ _ _ _ _ _)))
      · have hgetD : wanted.value?.getD false = false := by
          cases h : wanted.value? with
          | none => rfl
          | some value => cases value <;> simp_all
        rw [hgetD, if_neg (by simp)]
        refine asks_bind (asks_report (asks_bind (asks_pure ?_)))
        refine asks_bind (asks_onSink (.discard parent) (fun _ => rfl) (asks_pure ?_))
        exact .suppressed hphase _ _ hwanted
    · exact asks_pure (.noParent hphase message)
  · rw [if_pos (by simp [hphase])]
    exact asks_pure (.notPending hphase)

/-- Ending a span is one call of the sink, whatever comes of it. -/
theorem asks_endSpan {request : Request} {context : κ} {outcome : Outcome}
    {post : Unit → List (SinkCall κ ς) → Prop}
    (h : ∀ attributes reply, post () [.finish context request outcome attributes reply]) :
    Asks controller.sink (controller.endSpan request context outcome : Hook σ η _) post := by
  refine asks_bind (asks_reading fun attributes => asks_bind (asks_reportAttributes ?_))
  refine asks_bind (asks_guarded (fun _ => .finish context request outcome attributes)
    (fun _ => ⟨rfl, rfl⟩) fun _ reply => ?_)
  rcases reply with (error | done) | message
  · exact asks_reportError (h _ _)
  · exact asks_report (h _ _)
  · exact asks_pure (h _ _)

theorem asks_afterEnter (slot : Slot κ ς) (response : Response) :
    Asks controller.sink (controller.afterEnter slot response : Hook σ η _)
      fun slot' calls => HookStep slot (.afterEnter response) calls slot' := by
  unfold afterEnter
  by_cases hphase : slot.phase = .active
  · rw [if_neg (by simp [hphase])]
    cases hcontext : slot.context with
    | none =>
      refine asks_bind (asks_report (asks_bind (asks_releaseScope (asks_pure ?_))))
      have hstep := HookStep.orphaned hphase hcontext response
      simpa using hstep
    | some context =>
      refine asks_bind (asks_endSpan fun attributes reply => ?_)
      refine asks_bind (asks_releaseScope ?_)
      refine asks_bind (asks_onSink (.discard context) (fun _ => rfl) (asks_pure ?_))
      exact .answered hphase context hcontext response attributes reply
  · rw [if_pos (by simp [hphase])]
    by_cases hended : slot.phase = .ended
    · rw [if_pos (by simp [hended])]
      exact asks_bind (asks_report (asks_pure (.notActive hphase response)))
    · rw [if_neg (by simp [hended])]
      exact asks_pure (.notActive hphase response)

theorem asks_afterExit (slot : Slot κ ς) (failure : Option CallFailure) :
    Asks controller.sink (controller.afterExit slot failure : Hook σ η _)
      fun slot' calls => HookStep slot (.afterExit failure) calls slot' := by
  unfold afterExit
  split
  · next context hphase hcontext =>
    refine asks_bind (asks_report (asks_bind (asks_endSpan fun attributes reply => ?_)))
    refine asks_bind (asks_onSink (.discard context) (fun _ => rfl) (asks_bind (asks_pure ?_)))
    refine asks_bind (asks_releaseScope (asks_pure ?_))
    have hstep := HookStep.exited hphase context hcontext failure attributes reply
    simpa [Slot.releases, hphase] using hstep
  · next hother =>
    have hidle : slot.phase ≠ .active ∨ slot.context = none := by
      cases hcontext : slot.context with
      | none => exact Or.inr rfl
      | some context => exact Or.inl fun hphase => hother context hphase hcontext
    refine asks_bind (asks_pure (asks_bind (asks_releaseScope (asks_pure ?_))))
    have hstep := HookStep.closed hidle failure
    by_cases hphase : slot.phase = .suppressed
    · simpa [Slot.releases, hphase] using hstep
    · simpa [Slot.releases, hphase] using hstep

theorem asks_runHook (controller : Controller σ κ ς) (slot : Slot κ ς) (hook : HookCall) :
    Asks controller.sink (controller.runHook slot hook : Hook σ η _)
      fun slot' calls => HookStep slot hook calls slot' := by
  cases hook with
  | beforeExit => exact asks_beforeExit slot
  | afterEnter response => exact asks_afterEnter slot response
  | afterExit failure => exact asks_afterExit slot failure

end Controller

end CallTracing
