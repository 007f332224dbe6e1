/-
  CallTracing/Proofs/Call/AbruptExit.lean
  =======================================
  **When the span of an intercepted call is ended.**

  An intercepted call comes to its end in one of three ways: its body gives a response, gives a
  failure, or panics.  In the first two the last hook is run, so the phase is terminal, and by the
  milestones of the call (`Milestones`) a span that was started was ended, once.  In the third no
  hook is run any more: the slot is given up as it is, and nothing that is asked of the sink then
  ends a span.

  So a started span is ended exactly once if and only if the body returned
  (`endsOnce_watchCall_iff`); where it panics the span is left without an end
  (`panicking_left_open`).
-/
import CallTracing.Proofs.Call.Lifecycle
import CallTracing.Proofs.Call.Transparency
import CallTracing.Sink.Recording

namespace CallTracing

variable {σ κ ς η : Type}

/-- Whether the sink was told exactly once to end a span, and that with the context that the start
gave, if it started one. -/
def EndsOnce (request : Request) (calls : List (SinkCall κ ς)) : Prop :=
  ∀ parent attributes context, .start parent request attributes (.returned (.ok context)) ∈ calls →
    ∃ outcome attributes' reply,
      calls.filter SinkCall.isFinish = [.finish context request outcome attributes' reply]

/-! ### The body returns -/

/-- What was started and is no longer under way was ended once. -/
theorem Milestones.endsOnce {request : Request} {slot : Slot κ ς} {calls : List (SinkCall κ ς)}
    (h : Milestones request slot (milestones calls)) (hphase : slot.phase ≠ .active) :
    EndsOnce request calls := by
  intro parent attributes context hstart
  rw [← mem_milestones_start] at hstart
  rw [← filter_isFinish_milestones]
  generalize milestones calls = word at h hstart
  -- of the four stages only the last has a started span and is not under way
  cases h with
  | untried => cases hstart
  | refused _ _ parent' attributes' reply hreply =>
    rw [List.mem_singleton, SinkCall.start.injEq] at hstart
    exact absurd hstart.2.2.2.symm (hreply context)
  | underWay hactive => exact absurd hactive hphase
  | finished _ _ parent' context' attributes' attributes'' outcome reply =>
    simp only [List.mem_cons, SinkCall.start.injEq, Reply.returned.injEq, Except.ok.injEq,
      reduceCtorEq, List.not_mem_nil, or_false] at hstart
    obtain ⟨-, -, -, rfl⟩ := hstart
    exact ⟨outcome, attributes'', reply, rfl⟩

theorem milestones_givenUp (slot : Slot κ ς) : milestones slot.givenUp = [] := by
  rw [Slot.givenUp, milestones_append, milestones_releases]
  cases slot.context with
  | none => rfl
  | some context => rfl

/-- The hook before the body ends no span. -/
theorem HookStep.finish_of_beforeExit {slot slot' : Slot κ ς} {calls : List (SinkCall κ ς)}
    (hstep : HookStep slot .beforeExit calls slot') : calls.filter SinkCall.isFinish = [] := by
  cases hstep with
  | notPending => rfl
  | noParent => rfl
  | suppressed => rfl
  | notStarted => rfl
  | started => rfl

theorem Reply.exits_of_returned (result : Except CallFailure Response) :
    ∃ failure, HookCall.afterExit failure ∈ Reply.hooks (.returned result) := by
  rcases result with failure | response
  · exact ⟨some failure, by simp [Reply.hooks]⟩
  · exact ⟨response.error, by simp [Reply.hooks]⟩

namespace Controller.Passes

variable {controller : Controller σ κ ς} {request : Request}
  {body : Headers → Hook σ η (Reply (Except CallFailure Response))}
  {before : Scene (Watched σ κ ς) η}
  {run : Reply (Except CallFailure Response) × Scene (Watched σ κ ς) η}
  {opening : HookRecord κ ς} {closing : List (HookRecord κ ς)} {found : Scene σ η}

theorem endsOnce_of_returned
    (h : controller.Passes request body before run opening closing found)
    {result : Except CallFailure Response} (hreply : run.1 = .returned result) :
    EndsOnce request (askedBy (controller.freshSlot request) (opening :: closing)) := by
  have hmilestones : Milestones request
      (lastSlot (controller.freshSlot request) (opening :: closing))
      (milestones (askedBy (controller.freshSlot request) (opening :: closing))) := by
    rw [askedBy, milestones_append, milestones_givenUp, List.append_nil]
    exact milestones_run (.untried (controller.phase_freshSlot_ne_active request) rfl) h.hookRun
  refine hmilestones.endsOnce fun hactive => ?_
  obtain ⟨failure, hexit⟩ := Reply.exits_of_returned result
  rw [← hreply, ← h.closing_hooks] at hexit
  have hterminal := terminal_of_exited h.hookRun (List.mem_cons_of_mem opening.hook hexit)
  rw [hactive] at hterminal
  cases hterminal

/-- No hook is left to run, and giving the slot up ends no span. -/
theorem finish_of_panicked
    (h : controller.Passes request body before run opening closing found)
    {message : Option String} (hreply : run.1 = .panicked message) :
    (askedBy (controller.freshSlot request) (opening :: closing)).filter SinkCall.isFinish =
      [] := by
  have hclosing : closing = [] := by
    have hhooks := h.closing_hooks
    rw [hreply] at hhooks
    exact List.map_eq_nil_iff.mp hhooks
  rw [hclosing, askedBy_cons, List.filter_append, h.step_opening.finish_of_beforeExit,
    List.nil_append]
  show opening.slot.givenUp.filter SinkCall.isFinish = []
  rw [← filter_isFinish_milestones, milestones_givenUp]
  rfl

end Controller.Passes

/-! ### Every exit -/

namespace Controller

/-- **A started span is ended exactly once if and only if the body returned.**  Whatever a sink
does at each call of its operations, the record of an intercepted call holds exactly one end of the
span that was started, if the body came back with a response or with a failure.  If the body
panicked the record holds no end at all, and the panic goes on to the host.  The record is that of
the call, and keeping it is no different from intercepting the call. -/
theorem endsOnce_watchCall_iff (controller : Controller σ κ ς) (request : Request)
    (body : Headers → Hook σ η (Reply (Except CallFailure Response)))
    (scene : Scene (Watched σ κ ς) η) :
    let run := (controller.watchCall request body).run scene
    ∃ headers found calls,
      run.1 = ((body headers).run found).1 ∧
      run.2.sink.calls = scene.sink.calls ++ calls ∧
      (EndsOnce request calls ↔ (HasStarted request calls → ∃ result, run.1 = .returned result)) ∧
      (∀ message, run.1 = .panicked message → calls.filter SinkCall.isFinish = []) ∧
      (controller.intercept request body).run scene.unwatched = (run.1, run.2.unwatched) := by
  intro run
  obtain ⟨opening, closing, found, h⟩ := controller.passes_watchCall request body scene
  refine ⟨opening.slot.headers, found, _, h.reply_eq, h.calls_eq, ?_,
    fun message => h.finish_of_panicked, controller.watchCall_unwatched request body scene⟩
  constructor
  · intro honce hstarted
    cases hreply : run.1 with
    | returned result => exact ⟨result, rfl⟩
    | panicked message =>
      obtain ⟨parent, attributes, context, hstart⟩ := hstarted
      obtain ⟨outcome, attributes', reply, hfinish⟩ := honce parent attributes context hstart
      rw [h.finish_of_panicked hreply] at hfinish
      cases hfinish
  · intro hreturned parent attributes context hstart
    obtain ⟨result, hreply⟩ := hreturned ⟨parent, attributes, context, hstart⟩
    exact h.endsOnce_of_returned hreply parent attributes context hstart

end Controller

/-! ### A span left open -/

/-- A call that is traced. -/
def storedObject : Request where
  service := "S3"
  operation := some "PutObject"
  payload := AssembledPayload.toPayload { typeName := "PutObjectRequest" } 0

/-- A controller without extractors in front of a recording sink. -/
def Recording.plainController : Controller Recording.State (Option Recording.Mark) Unit where
  sink := Recording.RecordingSink.toSink {}
  extractors := []

/-- Where the body panics, the span that was started is not ended, and the host gets the panic. -/
theorem panicking_left_open :
    let run := (Recording.plainController.watchCall storedObject fun _ =>
      return .panicked (some "out of memory")).run ⟨{}, { state := {} }, ()⟩
    run.1 = .panicked (some "out of memory") ∧ HasStarted storedObject run.2.sink.calls ∧
      run.2.sink.calls.filter SinkCall.isFinish = [] ∧
        ¬EndsOnce storedObject run.2.sink.calls := by
  intro run
  have hstart : .start none storedObject .empty
      (.returned (.ok (some ⟨1, [.rpcClient, .httpClient]⟩))) ∈ run.2.sink.calls := by
    with_unfolding_all exact List.mem_of_getElem? (i := 2) rfl
  have hfinish : run.2.sink.calls.filter SinkCall.isFinish = [] := by with_unfolding_all rfl
  refine ⟨rfl, ⟨_, _, _, hstart⟩, hfinish, fun honce => ?_⟩
  obtain ⟨outcome, attributes, reply, hone⟩ := honce _ _ _ hstart
  rw [hfinish] at hone
  cases hone

end CallTracing
