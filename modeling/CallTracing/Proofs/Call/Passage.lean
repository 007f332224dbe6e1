/-
  CallTracing/Proofs/Call/Passage.lean
  ====================================
  **An intercepted call is a run of hooks around one run of its body.**

  When a call is intercepted, the controller runs the hooks itself: one before the body, and then
  those that fit how the body came back (`Reply.hooks`), none if it panicked.  At the end it gives
  the slot up.  `Passes` says so of a run with the sink watched, with every call that is made; what
  the body asks of the sink is left out of the record (`Hook.unrecorded`), so that the record is
  that of this call alone.

  Every run passes so (`passes_watchCall`), and without the record it is the run of the call itself
  (`watchCall_unwatched`).  What holds of runs of hooks therefore holds of intercepted calls.
-/
import CallTracing.Proofs.Call.Interception
import CallTracing.Proofs.Call.Journal

namespace CallTracing

variable {σ κ ς η α : Type}

/-! ### The body beside the record -/

/-- A computation that leaves no record, though the sink is watched. -/
def Hook.unrecorded (m : Hook σ η α) : Hook (Watched σ κ ς) η α := fun scene =>
  let (value, after) := m.run scene.unwatched
  (value, ⟨after.session, ⟨after.sink, scene.sink.calls⟩, after.host⟩)

namespace Controller

open Hook

/-- Intercept a call and keep a record of what is asked of the sink for it. -/
def watchCall (controller : Controller σ κ ς) (request : Request)
    (body : Headers → Hook σ η (Reply (Except CallFailure Response))) :
    Hook (Watched σ κ ς) η (Reply (Except CallFailure Response)) :=
  controller.watched.intercept request fun headers => (body headers).unrecorded

variable (controller : Controller σ κ ς)

theorem mirrors_release (scope : Option ς) :
    Mirrors
      (if let some scope := scope then onSink (controller.watched.sink.release scope)
        else pure () : Hook (Watched σ κ ς) η Unit)
      (if let some scope := scope then onSink (controller.sink.release scope) else pure ()) := by
  cases scope with
  | none => exact mirrors_pure _
  | some scope => exact mirrors_onSink fun _ => rfl

theorem mirrors_drop (slot : Slot κ ς) :
    Mirrors (controller.watched.drop slot : Hook _ η _) (controller.drop slot) := by
  obtain ⟨request, phase, context, scope, started, ids, headers⟩ := slot
  cases context with
  | none => exact controller.mirrors_release scope
  | some context =>
    exact mirrors_bind (mirrors_onSink fun _ => rfl) fun _ => controller.mirrors_release scope

theorem mirrors_intercept (request : Request)
    {body' : Headers → Hook (Watched σ κ ς) η (Reply (Except CallFailure Response))}
    {body : Headers → Hook σ η (Reply (Except CallFailure Response))}
    (hbody : ∀ headers, Mirrors (body' headers) (body headers)) :
    Mirrors (controller.watched.intercept request body') (controller.intercept request body) := by
  refine mirrors_bind (controller.mirrors_beforeEnter request) fun slot => ?_
  refine mirrors_bind (controller.mirrors_beforeExit slot) fun slot => ?_
  refine mirrors_bind (hbody slot.headers) fun reply => ?_
  have hleft : ∀ slot : Slot κ ς, Mirrors
      (do controller.watched.drop slot; return reply : Hook (Watched σ κ ς) η _)
      (do controller.drop slot; return reply) := fun slot =>
    mirrors_bind (controller.mirrors_drop slot) fun _ => mirrors_pure _
  rcases reply with (failure | response) | message
  · exact mirrors_bind (controller.mirrors_afterExit slot _) hleft
  · refine mirrors_bind (controller.mirrors_afterEnter slot response) fun slot => ?_
    exact mirrors_bind (controller.mirrors_afterExit slot _) hleft
  · exact hleft slot

/-- **A record is one of the call itself**: without it, keeping it is intercepting the call. -/
theorem watchCall_unwatched (request : Request)
    (body : Headers → Hook σ η (Reply (Except CallFailure Response)))
    (scene : Scene (Watched σ κ ς) η) :
    (controller.intercept request body).run scene.unwatched =
      (((controller.watchCall request body).run scene).1,
        ((controller.watchCall request body).run scene).2.unwatched) :=
  controller.mirrors_intercept request (fun _ _ => rfl) scene

end Controller

/-! ### The hooks around a body -/

/-- The hooks that are run once a body came back. -/
def Reply.hooks : Reply (Except CallFailure Response) → List HookCall
  | .returned (.ok response) => [.afterEnter response, .afterExit response.error]
  | .returned (.error failure) => [.afterExit (some failure)]
  | .panicked _ => []

theorem ne_beforeExit_of_mem_hooks {reply : Reply (Except CallFailure Response)}
    {hook : HookCall} (hhook : hook ∈ reply.hooks) : hook ≠ .beforeExit := by
  rcases reply with (failure | response) | message
  · obtain rfl := List.mem_singleton.mp hhook
    simp
  · rcases List.mem_cons.mp hhook with rfl | hhook
    · simp
    · obtain rfl := List.mem_singleton.mp hhook
      simp
  · cases hhook

/-- All that the sink is asked by hooks on a slot that is given up after them. -/
def askedBy (slot : Slot κ ς) (records : List (HookRecord κ ς)) : List (SinkCall κ ς) :=
  records.flatMap (·.calls) ++ (lastSlot slot records).givenUp

theorem askedBy_cons (slot : Slot κ ς) (record : HookRecord κ ς)
    (rest : List (HookRecord κ ς)) :
    askedBy slot (record :: rest) = record.calls ++ askedBy record.slot rest := by
  rw [askedBy, List.flatMap_cons, List.append_assoc]
  rfl

namespace Controller

open Hook

/-- The slot of a call as it is intercepted. -/
def freshSlot (controller : Controller σ κ ς) (request : Request) : Slot κ ς where
  request := request
  phase := if controller.enabled && request.operation.isSome then .pendingStart else .idle

theorem phase_freshSlot_ne_active (controller : Controller σ κ ς) (request : Request) :
    (controller.freshSlot request).phase ≠ .active := by
  show (if controller.enabled && request.operation.isSome then CallPhase.pendingStart
    else .idle) ≠ .active
  split <;> simp

theorem phase_freshSlot_eq_pendingStart (controller : Controller σ κ ς) (request : Request) :
    (controller.freshSlot request).phase = .pendingStart ↔
      (controller.enabled && request.operation.isSome) = true := by
  show (if controller.enabled && request.operation.isSome then CallPhase.pendingStart
    else .idle) = .pendingStart ↔ _
  split <;> simp_all

variable {controller : Controller σ κ ς}

/-- After its body, a call goes through the hooks that fit, and its slot is given up. -/
def SettledBy (slot : Slot κ ς) (hooks : List HookCall) (calls : List (SinkCall κ ς)) : Prop :=
  ∃ records : List (HookRecord κ ς), records.map (·.hook) = hooks ∧ HookRun slot records ∧
    calls = askedBy slot records

theorem SettledBy.cons {slot slot' : Slot κ ς} {hook : HookCall} {hooks : List HookCall}
    {calls rest : List (SinkCall κ ς)} (hstep : HookStep slot hook calls slot')
    (hrest : SettledBy slot' hooks rest) : SettledBy slot (hook :: hooks) (calls ++ rest) := by
  obtain ⟨records, hhooks, hrun, rfl⟩ := hrest
  refine ⟨⟨hook, calls, slot'⟩ :: records, ?_, ⟨hstep, hrun⟩, ?_⟩
  · rw [List.map_cons, hhooks]
  · rw [askedBy_cons]

theorem SettledBy.closesTo {slot : Slot κ ς} {hooks : List HookCall} {calls : List (SinkCall κ ς)}
    (h : SettledBy slot hooks calls) (hhooks : ∀ hook ∈ hooks, hook ≠ .beforeExit) :
    ClosesTo slot.scope none calls := by
  obtain ⟨records, rfl, hrun, rfl⟩ := h
  -- each record hands the activation on to the next, and the last one to the giving up
  induction records generalizing slot with
  | nil => exact closesTo_givenUp slot
  | cons record rest ih =>
    obtain ⟨hstep, hrest⟩ := hrun
    rw [askedBy_cons]
    exact (hstep.closesTo (hhooks record.hook (by simp))).append
      (ih (fun hook hhook => hhooks hook (by simp [hhook])) hrest)

theorem asks_settle_hooks (controller : Controller σ κ ς) (slot : Slot κ ς)
    (reply : Reply (Except CallFailure Response)) :
    Asks controller.sink (controller.settle slot reply : Hook σ η Unit)
      fun _ calls => SettledBy slot reply.hooks calls := by
  have hdrop : ∀ slot : Slot κ ς,
      Asks controller.sink (controller.drop slot : Hook σ η Unit)
        fun _ calls => SettledBy slot [] calls :=
    fun slot => asks_givenUp ⟨[], rfl, trivial, rfl⟩
  have hexit : ∀ (slot : Slot κ ς) (failure : Option CallFailure),
      Asks controller.sink (do
        let slot ← controller.afterExit slot failure
        controller.drop slot : Hook σ η Unit)
      fun _ calls => SettledBy slot [.afterExit failure] calls := by
    intro slot failure
    refine asks_bind ((asks_afterExit slot failure).imp fun slot' first hstep => ?_)
    exact (hdrop slot').imp fun _ later hlater => hlater.cons hstep
  rcases reply with (failure | response) | message
  · exact hexit slot (some failure)
  · refine asks_bind ((asks_afterEnter slot response).imp fun slot' first hstep => ?_)
    exact (hexit slot' response.error).imp fun _ later hlater => hlater.cons hstep
  · exact hdrop slot

/-- However the body came back, the activation of the slot is taken back exactly once. -/
theorem asks_settle (controller : Controller σ κ ς) (slot : Slot κ ς)
    (reply : Reply (Except CallFailure Response)) :
    Asks controller.sink (controller.settle slot reply : Hook σ η Unit)
      fun _ calls => ClosesTo slot.scope none calls :=
  (asks_settle_hooks controller slot reply).imp fun _ _ hsettled =>
    hsettled.closesTo fun _ hhook => ne_beforeExit_of_mem_hooks hhook

/-- How an intercepted call goes: through which hooks with which calls of the sink, and around which
run of its body. -/
structure Passes (controller : Controller σ κ ς) (request : Request)
    (body : Headers → Hook σ η (Reply (Except CallFailure Response)))
    (before : Scene (Watched σ κ ς) η)
    (run : Reply (Except CallFailure Response) × Scene (Watched σ κ ς) η)
    (opening : HookRecord κ ς) (closing : List (HookRecord κ ς)) (found : Scene σ η) : Prop where
  opening_hook : opening.hook = .beforeExit
  closing_hooks : closing.map (·.hook) = run.1.hooks
  hookRun : HookRun (controller.freshSlot request) (opening :: closing)
  calls_eq : run.2.sink.calls =
    before.sink.calls ++ askedBy (controller.freshSlot request) (opening :: closing)
  /-- The body finds what the host keeps as it was. -/
  found_host : found.host = before.host
  /-- What comes back is what the body gave, with the headers of the slot. -/
  reply_eq : run.1 = ((body opening.slot.headers).run found).1
  /-- What the host keeps afterwards is what the body left. -/
  host_eq : run.2.host = ((body opening.slot.headers).run found).2.host

theorem passes_watchCall (controller : Controller σ κ ς) (request : Request)
    (body : Headers → Hook σ η (Reply (Except CallFailure Response)))
    (scene : Scene (Watched σ κ ς) η) :
    ∃ opening closing found, controller.Passes request body scene
      ((controller.watchCall request body).run scene) opening closing found := by
  let opened := (controller.watched.prepare request).run scene
  let called := ((body opened.1.headers).unrecorded).run opened.2
  obtain ⟨first, hfirst, hhost, hstep⟩ := asks_prepare controller.watched request scene
  obtain ⟨rest, hrest, hhost', hsettled⟩ :=
    asks_settle_hooks controller.watched opened.1 called.1 called.2
  obtain ⟨-, hfirst⟩ := (controller.sink.performsAll_watched _ _ _).mp hfirst
  obtain ⟨-, hrest⟩ := (controller.sink.performsAll_watched _ _ _).mp hrest
  obtain ⟨records, hhooks, hrun, rfl⟩ := hsettled
  refine ⟨⟨.beforeExit, first, opened.1⟩, records, opened.2.unwatched, rfl, ?_, ⟨hstep, hrun⟩, ?_,
    hhost, ?_, ?_⟩
  · rw [watchCall, run_intercept]
    exact hhooks
  · rw [watchCall, run_intercept]
    have hcalled : called.2.sink.calls = opened.2.sink.calls := rfl
    show ((controller.watched.settle opened.1 called.1).run called.2).2.sink.calls = _
    rw [hrest, hcalled, hfirst, askedBy_cons, List.append_assoc]
  · rw [watchCall, run_intercept]
    rfl
  · rw [watchCall, run_intercept]
    exact hhost'

end Controller

end CallTracing
