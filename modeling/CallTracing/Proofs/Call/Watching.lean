/-
  CallTracing/Proofs/Call/Watching.lean
  =====================================
  **Watching a sink changes nothing.**  A controller is the same for every sink, so it cannot tell a
  watched sink from the sink itself.  `Hook.Mirrors` says that a computation with the one is, once
  the record of the calls is left out, the same computation with the other: the same value, the same
  events, the same states.  It holds of every hook (`mirrors_runHook`).
-/
import CallTracing.Proofs.Call.Conduct

namespace CallTracing

variable {σ κ ς η α β : Type}

/-- A controller whose sink is watched. -/
def Controller.watched (controller : Controller σ κ ς) : Controller (Watched σ κ ς) κ ς where
  sink := controller.sink.watched
  extractors := controller.extractors
  enabled := controller.enabled

/-- A scene without the record of its sink's calls. -/
def Scene.unwatched (scene : Scene (Watched σ κ ς) η) : Scene σ η :=
  ⟨scene.session, scene.sink.state, scene.host⟩

/-- Whether a computation with a watched sink is, without the record, another one with the sink
itself. -/
def Hook.Mirrors (m' : Hook (Watched σ κ ς) η α) (m : Hook σ η α) : Prop :=
  ∀ scene, m.run scene.unwatched = ((m'.run scene).1, (m'.run scene).2.unwatched)

/-! ### Computations in a scene -/

namespace Hook

theorem mirrors_pure (a : α) :
    Mirrors (pure a : Hook (Watched σ κ ς) η α) (pure a) := fun _ => rfl

theorem mirrors_bind {m' : Hook (Watched σ κ ς) η α} {m : Hook σ η α}
    {next' : α → Hook (Watched σ κ ς) η β} {next : α → Hook σ η β}
    (h : Mirrors m' m) (hnext : ∀ a, Mirrors (next' a) (next a)) :
    Mirrors (m' >>= next') (m >>= next) := by
  intro scene
  show (next (m.run scene.unwatched).1).run (m.run scene.unwatched).2 = _
  rw [h scene]
  exact hnext _ _

theorem mirrors_reading (r : Reading α) :
    Mirrors (reading r : Hook (Watched σ κ ς) η α) (reading r) := fun _ => rfl

theorem mirrors_reportAll (events : List Event) :
    Mirrors (reportAll events : Hook (Watched σ κ ς) η Unit) (reportAll events) := by
  induction events with
  | nil => exact mirrors_pure ()
  | cons event events ih => exact mirrors_bind (mirrors_reading _) fun _ => ih

theorem mirrors_onSink {change' : Watched σ κ ς → Watched σ κ ς} {change : σ → σ}
    (h : ∀ watched, (change' watched).state = change watched.state) :
    Mirrors (onSink change' : Hook (Watched σ κ ς) η Unit) (onSink change) := by
  intro scene
  show _ = (_, Scene.mk _ (change' scene.sink).state _)
  rw [h]
  rfl

theorem mirrors_settled (operation : SinkOperation) (events : List Event) (reply : Reply α) :
    Mirrors (settled operation events reply : Hook (Watched σ κ ς) η (Option α))
      (settled operation events reply) := by
  refine mirrors_bind (mirrors_reportAll events) fun _ => ?_
  cases reply with
  | returned value => exact mirrors_pure _
  | panicked message => exact mirrors_bind (mirrors_reading _) fun _ => mirrors_pure _

theorem mirrors_guarded {operation : SinkOperation} {act' : Operation (Watched σ κ ς) α}
    {act : Operation σ α} (hreply : ∀ watched, (act' watched).reply = (act watched.state).reply)
    (hstate : ∀ watched, (act' watched).state.state = (act watched.state).state)
    (hevents : ∀ watched, (act' watched).events = (act watched.state).events) :
    Mirrors (guarded operation act' : Hook (Watched σ κ ς) η (Option α))
      (guarded operation act) := by
  intro scene
  have hsettled := mirrors_settled operation (act' scene.sink).events (act' scene.sink).reply
    { scene with sink := (act' scene.sink).state }
  rw [run_guarded, run_guarded]
  rw [hreply, hevents] at hsettled ⊢
  rw [← hsettled]
  show _ = (settled _ _ _).run (Scene.mk _ (act' scene.sink).state.state _)
  rw [hstate]
  rfl

end Hook

/-! ### Hooks -/

namespace Controller

open Hook

variable (controller : Controller σ κ ς)

theorem mirrors_beforeEnter (request : Request) :
    Mirrors (controller.watched.beforeEnter request : Hook _ η _)
      (controller.beforeEnter request) :=
  mirrors_bind (mirrors_reading _) fun _ => mirrors_pure _

theorem mirrors_releaseScope (slot : Slot κ ς) :
    Mirrors (controller.watched.releaseScope slot : Hook _ η _)
      (controller.releaseScope slot) := by
  unfold releaseScope
  cases slot.scope with
  | none => exact mirrors_pure _
  | some scope =>
    refine mirrors_bind (mirrors_onSink fun _ => rfl) fun _ => ?_
    exact mirrors_bind (mirrors_reading _) fun _ => mirrors_pure _

theorem mirrors_reportAttributes (phase : String) (set : AttributeSet) :
    Mirrors (reportAttributes phase set : Hook (Watched σ κ ς) η Unit)
      (reportAttributes phase set) :=
  mirrors_bind (mirrors_reading _) fun _ => mirrors_reportAll _

theorem mirrors_reportError (operation : SinkOperation) (error : TraceError) :
    Mirrors (reportError operation error : Hook (Watched σ κ ς) η Unit)
      (reportError operation error) := by
  unfold reportError
  split
  · exact mirrors_reading _
  · split
    · exact mirrors_reading _
    · exact mirrors_reading _

theorem mirrors_written (headers : Headers) (value : Option Unit) :
    Mirrors
      (match value with | some () => return headers | none => return [] :
        Hook (Watched σ κ ς) η Headers)
      (match value with | some () => return headers | none => return []) := by
  cases value with
  | none => exact mirrors_pure _
  | some done => exact mirrors_pure _

theorem mirrors_injectedHeaders (context : κ) :
    Mirrors (controller.watched.injectedHeaders context : Hook _ η _)
      (controller.injectedHeaders context) := by
  intro scene
  let headers := (controller.sink.inject context [] scene.sink.state).1
  have hguarded : Mirrors
      (guarded .inject fun state => (controller.watched.sink.inject context [] state).2 :
        Hook (Watched σ κ ς) η _)
      (guarded .inject fun state => (controller.sink.inject context [] state).2) :=
    mirrors_guarded (fun _ => rfl) (fun _ => rfl) fun _ => rfl
  exact mirrors_bind hguarded (mirrors_written headers) scene

theorem mirrors_activated (slot : Slot κ ς) (context : κ) :
    Mirrors (controller.watched.activated slot context : Hook _ η _)
      (controller.activated slot context) := by
  refine mirrors_bind (mirrors_guarded (fun _ => rfl) (fun _ => rfl) fun _ => rfl) fun _ => ?_
  refine mirrors_bind (controller.mirrors_injectedHeaders context) fun _ => ?_
  refine mirrors_bind (mirrors_guarded (fun _ => rfl) (fun _ => rfl) fun _ => rfl) fun _ => ?_
  exact mirrors_bind (mirrors_reading _) fun _ => mirrors_pure _

theorem mirrors_startSpan (slot : Slot κ ς) (parent : κ) :
    Mirrors (controller.watched.startSpan slot parent : Hook _ η _)
      (controller.startSpan slot parent) := by
  refine mirrors_bind (mirrors_reading _) fun _ => ?_
  refine mirrors_bind (mirrors_reportAttributes _ _) fun _ => ?_
  refine mirrors_bind (mirrors_guarded (fun _ => rfl) (fun _ => rfl) fun _ => rfl) fun reply => ?_
  rcases reply with _ | error | context
  · exact mirrors_pure _
  · exact mirrors_bind (mirrors_reportError _ _) fun _ => mirrors_pure _
  · exact controller.mirrors_activated slot context

theorem mirrors_beforeExit (slot : Slot κ ς) :
    Mirrors (controller.watched.beforeExit slot : Hook _ η _) (controller.beforeExit slot) := by
  unfold beforeExit
  split
  · exact mirrors_pure _
  · refine mirrors_bind (mirrors_guarded (fun _ => rfl) (fun _ => rfl) fun _ => rfl)
      fun current => ?_
    cases current with
    | none => exact mirrors_pure _
    | some parent =>
      refine mirrors_bind (mirrors_guarded (fun _ => rfl) (fun _ => rfl) fun _ => rfl)
        fun wanted => ?_
      have hrest : ∀ slot : Slot κ ς, Mirrors
          (do onSink (controller.watched.sink.discard parent); return slot :
            Hook (Watched σ κ ς) η _)
          (do onSink (controller.sink.discard parent); return slot) := fun slot =>
        mirrors_bind (mirrors_onSink fun _ => rfl) fun _ => mirrors_pure _
      split
      · exact mirrors_bind (controller.mirrors_startSpan slot parent) hrest
      · refine mirrors_bind (mirrors_reading _) fun _ => ?_
        exact mirrors_bind (mirrors_pure _) hrest

theorem mirrors_endSpan (request : Request) (context : κ) (outcome : Outcome) :
    Mirrors (controller.watched.endSpan request context outcome : Hook _ η _)
      (controller.endSpan request context outcome) := by
  refine mirrors_bind (mirrors_reading _) fun _ => ?_
  refine mirrors_bind (mirrors_reportAttributes _ _) fun _ => ?_
  refine mirrors_bind (mirrors_guarded (fun _ => rfl) (fun _ => rfl) fun _ => rfl) fun reply => ?_
  rcases reply with _ | error | done
  · exact mirrors_pure _
  · exact mirrors_reportError _ _
  · exact mirrors_reading _

theorem mirrors_afterEnter (slot : Slot κ ς) (response : Response) :
    Mirrors (controller.watched.afterEnter slot response : Hook _ η _)
      (controller.afterEnter slot response) := by
  unfold afterEnter
  split
  · split
    · exact mirrors_bind (mirrors_reading _) fun _ => mirrors_pure _
    · exact mirrors_pure _
  · split
    · refine mirrors_bind (mirrors_reading _) fun _ => ?_
      exact mirrors_bind (controller.mirrors_releaseScope _) fun _ => mirrors_pure _
    · refine mirrors_bind (controller.mirrors_endSpan _ _ _) fun _ => ?_
      refine mirrors_bind (controller.mirrors_releaseScope _) fun _ => ?_
      exact mirrors_bind (mirrors_onSink fun _ => rfl) fun _ => mirrors_pure _

theorem mirrors_afterExit (slot : Slot κ ς) (failure : Option CallFailure) :
    Mirrors (controller.watched.afterExit slot failure : Hook _ η _)
      (controller.afterExit slot failure) := by
  unfold afterExit
  have hrest : ∀ slot : Slot κ ς, Mirrors
      (do
        let slot ← controller.watched.releaseScope slot
        return if slot.phase == .suppressed then slot else { slot with phase := .ended } :
          Hook (Watched σ κ ς) η _)
      (do
        let slot ← controller.releaseScope slot
        return if slot.phase == .suppressed then slot else { slot with phase := .ended }) :=
    fun slot => mirrors_bind (controller.mirrors_releaseScope slot) fun _ => mirrors_pure _
  split
  · refine mirrors_bind (mirrors_reading _) fun _ => ?_
    refine mirrors_bind (controller.mirrors_endSpan _ _ _) fun _ => ?_
    refine mirrors_bind (mirrors_onSink fun _ => rfl) fun _ => ?_
    exact mirrors_bind (mirrors_pure _) hrest
  · exact mirrors_bind (mirrors_pure _) hrest

theorem mirrors_runHook (slot : Slot κ ς) (hook : HookCall) :
    Mirrors (controller.watched.runHook slot hook : Hook _ η _)
      (controller.runHook slot hook) := by
  cases hook with
  | beforeExit => exact controller.mirrors_beforeExit slot
  | afterEnter response => exact controller.mirrors_afterEnter slot response
  | afterExit failure => exact controller.mirrors_afterExit slot failure

end Controller

end CallTracing
