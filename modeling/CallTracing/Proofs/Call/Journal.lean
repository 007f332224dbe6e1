/-
  CallTracing/Proofs/Call/Journal.lean
  ====================================
  **The journal of a call.**

  A host that intercepts a call may run the three later hooks on its slot in any order, leave some
  out and repeat others.  `Controller.journal` runs such a sequence with the sink watched and keeps,
  hook by hook, what the sink was asked and how the slot was left.

  Three results make the journal usable.  Whatever the sink does, each entry of a journal is one of
  the ways through a hook (`hookRun_journal`).  No call is left out (`calls_journal`).  And watching
  changes nothing: without the records, the watched run is the run itself, with the same slots,
  events and states (`journal_unwatched`).
-/
import CallTracing.Proofs.Call.Watching

namespace CallTracing

variable {σ κ ς η α β : Type}

/-! ### Journals -/

/-- What one hook asked of the sink, and how it left the slot. -/
structure HookRecord (κ ς : Type) where
  hook : HookCall
  calls : List (SinkCall κ ς)
  slot : Slot κ ς

/-- What a call asked of the sink, when it was intercepted and at each hook after that. -/
structure Journal (κ ς : Type) where
  entered : List (SinkCall κ ς)
  /-- The slot as the call got it. -/
  slot : Slot κ ς
  hooks : List (HookRecord κ ς)

/-- All calls that the sink got, oldest first. -/
def Journal.calls (journal : Journal κ ς) : List (SinkCall κ ς) :=
  journal.entered ++ journal.hooks.flatMap (·.calls)

/-- A slot after hooks were run on it. -/
def lastSlot (slot : Slot κ ς) (records : List (HookRecord κ ς)) : Slot κ ς :=
  records.foldl (fun _ record => record.slot) slot

/-- Whether records are those of hooks run one after the other, from a slot on. -/
def HookRun (slot : Slot κ ς) : List (HookRecord κ ς) → Prop
  | [] => True
  | record :: rest => HookStep slot record.hook record.calls record.slot ∧ HookRun record.slot rest

theorem HookStep.request_eq {slot slot' : Slot κ ς} {hook : HookCall} {calls : List (SinkCall κ ς)}
    (hstep : HookStep slot hook calls slot') : slot'.request = slot.request := by
  cases hstep <;> rfl

theorem request_lastSlot {slot : Slot κ ς} {records : List (HookRecord κ ς)}
    (hrun : HookRun slot records) : (lastSlot slot records).request = slot.request := by
  induction records generalizing slot with
  | nil => rfl
  | cons record rest ih =>
    obtain ⟨hstep, hrest⟩ := hrun
    exact (ih hrest).trans hstep.request_eq

theorem hookRun_append (slot : Slot κ ς) (first rest : List (HookRecord κ ς)) :
    HookRun slot (first ++ rest) ↔ HookRun slot first ∧ HookRun (lastSlot slot first) rest := by
  induction first generalizing slot with
  | nil => simp [HookRun, lastSlot]
  | cons record first ih => simp [HookRun, lastSlot, ih, and_assoc]

/-! ### Keeping a journal -/

/-- A computation with the calls that it makes. -/
def Hook.noting (m : Hook (Watched σ κ ς) η α) :
    Hook (Watched σ κ ς) η (α × List (SinkCall κ ς)) := do
  let before := (← get).sink.calls.length
  let value ← m
  return (value, (← get).sink.calls.drop before)

namespace Controller

/-- Run hooks on a slot one after the other. -/
def runHooks (controller : Controller σ κ ς) (slot : Slot κ ς) :
    List HookCall → Hook σ η (Slot κ ς)
  | [] => return slot
  | hook :: rest => do
    let slot ← controller.runHook slot hook
    controller.runHooks slot rest

/-- Intercept a call and run hooks on its slot. -/
def passThrough (controller : Controller σ κ ς) (request : Request) (hooks : List HookCall) :
    Hook σ η (Slot κ ς) := do
  let slot ← controller.beforeEnter request
  controller.runHooks slot hooks

/-- The records of hooks that are run on a slot one after the other. -/
def noteHooks (controller : Controller σ κ ς) (slot : Slot κ ς) :
    List HookCall → Hook (Watched σ κ ς) η (List (HookRecord κ ς))
  | [] => return []
  | hook :: rest => do
    let (slot, calls) ← Hook.noting (controller.watched.runHook slot hook)
    let records ← controller.noteHooks slot rest
    return ⟨hook, calls, slot⟩ :: records

/-- The journal of a call that is intercepted and passes through hooks. -/
def journal (controller : Controller σ κ ς) (request : Request) (hooks : List HookCall) :
    Hook (Watched σ κ ς) η (Journal κ ς) := do
  let (slot, entered) ← Hook.noting (controller.watched.beforeEnter request)
  let records ← controller.noteHooks slot hooks
  return ⟨entered, slot, records⟩

end Controller

/-! ### What a journal holds -/

theorem Hook.run_noting (m : Hook (Watched σ κ ς) η α) (scene : Scene (Watched σ κ ς) η) :
    (Hook.noting m).run scene =
      (((m.run scene).1, (m.run scene).2.sink.calls.drop scene.sink.calls.length),
        (m.run scene).2) := rfl

/-- The calls that are noted are those that are made. -/
theorem Hook.Asks.noting {sink : Sink σ κ ς} {m : Hook (Watched σ κ ς) η α}
    {post : α → List (SinkCall κ ς) → Prop} (h : Hook.Asks sink.watched m post)
    (scene : Scene (Watched σ κ ς) η) :
    post ((Hook.noting m).run scene).1.1 ((Hook.noting m).run scene).1.2 := by
  obtain ⟨calls, hperforms, -, hpost⟩ := h scene
  obtain ⟨-, hcalls⟩ := (sink.performsAll_watched _ _ _).mp hperforms
  rw [Hook.run_noting, hcalls, List.drop_left]
  exact hpost

/-- What is noted is what the watched sink adds to its record. -/
theorem Hook.Asks.calls_noting {sink : Sink σ κ ς} {m : Hook (Watched σ κ ς) η α}
    {post : α → List (SinkCall κ ς) → Prop} (h : Hook.Asks sink.watched m post)
    (scene : Scene (Watched σ κ ς) η) :
    ((Hook.noting m).run scene).2.sink.calls =
      scene.sink.calls ++ ((Hook.noting m).run scene).1.2 := by
  obtain ⟨calls, hperforms, -, -⟩ := h scene
  obtain ⟨-, hcalls⟩ := (sink.performsAll_watched _ _ _).mp hperforms
  rw [Hook.run_noting, hcalls, List.drop_left]

namespace Controller

variable (controller : Controller σ κ ς)

theorem hookRun_noteHooks (slot : Slot κ ς) (hooks : List HookCall)
    (scene : Scene (Watched σ κ ς) η) :
    HookRun slot ((controller.noteHooks slot hooks).run scene).1 := by
  induction hooks generalizing slot scene with
  | nil => trivial
  | cons hook rest ih =>
    exact ⟨(asks_runHook controller.watched slot hook).noting scene, ih _ _⟩

theorem hooks_noteHooks (slot : Slot κ ς) (hooks : List HookCall)
    (scene : Scene (Watched σ κ ς) η) :
    ((controller.noteHooks slot hooks).run scene).1.map (·.hook) = hooks := by
  induction hooks generalizing slot scene with
  | nil => rfl
  | cons hook rest ih => exact congrArg (hook :: ·) (ih _ _)

theorem calls_noteHooks (slot : Slot κ ς) (hooks : List HookCall)
    (scene : Scene (Watched σ κ ς) η) :
    ((controller.noteHooks slot hooks).run scene).2.sink.calls =
      scene.sink.calls ++ ((controller.noteHooks slot hooks).run scene).1.flatMap (·.calls) := by
  induction hooks generalizing slot scene with
  | nil => exact (List.append_nil _).symm
  | cons hook rest ih =>
    have hstep := (asks_runHook controller.watched slot hook).calls_noting scene
    have hrest := ih ((Hook.noting (controller.watched.runHook slot hook)).run scene).1.1
      ((Hook.noting (controller.watched.runHook slot hook)).run scene).2
    rw [hstep, List.append_assoc] at hrest
    exact hrest

/-- The slot of a call as it gets it, for which the sink was asked nothing. -/
theorem entered_journal (request : Request) (hooks : List HookCall)
    (scene : Scene (Watched σ κ ς) η) :
    ((controller.journal request hooks).run scene).1.entered = [] ∧
      ((controller.journal request hooks).run scene).1.slot =
        { request := request
          phase :=
            if controller.enabled && request.operation.isSome then .pendingStart else .idle } := by
  have henter : Hook.Asks controller.watched.sink
      (controller.watched.beforeEnter request : Hook (Watched σ κ ς) η _) fun slot calls =>
        calls = [] ∧ slot =
          { request := request
            phase :=
              if controller.enabled && request.operation.isSome then .pendingStart else .idle } :=
    asks_beforeEnter controller.watched ⟨rfl, rfl⟩
  exact henter.noting scene

theorem hookRun_journal (request : Request) (hooks : List HookCall)
    (scene : Scene (Watched σ κ ς) η) :
    HookRun ((controller.journal request hooks).run scene).1.slot
      ((controller.journal request hooks).run scene).1.hooks :=
  controller.hookRun_noteHooks _ _ _

theorem hooks_journal (request : Request) (hooks : List HookCall)
    (scene : Scene (Watched σ κ ς) η) :
    ((controller.journal request hooks).run scene).1.hooks.map (·.hook) = hooks :=
  controller.hooks_noteHooks _ _ _

/-- A journal leaves no call out. -/
theorem calls_journal (request : Request) (hooks : List HookCall)
    (scene : Scene (Watched σ κ ς) η) :
    ((controller.journal request hooks).run scene).2.sink.calls =
      scene.sink.calls ++ ((controller.journal request hooks).run scene).1.calls := by
  have henter : Hook.Asks controller.watched.sink
      (controller.watched.beforeEnter request : Hook (Watched σ κ ς) η _) fun _ _ => True :=
    asks_beforeEnter controller.watched trivial
  have hentered := henter.calls_noting scene
  have hhooks := controller.calls_noteHooks
    ((Hook.noting (controller.watched.beforeEnter request)).run scene).1.1 hooks
    ((Hook.noting (controller.watched.beforeEnter request)).run scene).2
  rw [hentered, List.append_assoc] at hhooks
  exact hhooks

end Controller

/-! ### The run that a journal is of -/

namespace Controller

variable (controller : Controller σ κ ς)

theorem noteHooks_unwatched (slot : Slot κ ς) (hooks : List HookCall)
    (scene : Scene (Watched σ κ ς) η) :
    (controller.runHooks slot hooks).run scene.unwatched =
      (lastSlot slot ((controller.noteHooks slot hooks).run scene).1,
        ((controller.noteHooks slot hooks).run scene).2.unwatched) := by
  induction hooks generalizing slot scene with
  | nil => rfl
  | cons hook rest ih =>
    show (controller.runHooks ((controller.runHook slot hook).run scene.unwatched).1 rest).run
      ((controller.runHook slot hook).run scene.unwatched).2 = _
    rw [controller.mirrors_runHook slot hook scene]
    exact ih _ _

/-- **A journal is one of the call itself**: without the records, keeping it is running it. -/
theorem journal_unwatched (request : Request) (hooks : List HookCall)
    (scene : Scene (Watched σ κ ς) η) :
    (controller.passThrough request hooks).run scene.unwatched =
      (lastSlot ((controller.journal request hooks).run scene).1.slot
          ((controller.journal request hooks).run scene).1.hooks,
        ((controller.journal request hooks).run scene).2.unwatched) := by
  show (controller.runHooks ((controller.beforeEnter request).run scene.unwatched).1 hooks).run
    ((controller.beforeEnter request).run scene.unwatched).2 = _
  rw [controller.mirrors_beforeEnter request scene]
  exact controller.noteHooks_unwatched _ _ _

end Controller

end CallTracing
