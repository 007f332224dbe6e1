/-
  CallTracing/Proofs/Call/Transparency.lean
  =========================================
  **A host sees its own call, and nothing of the tracing but the headers.**

  Every operation of the sink may fail or panic whenever it is called, and so may every extractor.
  None of that reaches the host.  The body is run exactly once, what comes back is what it gave, and
  what the host keeps is what the body made of it.  The headers that the body gets are those that
  the sink wrote for a span that it started, or none (`PassedOn`).

  After the body, hooks only end the span, take its activation back and give contexts up
  (`SinkCall.closes`).  So what the record of a whole call says of the start and of the headers was
  asked before the body, where `HookStep` tells all that can have happened.
-/
import CallTracing.Proofs.Call.Passage
import CallTracing.Proofs.Call.Phases

namespace CallTracing

variable {σ κ ς η α : Type}

/-! ### What is asked after the body -/

/-- Whether a call ends a span, takes an activation back or gives a context up. -/
def SinkCall.closes : SinkCall κ ς → Bool
  | .finish .. => true
  | .release _ => true
  | .discard _ => true
  | _ => false

theorem closes_of_mem_releases {slot : Slot κ ς} {call : SinkCall κ ς}
    (hcall : call ∈ slot.releases) : call.closes = true := by
  rw [Slot.releases, Option.mem_toList, Option.map_eq_some_iff] at hcall
  obtain ⟨scope, -, rfl⟩ := hcall
  rfl

theorem closes_of_mem_givenUp {slot : Slot κ ς} {call : SinkCall κ ς}
    (hcall : call ∈ slot.givenUp) : call.closes = true := by
  rcases List.mem_append.mp hcall with hcall | hcall
  · rw [Option.mem_toList, Option.map_eq_some_iff] at hcall
    obtain ⟨context, -, rfl⟩ := hcall
    rfl
  · exact closes_of_mem_releases hcall

theorem HookStep.closes {slot slot' : Slot κ ς} {hook : HookCall} {calls : List (SinkCall κ ς)}
    (hstep : HookStep slot hook calls slot') (hhook : hook ≠ .beforeExit) {call : SinkCall κ ς}
    (hcall : call ∈ calls) : call.closes = true := by
  cases hstep with
  | notActive => cases hcall
  | answered =>
    rcases List.mem_cons.mp hcall with rfl | hcall
    · rfl
    · rcases List.mem_append.mp hcall with hcall | hcall
      · exact closes_of_mem_releases hcall
      · obtain rfl := List.mem_singleton.mp hcall
        rfl
  | orphaned => exact closes_of_mem_releases hcall
  | exited =>
    rcases List.mem_cons.mp hcall with rfl | hcall
    · rfl
    · rcases List.mem_cons.mp hcall with rfl | hcall
      · rfl
      · exact closes_of_mem_releases hcall
  | closed => exact closes_of_mem_releases hcall
  | _ => exact absurd rfl hhook

theorem closes_of_hookRun {slot : Slot κ ς} {records : List (HookRecord κ ς)}
    (hrun : HookRun slot records) (hhooks : ∀ record ∈ records, record.hook ≠ .beforeExit)
    {call : SinkCall κ ς} (hcall : call ∈ records.flatMap (·.calls)) : call.closes = true := by
  induction records generalizing slot with
  | nil => cases hcall
  | cons record rest ih =>
    obtain ⟨hstep, hrest⟩ := hrun
    rw [List.flatMap_cons] at hcall
    rcases List.mem_append.mp hcall with hcall | hcall
    · exact hstep.closes (hhooks record (by simp)) hcall
    · exact ih hrest (fun later hlater => hhooks later (by simp [hlater])) hcall

namespace Controller.Passes

variable {controller : Controller σ κ ς} {request : Request}
  {body : Headers → Hook σ η (Reply (Except CallFailure Response))}
  {before : Scene (Watched σ κ ς) η}
  {run : Reply (Except CallFailure Response) × Scene (Watched σ κ ς) η}
  {opening : HookRecord κ ς} {closing : List (HookRecord κ ς)} {found : Scene σ η}

/-- What does not close was asked before the body. -/
theorem mem_opening_iff (h : controller.Passes request body before run opening closing found)
    {call : SinkCall κ ς} (hcall : call.closes = false) :
    call ∈ askedBy (controller.freshSlot request) (opening :: closing) ↔
      call ∈ opening.calls := by
  constructor
  · intro hmem
    rw [askedBy, List.flatMap_cons] at hmem
    rcases List.mem_append.mp hmem with hmem | hmem
    · rcases List.mem_append.mp hmem with hmem | hmem
      · exact hmem
      · -- the hooks after the body are not the one before it
        have hhooks : ∀ record ∈ closing, record.hook ≠ .beforeExit := by
          intro record hrecord
          have hhook := List.mem_map_of_mem hrecord (f := (·.hook))
          rw [h.closing_hooks] at hhook
          exact ne_beforeExit_of_mem_hooks hhook
        rw [closes_of_hookRun h.hookRun.2 hhooks hmem] at hcall
        cases hcall
    · rw [closes_of_mem_givenUp hmem] at hcall
      cases hcall
  · intro hmem
    rw [askedBy_cons]
    exact List.mem_append_left _ hmem

theorem hasStarted_iff (h : controller.Passes request body before run opening closing found) :
    HasStarted request (askedBy (controller.freshSlot request) (opening :: closing)) ↔
      HasStarted request opening.calls := by
  constructor
  · rintro ⟨parent, attributes, context, hstart⟩
    exact ⟨parent, attributes, context, (h.mem_opening_iff rfl).mp hstart⟩
  · rintro ⟨parent, attributes, context, hstart⟩
    exact ⟨parent, attributes, context, (h.mem_opening_iff rfl).mpr hstart⟩

theorem step_opening (h : controller.Passes request body before run opening closing found) :
    HookStep (controller.freshSlot request) .beforeExit opening.calls opening.slot := by
  have hstep := h.hookRun.1
  rw [h.opening_hook] at hstep
  exact hstep

end Controller.Passes

/-! ### The headers -/

/-- Whether headers are those that a call is to pass on, by what the sink was asked for it. -/
structure PassedOn (request : Request) (calls : List (SinkCall κ ς)) (headers : Headers) :
    Prop where
  /-- Where a span was started and the writing of its headers came back, they are what was written,
  and nothing stood there before. -/
  written : HasStarted request calls → ∀ context given written,
    .inject context given written (.returned ()) ∈ calls → given = [] ∧ headers = written
  /-- Where no span was started, there are none. -/
  unstarted : ¬HasStarted request calls → headers = []
  /-- Where the writing did not come back, there are none, whatever was written by then. -/
  unwritten : (∀ context given written,
    .inject context given written (.returned ()) ∉ calls) → headers = []

/-- Without headers and without writing any. -/
theorem PassedOn.nil {request : Request} {calls : List (SinkCall κ ς)}
    (hcalls : ∀ context given written,
      .inject context given written (.returned ()) ∉ calls) : PassedOn request calls [] where
  written := fun _ context given written hmem => absurd hmem (hcalls context given written)
  unstarted := fun _ => rfl
  unwritten := fun _ => rfl

theorem HookStep.passedOn {slot slot' : Slot κ ς} {calls : List (SinkCall κ ς)}
    (hstep : HookStep slot .beforeExit calls slot') (hheaders : slot.headers = []) :
    PassedOn slot.request calls slot'.headers := by
  have hunwritten : ∀ {calls : List (SinkCall κ ς)},
      (∀ context given written, .inject context given written (.returned ()) ∉ calls) →
        PassedOn slot.request calls slot.headers := by
    intro calls hcalls
    rw [hheaders]
    exact .nil hcalls
  cases hstep with
  | notPending => exact hunwritten (by simp)
  | noParent => exact hunwritten (by simp)
  | suppressed => exact hunwritten (by simp)
  | notStarted => exact hunwritten (by simp)
  | started hphase parent context attributes scope written reply ids =>
    refine ⟨?_, fun hnot => absurd ⟨parent, attributes, context, by simp⟩ hnot, ?_⟩
    · intro _ context' given written' hmem
      simp only [List.mem_cons, reduceCtorEq, SinkCall.inject.injEq, List.not_mem_nil, or_false,
        false_or] at hmem
      obtain ⟨-, rfl, rfl, rfl⟩ := hmem
      exact ⟨rfl, rfl⟩
    · intro hnot
      cases reply with
      | returned done => exact absurd (by simp) (hnot context [] written)
      | panicked message => rfl

/-! ### What the host sees -/

/-- A body that also keeps a tally of its runs, each by the headers that it got. -/
def Hook.tallied (body : Headers → Hook σ η α) : Headers → Hook σ (List Headers × η) α :=
  fun headers scene =>
    let (value, after) := (body headers).run ⟨scene.session, scene.sink, scene.host.2⟩
    (value, ⟨after.session, after.sink, scene.host.1 ++ [headers], after.host⟩)

/-- What the host sees of an intercepted call, by where the body found things and what the sink was
asked for the call. -/
structure HostView (request : Request)
    (body : Headers → Hook σ η (Reply (Except CallFailure Response)))
    (before : Scene (Watched σ κ ς) η)
    (run : Reply (Except CallFailure Response) × Scene (Watched σ κ ς) η)
    (headers : Headers) (found : Scene σ η) (calls : List (SinkCall κ ς)) : Prop where
  /-- The body finds what the host keeps as it was before the call. -/
  found_host : found.host = before.host
  /-- What comes back is what the body gave; it is a panic only if the body's own. -/
  reply_eq : run.1 = ((body headers).run found).1
  /-- What the host keeps is what the body left. -/
  host_eq : run.2.host = ((body headers).run found).2.host
  /-- The record is that of the call. -/
  calls_eq : run.2.sink.calls = before.sink.calls ++ calls
  /-- The headers are those to be passed on. -/
  passedOn : PassedOn request calls headers

namespace Controller

theorem Passes.hostView {controller : Controller σ κ ς} {request : Request}
    {body : Headers → Hook σ η (Reply (Except CallFailure Response))}
    {before : Scene (Watched σ κ ς) η}
    {run : Reply (Except CallFailure Response) × Scene (Watched σ κ ς) η}
    {opening : HookRecord κ ς} {closing : List (HookRecord κ ς)} {found : Scene σ η}
    (h : controller.Passes request body before run opening closing found) :
    HostView request body before run opening.slot.headers found
      (askedBy (controller.freshSlot request) (opening :: closing)) := by
  have hpassed : PassedOn request opening.calls opening.slot.headers :=
    h.step_opening.passedOn rfl
  refine ⟨h.found_host, h.reply_eq, h.host_eq, h.calls_eq, ?_, ?_, ?_⟩
  · intro hstarted context given written hmem
    exact hpassed.written (h.hasStarted_iff.mp hstarted) context given written
      ((h.mem_opening_iff rfl).mp hmem)
  · intro hnot
    exact hpassed.unstarted fun hstarted => hnot (h.hasStarted_iff.mpr hstarted)
  · intro hnot
    refine hpassed.unwritten fun context given written hmem => ?_
    exact hnot context given written ((h.mem_opening_iff rfl).mpr hmem)

/-- A body that tallies its runs counts one. -/
theorem tally_intercept (controller : Controller σ κ ς) (request : Request)
    (body : Headers → Hook σ η (Reply (Except CallFailure Response)))
    (scene : Scene σ (List Headers × η)) :
    ∃ headers, ((controller.intercept request (Hook.tallied body)).run scene).2.host.1 =
      scene.host.1 ++ [headers] := by
  let watched : Scene (Watched σ κ ς) (List Headers × η) :=
    ⟨scene.session, ⟨scene.sink, []⟩, scene.host⟩
  obtain ⟨opening, closing, found, h⟩ :=
    controller.passes_watchCall request (Hook.tallied body) watched
  refine ⟨opening.slot.headers, ?_⟩
  have hrun := controller.watchCall_unwatched request (Hook.tallied body) watched
  have hhost := h.host_eq
  show ((controller.intercept request (Hook.tallied body)).run watched.unwatched).2.host.1 = _
  rw [hrun]
  show ((controller.watchCall request (Hook.tallied body)).run watched).2.host.1 = _
  rw [hhost]
  show found.host.1 ++ [opening.slot.headers] = _
  rw [h.found_host]

/-- **Tracing is transparent to the host.**  Whatever a sink does at each call of its operations,
and whatever the extractors of the chain do, an intercepted call runs its body exactly once and
gives back what the body gave.  The body gets the headers that the sink wrote, if it started a span
and writing them came back, and none otherwise.  Keeping the record is no different from
intercepting the call. -/
theorem transparent_intercept (controller : Controller σ κ ς) (request : Request)
    (body : Headers → Hook σ η (Reply (Except CallFailure Response)))
    (scene : Scene (Watched σ κ ς) η) :
    let run := (controller.watchCall request body).run scene
    (∃ headers found calls, HostView request body scene run headers found calls) ∧
      (∀ tally, ∃ headers, ((controller.intercept request (Hook.tallied body)).run
        ⟨scene.session, scene.sink.state, tally, scene.host⟩).2.host.1 = tally ++ [headers]) ∧
      (controller.intercept request body).run scene.unwatched = (run.1, run.2.unwatched) := by
  intro run
  obtain ⟨opening, closing, found, h⟩ := controller.passes_watchCall request body scene
  refine ⟨⟨_, found, _, h.hostView⟩, fun tally => ?_,
    controller.watchCall_unwatched request body scene⟩
  exact controller.tally_intercept request body ⟨scene.session, scene.sink.state, tally, scene.host⟩

end Controller

end CallTracing
