/-
  CallTracing/Proofs/Call/Turns.lean
  ==================================
  **What a step of a schedule does to its slot, and to the current context.**

  The hooks of several calls run interleaved on numbered slots.  Of all that a step does, two things
  count here: the activation that its slot holds (`Desk.scope?`) and the context that is current.
  The slots of other numbers are left alone (`StepAt`), and in front of a tracing sink there are three
  ways only (`Turning`): nothing changes, an activation begins, or one ends.  The turns of a
  schedule are these beginnings and ends in their order (`Schedule.noteTurns`).
-/
import CallTracing.Call.Schedule
import CallTracing.Proofs.Call.Nesting
import CallTracing.Proofs.Lists

namespace CallTracing

variable {σ κ ς : Type}

/-! ### Slots by their numbers -/

/-- The number of the slot that a step is about.  A whole call has a slot of its own. -/
def Step.slot? : Step → Option Nat
  | .beforeEnter n _ => some n
  | .beforeExit n => some n
  | .afterEnter n _ => some n
  | .afterExit n _ => some n
  | .drop n => some n
  | .intercept .. => none

/-- The activation that the slot of a number holds, if it is open and holds one. -/
def Desk.scope? (desk : Desk σ κ ς) (n : Nat) : Option ς := (desk.slots.lookup n).bind (·.scope)

/-! ### Steps at a slot -/

namespace Schedule

variable (controller : Controller σ κ ς)

theorem run_hookAt (n : Nat) (hook : Slot κ ς → Work σ κ ς (Slot κ ς))
    (scene : Scene σ (Desk σ κ ς)) :
    (hookAt n hook).run scene =
      (match scene.host.slots.lookup n with
        | some slot => do setSlot n (← hook slot)
        | _ => pure () : Work σ κ ς Unit).run scene := rfl

theorem run_close (n : Nat) (scene : Scene σ (Desk σ κ ς)) :
    (close controller n).run scene =
      (match scene.host.slots.lookup n with
        | some slot => do
          onDesk fun desk => { desk with slots := desk.slots.filter (·.1 != n) }
          controller.drop slot
        | _ => pure () : Work σ κ ς Unit).run scene := rfl

/-- A hook at an open slot is one of the ways through it; at a slot that is not open it is
nothing. -/
theorem hookAt_cases (n : Nat) (hook : HookCall) (scene : Scene σ (Desk σ κ ς)) :
    let after := ((hookAt n fun slot => controller.runHook slot hook).run scene).2
    (scene.host.slots.lookup n = none ∧ after = scene) ∨
      ∃ slot slot' calls, scene.host.slots.lookup n = some slot ∧
        HookStep slot hook calls slot' ∧
        controller.sink.PerformsAll scene.sink after.sink calls ∧
        ∀ m, after.host.slots.lookup m =
          if m = n then some slot' else scene.host.slots.lookup m := by
  rw [run_hookAt]
  cases hslot : scene.host.slots.lookup n with
  | none => exact .inl ⟨rfl, rfl⟩
  | some slot =>
    obtain ⟨calls, hperforms, hhost, hstep⟩ := Controller.asks_runHook controller slot hook scene
    refine .inr ⟨slot, _, calls, rfl, hstep, hperforms, fun m => ?_⟩
    let run : Slot κ ς × Scene σ (Desk σ κ ς) := (controller.runHook slot hook).run scene
    -- the hook itself leaves the desk alone
    show (run.2.host.slots.map fun entry =>
      if entry.1 = n then (n, run.1) else entry).lookup m = _
    rw [hhost, lookup_replaced, hslot]
    rfl

theorem closes_close (n : Nat) (scene : Scene σ (Desk σ κ ς)) :
    let after := ((close controller n).run scene).2
    ∃ calls, controller.sink.PerformsAll scene.sink after.sink calls ∧
      ClosesTo (scene.host.scope? n) none calls ∧
      ∀ m, after.host.slots.lookup m =
        if m = n then none else scene.host.slots.lookup m := by
  rw [run_close, Desk.scope?]
  cases hslot : scene.host.slots.lookup n with
  | none =>
    refine ⟨[], rfl, .nil none, fun m => ?_⟩
    show scene.host.slots.lookup m = _
    by_cases hm : m = n
    · rw [if_pos hm, hm, hslot]
    · rw [if_neg hm]
  | some slot =>
    -- the slot is off the desk before it is given up
    let cleared : Scene σ (Desk σ κ ς) :=
      { scene with host := { scene.host with slots := scene.host.slots.filter (·.1 != n) } }
    obtain ⟨calls, hperforms, hhost, hcloses⟩ := Controller.asks_drop slot cleared
    refine ⟨calls, hperforms, hcloses, fun m => ?_⟩
    show ((controller.drop slot).run cleared).2.host.slots.lookup m = _
    rw [hhost]
    exact lookup_removed scene.host.slots n m

theorem closes_open (n : Nat) (request : Request) (scene : Scene σ (Desk σ κ ς)) :
    let after := ((Schedule.open controller n request).run scene).2
    ∃ calls, controller.sink.PerformsAll scene.sink after.sink calls ∧
      ClosesTo (scene.host.scope? n) none calls ∧
      ∀ m, after.host.slots.lookup m =
        if m = n then some (controller.freshSlot request) else scene.host.slots.lookup m := by
  intro after
  let closed : Scene σ (Desk σ κ ς) := ((close controller n).run scene).2
  obtain ⟨calls, hperforms, hcloses, hlookup⟩ := closes_close controller n scene
  refine ⟨calls, hperforms, hcloses, fun m => ?_⟩
  show ((n, controller.freshSlot request) :: closed.host.slots).lookup m = _
  rw [lookup_entry, hlookup]
  by_cases hm : m = n <;> simp [hm]

theorem scope?_afterExit (n : Nat) (failure : Option CallFailure)
    (scene : Scene σ (Desk σ κ ς)) :
    ((runStep controller (.afterExit n failure)).run scene).2.host.scope? n = none := by
  rw [runStep]
  show (((hookAt n fun slot => controller.runHook slot (.afterExit failure)).run
    scene).2.host.slots.lookup n).bind (·.scope) = none
  rcases hookAt_cases controller n (.afterExit failure) scene with
    ⟨hslot, hafter⟩ | ⟨slot, slot', calls, -, hstep, -, hlookup⟩
  · rw [hafter, hslot, Option.bind_none]
  · rw [hlookup, if_pos rfl, Option.bind_some]
    cases hstep with
    | exited => rfl
    | closed => rfl

end Schedule

/-! ### Turns -/

/-- Of the call of a number: its activation begins, or ends. -/
inductive Turn where
  | begins (n : Nat)
  | ends (n : Nat)
deriving DecidableEq, Repr

/-- The turn of a call that held an activation, or none, and then does or does not. -/
def Turn.between (n : Nat) : Option ς → Option ς → List Turn
  | none, some _ => [.begins n]
  | some _, none => [.ends n]
  | _, _ => []

/-- The turn that a step is, by what its slot holds before and after it. -/
def Step.turns (step : Step) (before after : Desk σ κ ς) : List Turn :=
  match step.slot? with
  | none => []
  | some n => Turn.between n (before.scope? n) (after.scope? n)

namespace Schedule

/-- Run steps one after the other and note the turns. -/
def noteTurns (controller : Controller σ κ ς) : List Step → Work σ κ ς (List Turn)
  | [] => return []
  | step :: rest => do
    let before := (← get).host
    runStep controller step
    let turns := step.turns before (← get).host
    return turns ++ (← noteTurns controller rest)

theorem runSteps_append (controller : Controller σ κ ς) (early late : List Step)
    (scene : Scene σ (Desk σ κ ς)) :
    (runSteps controller (early ++ late)).run scene =
      (runSteps controller late).run ((runSteps controller early).run scene).2 := by
  induction early generalizing scene with
  | nil =>
    rw [List.nil_append, runSteps]
    rfl
  | cons step rest ih =>
    rw [List.cons_append, runSteps, runSteps]
    exact ih _

theorem run_noteTurns_append (controller : Controller σ κ ς) (early late : List Step)
    (scene : Scene σ (Desk σ κ ς)) :
    ((noteTurns controller (early ++ late)).run scene).1 =
      ((noteTurns controller early).run scene).1 ++
        ((noteTurns controller late).run ((runSteps controller early).run scene).2).1 := by
  induction early generalizing scene with
  | nil =>
    rw [List.nil_append, runSteps]
    rfl
  | cons step rest ih =>
    rw [List.cons_append, runSteps]
    show step.turns _ _ ++ _ = (step.turns _ _ ++ _) ++ _
    rw [List.append_assoc]
    exact congrArg (step.turns _ _ ++ ·) (ih _)

/-- Noting the turns is no different from running the steps. -/
theorem run_noteTurns (controller : Controller σ κ ς) (steps : List Step)
    (scene : Scene σ (Desk σ κ ς)) :
    ((runSteps controller steps).run scene).2 = ((noteTurns controller steps).run scene).2 := by
  induction steps generalizing scene with
  | nil =>
    rw [runSteps]
    rfl
  | cons step rest ih =>
    rw [runSteps]
    exact ih _

end Schedule

/-! ### In front of a tracing sink -/

/-- What becomes of the tracer and of the activation that a slot holds, where a span is to be
started or not. -/
inductive Turning (opening : Prop) (before after : Tracer) (held left : Option TraceContext) :
    Prop where
  | stays (hopening : ¬opening) (huntouched : before.Untouched after) (hleft : left = held)
  /-- A span is started and made current, and what was current is kept. -/
  | begins (hopening : opening) (hheld : held = none) (hleft : left = some before.current)
      (claimed : List SpanKey) (span : SpanContext) (hentered : before.Entered after claimed span)
  /-- What was kept is current again. -/
  | ends (hopening : ¬opening) (context : TraceContext) (hheld : held = some context)
      (hleft : left = none) (hlineage : after.lineage = before.lineage)
      (hcurrent : after.current = context)

theorem Turning.begins_iff {opening : Prop} {before after : Tracer}
    {held left : Option TraceContext} (h : Turning opening before after held left) (n m : Nat) :
    .begins m ∈ Turn.between n held left ↔ m = n ∧ opening := by
  cases h with
  | stays hopening _ hleft =>
    subst hleft
    cases left <;> simp [Turn.between, hopening]
  | begins hopening hheld hleft =>
    subst hheld hleft
    simp [Turn.between, hopening]
  | ends hopening context hheld hleft =>
    subst hheld hleft
    simp [Turn.between, hopening]

/-- Whether a slot that waits for its start can start a span, and holds no activation. -/
def Slot.Ready (slot : Slot κ ς) : Prop :=
  slot.phase = .pendingStart → slot.request.operation.isSome ∧ slot.scope = none

def Desk.Ready (desk : Desk σ κ ς) : Prop :=
  ∀ n slot, desk.slots.lookup n = some slot → slot.Ready

theorem HookStep.ready {slot slot' : Slot κ ς} {hook : HookCall} {calls : List (SinkCall κ ς)}
    (hstep : HookStep slot hook calls slot') (h : slot.Ready) : slot'.Ready := by
  intro hpending
  cases hstep with
  | notPending => exact h hpending
  | notActive => exact h hpending
  | closed =>
    have hphase : (if slot.phase = .suppressed then CallPhase.suppressed else .ended) =
        .pendingStart := hpending
    split at hphase <;> cases hphase
  | _ => cases hpending

theorem Controller.ready_freshSlot (controller : Controller σ κ ς) (request : Request) :
    (controller.freshSlot request).Ready := by
  intro hpending
  have htraced := (controller.phase_freshSlot_eq_pendingStart request).mp hpending
  exact ⟨(Bool.and_eq_true_iff.mp htraced).2, rfl⟩

namespace TracingSink

variable {sink : TracingSink} {before after : Tracer} {held left : Option TraceContext}
  {calls : List (SinkCall TraceContext TraceContext)} {slot slot' : Slot TraceContext TraceContext}

theorem turning_of_closes (h : sink.toSink.PerformsAll before after calls)
    (hcloses : ClosesTo held left calls) {opening : Prop} (hopening : ¬opening) :
    Turning opening before after held left := by
  obtain ⟨hlineage, hcurrent⟩ := performsAll_eq h hcloses.opens_nothing
  have hreleased := hcloses.released
  cases hheld : held with
  | none =>
    rw [hheld, Option.toList_none, List.append_eq_nil_iff, Option.toList_eq_nil_iff] at hreleased
    rw [hreleased.1] at hcurrent
    exact .stays hopening ⟨hlineage, hcurrent⟩ hreleased.2
  | some context =>
    rw [hheld] at hreleased
    cases hleft : left with
    | none =>
      rw [hleft, Option.toList_none, List.append_nil] at hreleased
      rw [hreleased] at hcurrent
      exact .ends hopening context rfl rfl hlineage hcurrent
    | some stayed =>
      -- what stays is what was held, so nothing was taken back
      rw [hleft] at hreleased
      have hreleased : calls.filterMap SinkCall.released? ++ [stayed] = [] ++ [context] :=
        hreleased
      obtain ⟨hnone, hsame⟩ := List.append_inj' hreleased rfl
      rw [hnone] at hcurrent
      exact .stays hopening ⟨hlineage, hcurrent⟩ (congrArg some (List.singleton_inj.mp hsame))

/-- Whether a hook on a slot is to start a span, in the context that is current. -/
def Opens (sink : TracingSink) (current : TraceContext) (slot : Slot TraceContext TraceContext)
    (hook : HookCall) : Prop :=
  hook = .beforeExit ∧ slot.phase = .pendingStart ∧ sink.shouldStart current slot.request = true

theorem turning_of_hookStep {hook : HookCall} (hstep : HookStep slot hook calls slot')
    (h : sink.toSink.PerformsAll before after calls) (hready : slot.Ready) :
    Turning (sink.Opens before.current slot hook) before after slot.scope slot'.scope := by
  by_cases hhook : hook = .beforeExit
  · subst hhook
    by_cases hpending : slot.phase = .pendingStart
    · have hscope := (hready hpending).2
      rcases opened_by hstep h hscope fun hpending => (hready hpending).1 with
        ⟨-, hshould, hleft, span, hentered⟩ | ⟨hnot, hleft, huntouched⟩
      · exact .begins ⟨rfl, hpending, hshould⟩ hscope hleft _ span hentered
      · refine .stays ?_ huntouched (hleft.trans hscope.symm)
        rintro ⟨-, -, hshould⟩
        rcases hnot with hnot | hnot
        · exact hnot hpending
        · rw [hshould] at hnot
          cases hnot
    · cases hstep with
      | notPending =>
        obtain rfl : before = after := h
        exact .stays (fun hopens => hpending hopens.2.1) ⟨rfl, rfl⟩ rfl
      | noParent hphase => exact absurd hphase hpending
      | suppressed hphase => exact absurd hphase hpending
      | notStarted hphase => exact absurd hphase hpending
      | started hphase => exact absurd hphase hpending
  · exact turning_of_closes h (hstep.closesTo hhook) fun hopens => hhook hopens.1

end TracingSink

namespace Schedule

/-- A step at the slot of a number: the slots of other numbers stay as they are. -/
structure StepAt (opening : Prop) (n : Nat)
    (before after : Scene Tracer (Desk Tracer TraceContext TraceContext)) : Prop where
  turning : Turning opening before.sink after.sink (before.host.scope? n) (after.host.scope? n)
  others : ∀ m, m ≠ n → after.host.slots.lookup m = before.host.slots.lookup m
  ready : after.host.Ready

variable {opening : Prop} {n : Nat}
  {before after : Scene Tracer (Desk Tracer TraceContext TraceContext)}

theorem StepAt.scope?_eq (h : StepAt opening n before after) {m : Nat} (hm : m ≠ n) :
    after.host.scope? m = before.host.scope? m := by
  rw [Desk.scope?, h.others m hm, Desk.scope?]

theorem StepAt.reported (h : StepAt opening n before after) (point : ReportPoint) :
    StepAt opening n before ((reportSlot point n).run after).2 :=
  ⟨h.turning, h.others, h.ready⟩

theorem stepAt_of_lookup (slot : Option (Slot TraceContext TraceContext))
    (hready : before.host.Ready) (hslot : ∀ found, slot = some found → found.Ready)
    (hlookup : ∀ m, after.host.slots.lookup m =
      if m = n then slot else before.host.slots.lookup m)
    (hturning : Turning opening before.sink after.sink (before.host.scope? n)
      (slot.bind (·.scope))) :
    StepAt opening n before after where
  turning := by
    have hscope : after.host.scope? n = slot.bind (·.scope) := by
      rw [Desk.scope?, hlookup, if_pos rfl]
    rw [hscope]
    exact hturning
  others := by
    intro m hm
    rw [hlookup, if_neg hm]
  ready := by
    intro m found hfound
    rw [hlookup] at hfound
    split at hfound
    · exact hslot found hfound
    · exact hready m found hfound

section

variable (sink : TracingSink) (extractors : ExtractorChain) (enabled : Bool)

/-- Whether a hook is to start a span, for the call whose slot has a number. -/
def Opens (sink : TracingSink) (scene : Scene Tracer (Desk Tracer TraceContext TraceContext))
    (n : Nat) (hook : HookCall) : Prop :=
  ∃ slot, scene.host.slots.lookup n = some slot ∧ sink.Opens scene.sink.current slot hook

/-- Whether a step is to start a span. -/
def StepOpens (sink : TracingSink)
    (scene : Scene Tracer (Desk Tracer TraceContext TraceContext)) : Step → Prop
  | .beforeExit n => Opens sink scene n .beforeExit
  | _ => False

theorem stepAt_hookAt (n : Nat) (hook : HookCall) (hready : before.host.Ready) :
    StepAt (Opens sink before n hook) n before ((hookAt n fun slot =>
      (sink.controller extractors enabled).runHook slot hook).run before).2 := by
  rcases hookAt_cases (sink.controller extractors enabled) n hook before with
    ⟨hslot, hafter⟩ | ⟨slot, slot', calls, hslot, hstep, hperforms, hlookup⟩
  · have hnot : ¬Opens sink before n hook := by
      rintro ⟨slot, hfound, -⟩
      rw [hslot] at hfound
      cases hfound
    rw [hafter]
    exact ⟨.stays hnot ⟨rfl, rfl⟩ rfl, fun _ _ => rfl, hready⟩
  · have hopens : Opens sink before n hook = sink.Opens before.sink.current slot hook := by
      simp [Opens, hslot]
    refine stepAt_of_lookup (some slot') hready ?_ hlookup ?_
    · rintro _ ⟨⟩
      exact hstep.ready (hready n slot hslot)
    · rw [Desk.scope?, hslot, hopens]
      exact TracingSink.turning_of_hookStep hstep hperforms (hready n slot hslot)

theorem stepAt_runStep {step : Step} (hslot : step.slot? = some n) (hready : before.host.Ready) :
    StepAt (StepOpens sink before step) n before
      ((runStep (sink.controller extractors enabled) step).run before).2 := by
  cases step with
  | beforeEnter k request =>
    obtain rfl : k = n := Option.some.inj hslot
    rw [runStep]
    obtain ⟨calls, hperforms, hcloses, hlookup⟩ :=
      closes_open (sink.controller extractors enabled) k request before
    refine StepAt.reported (stepAt_of_lookup
      (some ((sink.controller extractors enabled).freshSlot request)) hready ?_ hlookup ?_) _
    · rintro _ ⟨⟩
      exact Controller.ready_freshSlot _ _
    · exact TracingSink.turning_of_closes hperforms hcloses id
  | beforeExit k =>
    obtain rfl : k = n := Option.some.inj hslot
    rw [runStep]
    exact (stepAt_hookAt sink extractors enabled k .beforeExit hready).reported _
  | afterEnter k response =>
    obtain rfl : k = n := Option.some.inj hslot
    have hnot : StepOpens sink before (.afterEnter k response) =
        Opens sink before k (.afterEnter response) := by
      simp [StepOpens, Opens, TracingSink.Opens]
    rw [runStep, hnot]
    exact (stepAt_hookAt sink extractors enabled k (.afterEnter response) hready).reported _
  | afterExit k failure =>
    obtain rfl : k = n := Option.some.inj hslot
    have hnot : StepOpens sink before (.afterExit k failure) =
        Opens sink before k (.afterExit failure) := by
      simp [StepOpens, Opens, TracingSink.Opens]
    rw [runStep, hnot]
    exact (stepAt_hookAt sink extractors enabled k (.afterExit failure) hready).reported _
  | drop k =>
    obtain rfl : k = n := Option.some.inj hslot
    rw [runStep]
    obtain ⟨calls, hperforms, hcloses, hlookup⟩ :=
      closes_close (sink.controller extractors enabled) k before
    refine StepAt.reported (stepAt_of_lookup none hready (by simp) hlookup ?_) _
    exact TracingSink.turning_of_closes hperforms hcloses id
  | intercept => cases hslot

/-- Steps at slots keep the slots ready, and leave those alone that none of them is about. -/
theorem slots_runSteps {steps : List Step} (hslots : ∀ step ∈ steps, step.slot?.isSome)
    (hready : before.host.Ready) :
    let after := ((runSteps (sink.controller extractors enabled) steps).run before).2
    after.host.Ready ∧ ∀ n, (∀ step ∈ steps, step.slot? ≠ some n) →
      after.host.slots.lookup n = before.host.slots.lookup n := by
  induction steps generalizing before with
  | nil =>
    rw [runSteps]
    exact ⟨hready, fun _ _ => rfl⟩
  | cons step rest ih =>
    obtain ⟨m, hm⟩ := Option.isSome_iff_exists.mp (hslots step (by simp))
    have hstep := stepAt_runStep sink extractors enabled hm hready
    obtain ⟨hlast, hrest⟩ :=
      ih (fun other hother => hslots other (by simp [hother])) hstep.ready
    rw [runSteps]
    refine ⟨hlast, fun n hothers => ?_⟩
    have hne : n ≠ m := by
      rintro rfl
      exact hothers step (by simp) hm
    exact (hrest n fun other hother => hothers other (by simp [hother])).trans
      (hstep.others n hne)

theorem begins_turns_iff {step : Step} (hslot : step.slot?.isSome) (hready : before.host.Ready)
    (n : Nat) :
    let after := ((runStep (sink.controller extractors enabled) step).run before).2
    .begins n ∈ step.turns before.host after.host ↔
      step = .beforeExit n ∧ Opens sink before n .beforeExit := by
  intro after
  obtain ⟨m, hm⟩ := Option.isSome_iff_exists.mp hslot
  have hstep := stepAt_runStep sink extractors enabled hm hready
  have hturns : step.turns before.host after.host =
      Turn.between m (before.host.scope? m) (after.host.scope? m) := by
    rw [Step.turns, hm]
  rw [hturns, hstep.turning.begins_iff]
  constructor
  · rintro ⟨rfl, hopens⟩
    cases step with
    | beforeExit k =>
      obtain rfl : k = n := Option.some.inj hm
      exact ⟨rfl, hopens⟩
    | _ => exact hopens.elim
  · rintro ⟨rfl, hopens⟩
    exact ⟨Option.some.inj hm, hopens⟩

theorem beforeExit_of_begins {steps : List Step} {n : Nat}
    (hslots : ∀ step ∈ steps, step.slot?.isSome) (hready : before.host.Ready)
    (hbegins : .begins n ∈ ((noteTurns (sink.controller extractors enabled) steps).run before).1) :
    .beforeExit n ∈ steps := by
  induction steps generalizing before with
  | nil => cases hbegins
  | cons step rest ih =>
    have hslot := hslots step (by simp)
    obtain ⟨m, hm⟩ := Option.isSome_iff_exists.mp hslot
    have hstep := stepAt_runStep sink extractors enabled hm hready
    rcases List.mem_append.mp hbegins with hnow | hlater
    · obtain ⟨rfl, -⟩ := (begins_turns_iff sink extractors enabled hslot hready n).mp hnow
      exact List.mem_cons_self
    · exact List.mem_cons_of_mem _
        (ih (fun other hother => hslots other (by simp [hother])) hstep.ready hlater)

/-- A call finds its slot as it was entered, until its next step. -/
theorem lookup_entered {first between : List Step} {n : Nat} {request : Request}
    (hslots : ∀ step ∈ first ++ .beforeEnter n request :: between, step.slot?.isSome)
    (hothers : ∀ step ∈ between, step.slot? ≠ some n) (hready : before.host.Ready) :
    let controller := sink.controller extractors enabled
    ((runSteps controller (first ++ .beforeEnter n request :: between)).run
      before).2.host.slots.lookup n = some (controller.freshSlot request) := by
  intro controller
  obtain ⟨hfound, -⟩ := slots_runSteps sink extractors enabled
    (fun other hother => hslots other (List.mem_append_left _ hother)) hready
  have henter := stepAt_runStep sink extractors enabled
    (show (Step.beforeEnter n request).slot? = some n from rfl) hfound
  obtain ⟨-, hkept⟩ := slots_runSteps sink extractors enabled (fun other hother =>
    hslots other (List.mem_append_right _ (List.mem_cons_of_mem _ hother))) henter.ready
  obtain ⟨-, -, -, hlookup⟩ :=
    closes_open controller n request ((runSteps controller first).run before).2
  rw [runSteps_append, runSteps]
  refine (hkept n hothers).trans ?_
  rw [runStep]
  exact (hlookup n).trans (if_pos rfl)

end

end Schedule

end CallTracing
