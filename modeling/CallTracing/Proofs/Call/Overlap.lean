/-
  CallTracing/Proofs/Call/Overlap.lean
  ====================================
  **The current context after calls that overlap.**

  On one thread the hooks of several calls may run interleaved, each call's own hooks in their order
  (`Interleaved`).  An activation that is taken back makes current again what was current when it
  was made, whatever other calls have activated since.  So where two calls overlap without one being
  inside the other, the one that ends last brings back the context of the one that ended first,
  though that call is over.

  A call takes its turn where the policy wants a span for it (`begins_noteTurns_iff`), and which
  context is current at the end can be read off the turns.  `Returns` strips them from their end: the
  last end together with all from its beginning on.  The context is the one from before all calls if
  that leaves nothing, and otherwise one whose span was started since.

  The invariant is `Course`.  It says of each activation that is held what `Stands` says of the
  current context, only of the turns before that activation began.
-/
import CallTracing.Proofs.Call.Turns

namespace CallTracing

/-! ### Turns that come back -/

/-- Whether turns end where they began: the last of them is an end, and those before its beginning
end where they began, too. -/
inductive Returns : List Turn → Prop where
  | nil : Returns []
  | stretch (n : Nat) (earlier middle : List Turn) (hlast : .begins n ∉ middle)
      (hearlier : Returns earlier) : Returns (earlier ++ .begins n :: (middle ++ [.ends n]))

theorem not_returns_begins (turns : List Turn) (n : Nat) : ¬Returns (turns ++ [.begins n]) := by
  intro h
  generalize hword : turns ++ [.begins n] = word at h
  cases h with
  | nil => simp at hword
  | stretch m earlier middle =>
    have hlast := congrArg List.getLast? hword
    simp [List.getLast?_append, List.getLast?_cons] at hlast

theorem returns_stretch_iff {n : Nat} {earlier middle : List Turn} (hlast : .begins n ∉ middle) :
    Returns (earlier ++ .begins n :: (middle ++ [.ends n])) ↔ Returns earlier := by
  constructor
  · intro h
    generalize hword : earlier ++ .begins n :: (middle ++ [.ends n]) = word at h
    cases h with
    | nil => simp at hword
    | stretch m earlier' middle' hlast' hearlier =>
      have hword' : (earlier ++ .begins n :: middle) ++ [.ends n] =
          (earlier' ++ .begins m :: middle') ++ [.ends m] := by simpa using hword
      obtain ⟨hword', hends⟩ := List.append_inj' hword' rfl
      obtain rfl : n = m := by simpa using hends
      rw [(append_separator_inj hlast hlast' hword').1]
      exact hearlier
  · exact .stretch n earlier middle hlast

/-! ### How a context stands -/

/-- The span of the context is one that was started here, at that place or later. -/
def TraceContext.StartedSince (context : TraceContext) (first : Nat) : Prop :=
  ∃ span index, context.span = some (.started span index) ∧ first ≤ index

/-- The current span is not one that is yet to be started. -/
def Tracer.KnowsCurrent (tracer : Tracer) : Prop :=
  ∀ span index, tracer.current.span = some (.started span index) → index < tracer.spans.length

theorem Tracer.KnowsCurrent.not_startedSince {tracer : Tracer} (h : tracer.KnowsCurrent) :
    ¬tracer.current.StartedSince tracer.spans.length := by
  rintro ⟨span, index, hspan, hle⟩
  have hlt := h span index hspan
  omega

/-- What is current after turns: the context before them if they return, else one of theirs. -/
def Stands (base : TraceContext) (first : Nat) (turns : List Turn) (context : TraceContext) :
    Prop :=
  (Returns turns ∧ context = base) ∨ (¬Returns turns ∧ context.StartedSince first)

theorem stands_nil (base : TraceContext) (first : Nat) : Stands base first [] base :=
  .inl ⟨.nil, rfl⟩

theorem Stands.begins {base context : TraceContext} {first : Nat} (turns : List Turn) (n : Nat)
    (h : context.StartedSince first) : Stands base first (turns ++ [.begins n]) context :=
  .inr ⟨not_returns_begins turns n, h⟩

theorem Stands.ends {base context : TraceContext} {first n : Nat} {earlier middle : List Turn}
    (hlast : .begins n ∉ middle) (h : Stands base first earlier context) :
    Stands base first (earlier ++ .begins n :: (middle ++ [.ends n])) context := by
  rw [Stands, returns_stretch_iff hlast]
  exact h

/-! ### The course of overlapping calls -/

section

variable {base : TraceContext} {first : Nat} {turns : List Turn}
  {before after : Scene Tracer (Desk Tracer TraceContext TraceContext)}

/-- How things stand after turns: the current context, and what each activation gives back. -/
structure Course (base : TraceContext) (first : Nat) (turns : List Turn)
    (scene : Scene Tracer (Desk Tracer TraceContext TraceContext)) : Prop where
  current : Stands base first turns scene.sink.current
  first_le : first ≤ scene.sink.spans.length
  held : ∀ n context, scene.host.scope? n = some context →
    ∃ early late, turns = early ++ .begins n :: late ∧ .begins n ∉ late ∧
      Stands base first early context

theorem Course.held_snoc (h : Course base first turns before) {turn : Turn} {m : Nat}
    (hturn : turn ≠ .begins m) {context : TraceContext}
    (hscope : before.host.scope? m = some context) :
    ∃ early late, turns ++ [turn] = early ++ .begins m :: late ∧ .begins m ∉ late ∧
      Stands base first early context := by
  obtain ⟨early, late, rfl, hlate, hstands⟩ := h.held m context hscope
  refine ⟨early, late ++ [turn], by simp, ?_, hstands⟩
  simp [hlate, Ne.symm hturn]

theorem course_step {opening : Prop} {n : Nat} (h : Course base first turns before)
    (hstep : Schedule.StepAt opening n before after) :
    Course base first
      (turns ++ Turn.between n (before.host.scope? n) (after.host.scope? n)) after := by
  have hothers : ∀ {m}, m ≠ n → after.host.scope? m = before.host.scope? m :=
    fun hm => hstep.scope?_eq hm
  have hturning := hstep.turning
  generalize hheld : before.host.scope? n = held, hleft : after.host.scope? n = left at hturning
  cases hturning with
  | stays _ huntouched hsame =>
    subst hsame
    have hnone : Turn.between n left left = [] := by cases left <;> rfl
    rw [hnone, List.append_nil]
    refine ⟨?_, ?_, fun m context hscope => h.held m context ?_⟩
    · rw [huntouched.current_eq]
      exact h.current
    · rw [Tracer.length_of_lineage huntouched.lineage_eq]
      exact h.first_le
    · by_cases hm : m = n
      · rw [hm, hheld, ← hleft, ← hm]
        exact hscope
      · rw [← hothers hm]
        exact hscope
  | begins _ hnone hsome claimed span hentered =>
    subst hnone hsome
    show Course base first (turns ++ [.begins n]) after
    have hlength : after.sink.spans.length = before.sink.spans.length + 1 := by
      rw [← Tracer.length_lineage, hentered.lineage_eq, List.length_append,
        Tracer.length_lineage]
      rfl
    refine ⟨.begins turns n ?_, ?_, fun m context hscope => ?_⟩
    · rw [hentered.current_eq]
      exact ⟨span, before.sink.spans.length, rfl, h.first_le⟩
    · have hle := h.first_le
      omega
    · by_cases hm : m = n
      · -- what this call holds is what was current until now
        subst hm
        obtain rfl : before.sink.current = context := Option.some.inj (hleft.symm.trans hscope)
        exact ⟨turns, [], rfl, by simp, h.current⟩
      · rw [hothers hm] at hscope
        exact h.held_snoc (by simpa using Ne.symm hm) hscope
  | ends _ context hsome hnone hlineage hcurrent =>
    subst hsome hnone
    show Course base first (turns ++ [.ends n]) after
    -- what is given back stands as it did before this call began
    obtain ⟨early, late, rfl, hlate, hstands⟩ := h.held n context hheld
    refine ⟨?_, ?_, fun m context hscope => ?_⟩
    · rw [hcurrent, List.append_assoc]
      exact hstands.ends hlate
    · rw [Tracer.length_of_lineage hlineage]
      exact h.first_le
    · by_cases hm : m = n
      · rw [hm, hleft] at hscope
        cases hscope
      · rw [hothers hm] at hscope
        exact h.held_snoc (by simp) hscope

end

/-! ### Interleaved calls -/

/-- The hooks of a call in their order.  A call that failed has no response. -/
def wholeCall (n : Nat) (request : Request) (response : Option Response)
    (failure : Option CallFailure) : List Step :=
  .beforeEnter n request :: .beforeExit n ::
    ((response.map (Step.afterEnter n)).toList ++ [.afterExit n failure])

/-- Steps of whole calls only: those of one number are the hooks of one call, in their order. -/
def Interleaved (steps : List Step) : Prop :=
  ∀ step ∈ steps, ∃ n request response failure, step.slot? = some n ∧
    steps.filter (·.slot? = some n) = wholeCall n request response failure

namespace Interleaved

variable {steps : List Step}

theorem slot?_isSome (h : Interleaved steps) : ∀ step ∈ steps, step.slot?.isSome := by
  intro step hstep
  obtain ⟨n, -, -, -, hslot, -⟩ := h step hstep
  rw [hslot]
  rfl

theorem last_step (h : Interleaved steps) {n : Nat} {step : Step} (hstep : step ∈ steps)
    (hslot : step.slot? = some n) :
    ∃ early failure late, steps = early ++ .afterExit n failure :: late ∧
      ∀ step ∈ late, step.slot? ≠ some n := by
  obtain ⟨k, request, response, failure, hslot', hcall⟩ := h step hstep
  obtain rfl : k = n := Option.some.inj (hslot'.symm.trans hslot)
  rw [wholeCall, ← List.cons_append, ← List.cons_append, List.filter_eq_append_iff] at hcall
  obtain ⟨front, back, rfl, -, hback⟩ := hcall
  obtain ⟨between, late, rfl, -, -, hlate⟩ := List.filter_eq_cons_iff.mp hback
  refine ⟨front ++ between, failure, late, by simp, fun other hother => ?_⟩
  simpa using List.filter_eq_nil_iff.mp hlate other hother

theorem around_beforeExit {early late : List Step} {n : Nat} {request : Request}
    (h : Interleaved (early ++ .beforeExit n :: late)) (henter : .beforeEnter n request ∈ early) :
    .beforeExit n ∉ early ∧ .beforeExit n ∉ late ∧
      ∃ first between, early = first ++ .beforeEnter n request :: between ∧
        ∀ step ∈ between, step.slot? ≠ some n := by
  obtain ⟨k, request', response, failure, hslot, hcall⟩ := h (.beforeExit n) (by simp)
  obtain rfl : n = k := Option.some.inj hslot
  rw [List.filter_append, List.filter_cons_of_pos (by simp [Step.slot?]), wholeCall] at hcall
  have hrest : Step.beforeExit n ∉
      (response.map (Step.afterEnter n)).toList ++ [.afterExit n failure] := by
    cases response <;> simp
  have hmem : ∀ {steps : List Step} {step : Step}, step ∈ steps → step.slot? = some n →
      step ∈ steps.filter (·.slot? = some n) := by
    intro steps step hstep hslot
    simp [hstep, hslot]
  -- up to the hook the call has made one step, and the hook comes only once
  generalize hfront : early.filter (·.slot? = some n) = front at hcall
  rcases front with _ | ⟨enter, _ | ⟨exit, more⟩⟩
  · cases (List.cons.inj hcall).1
  · simp only [List.cons_append, List.nil_append, List.cons.injEq, true_and] at hcall
    obtain ⟨rfl, hlate⟩ := hcall
    have hsame : Step.beforeEnter n request = .beforeEnter n request' := by
      have hentered := hmem henter rfl
      rw [hfront] at hentered
      exact List.mem_singleton.mp hentered
    refine ⟨fun hearly => ?_, fun hlater => ?_, ?_⟩
    · have hexit := hmem hearly rfl
      rw [hfront] at hexit
      cases List.mem_singleton.mp hexit
    · have hexit := hmem hlater rfl
      rw [hlate] at hexit
      exact hrest hexit
    · obtain ⟨first, between, hearly, -, -, hbetween⟩ := List.filter_eq_cons_iff.mp hfront
      refine ⟨first, between, hsame ▸ hearly, fun step hstep => ?_⟩
      simpa using List.filter_eq_nil_iff.mp hbetween step hstep
  · simp only [List.cons_append, List.cons.injEq] at hcall
    refine absurd ?_ hrest
    rw [← hcall.2.2]
    simp

end Interleaved

namespace Schedule

variable (sink : TracingSink) (extractors : ExtractorChain) (enabled : Bool)

/-- Once all calls are over, none holds an activation. -/
theorem scope?_of_interleaved {steps : List Step} (h : Interleaved steps)
    {scene : Scene Tracer (Desk Tracer TraceContext TraceContext)}
    (hready : scene.host.Ready) (hscene : ∀ n, scene.host.scope? n = none) (n : Nat) :
    ((runSteps (sink.controller extractors enabled) steps).run scene).2.host.scope? n = none := by
  have hslots := h.slot?_isSome
  by_cases hn : ∃ step ∈ steps, step.slot? = some n
  · obtain ⟨step, hstep, hslot⟩ := hn
    obtain ⟨early, failure, late, rfl, hlate⟩ := h.last_step hstep hslot
    let found := ((runSteps (sink.controller extractors enabled) early).run scene).2
    obtain ⟨hfound, -⟩ := slots_runSteps sink extractors enabled
      (fun other hother => hslots other (List.mem_append_left _ hother)) hready
    have hexit := stepAt_runStep sink extractors enabled
      (show (Step.afterExit n failure).slot? = some n from rfl) hfound
    obtain ⟨-, hrest⟩ := slots_runSteps sink extractors enabled (fun other hother =>
      hslots other (List.mem_append_right _ (List.mem_cons_of_mem _ hother))) hexit.ready
    -- no step of this call comes after its last hook
    rw [runSteps_append, runSteps]
    refine Eq.trans ?_ (scope?_afterExit (sink.controller extractors enabled) n failure found)
    exact congrArg (Option.bind · (·.scope)) (hrest n hlate)
  · obtain ⟨-, hrest⟩ := slots_runSteps sink extractors enabled hslots hready
    rw [Desk.scope?, hrest n fun step hstep hslot => hn ⟨step, hstep, hslot⟩]
    exact hscene n

/-- A call takes its turn exactly where the policy wants a span for it, in the context that is
current when it leaves. -/
theorem begins_noteTurns_iff {early late : List Step} {n : Nat} {request : Request}
    (h : Interleaved (early ++ .beforeExit n :: late)) (henter : .beforeEnter n request ∈ early)
    {scene : Scene Tracer (Desk Tracer TraceContext TraceContext)} (hready : scene.host.Ready) :
    let controller := sink.controller extractors enabled
    .begins n ∈ ((noteTurns controller (early ++ .beforeExit n :: late)).run scene).1 ↔
      (enabled && request.operation.isSome) = true ∧ sink.shouldStart
        ((runSteps controller early).run scene).2.sink.current request = true := by
  intro controller
  have hslots := h.slot?_isSome
  have hearly : ∀ step ∈ early, step.slot?.isSome :=
    fun step hstep => hslots step (List.mem_append_left _ hstep)
  have hlate : ∀ step ∈ late, step.slot?.isSome :=
    fun step hstep => hslots step (List.mem_append_right _ (List.mem_cons_of_mem _ hstep))
  obtain ⟨hnotEarly, hnotLate, first, between, hsplit, hbetween⟩ := h.around_beforeExit henter
  let found := ((runSteps controller early).run scene).2
  obtain ⟨hfound, -⟩ := slots_runSteps sink extractors enabled hearly hready
  have hslot : found.host.slots.lookup n = some (controller.freshSlot request) := by
    have hentered := lookup_entered sink extractors enabled (hsplit ▸ hearly) hbetween hready
    rw [← hsplit] at hentered
    exact hentered
  have hexit := stepAt_runStep sink extractors enabled
    (show (Step.beforeExit n).slot? = some n from rfl) hfound
  have hturn := begins_turns_iff sink extractors enabled
    (show (Step.beforeExit n).slot?.isSome = true from rfl) hfound n
  have hopens : Opens sink found n .beforeExit ↔
      (enabled && request.operation.isSome) = true ∧
        sink.shouldStart found.sink.current request = true := by
    have hphase := controller.phase_freshSlot_eq_pendingStart request
    constructor
    · rintro ⟨slot, hopened, -, hpending, hshould⟩
      obtain rfl := Option.some.inj (hslot.symm.trans hopened)
      exact ⟨hphase.mp hpending, hshould⟩
    · rintro ⟨htraced, hshould⟩
      exact ⟨_, hslot, rfl, hphase.mpr htraced, hshould⟩
  rw [run_noteTurns_append, List.mem_append]
  constructor
  · rintro (hbegins | hbegins)
    · exact absurd (beforeExit_of_begins sink extractors enabled hearly hready hbegins) hnotEarly
    · rcases List.mem_append.mp hbegins with hnow | hlater
      · exact hopens.mp (hturn.mp hnow).2
      · exact absurd (beforeExit_of_begins sink extractors enabled hlate hexit.ready hlater)
          hnotLate
  · intro hwanted
    exact .inr (List.mem_append_left _ (hturn.mpr ⟨rfl, hopens.mpr hwanted⟩))

theorem course_noteTurns {base : TraceContext} {first : Nat} {turns : List Turn}
    {steps : List Step} (hslots : ∀ step ∈ steps, step.slot?.isSome)
    {scene : Scene Tracer (Desk Tracer TraceContext TraceContext)} (hready : scene.host.Ready)
    (h : Course base first turns scene) :
    let run := (noteTurns (sink.controller extractors enabled) steps).run scene
    Course base first (turns ++ run.1) run.2 := by
  induction steps generalizing scene turns with
  | nil =>
    show Course base first (turns ++ []) scene
    rw [List.append_nil]
    exact h
  | cons step rest ih =>
    intro run
    obtain ⟨n, hn⟩ := Option.isSome_iff_exists.mp (hslots step (by simp))
    have hstep := stepAt_runStep sink extractors enabled hn hready
    let after := ((runStep (sink.controller extractors enabled) step).run scene).2
    have hturns : step.turns scene.host after.host =
        Turn.between n (scene.host.scope? n) (after.host.scope? n) := by
      rw [Step.turns, hn]
    have hcourse := course_step h hstep
    rw [← hturns] at hcourse
    show Course base first (turns ++ (_ ++ _)) run.2
    rw [← List.append_assoc]
    exact ih (fun other hother => hslots other (by simp [hother])) hstep.ready hcourse

end Schedule

/-- **Which context overlapping calls leave.**  Let calls run interleaved on one thread, in front
of a sink with any policy.  A call takes its turn where the policy wants a span for it, in the
context that is current when it leaves.  When all calls are over none holds an activation any more,
and the context is the one from before them if and only if their turns return.  Where these do not,
the context is inside a span that one of the calls started.  Noting the turns is no different from
running the hooks. -/
theorem TracingSink.restored_iff_returns (sink : TracingSink) (extractors : ExtractorChain)
    (enabled : Bool) {steps : List Step} (hsteps : Interleaved steps) (session : Session)
    {tracer : Tracer} (hknows : tracer.KnowsCurrent) :
    let controller := sink.controller extractors enabled
    let start : Scene Tracer (Desk Tracer TraceContext TraceContext) := ⟨session, tracer, {}⟩
    let run := (Schedule.noteTurns controller steps).run start
    (∀ early n late request, steps = early ++ .beforeExit n :: late →
      .beforeEnter n request ∈ early →
        (.begins n ∈ run.1 ↔ (enabled && request.operation.isSome) = true ∧ sink.shouldStart
          ((Schedule.runSteps controller early).run start).2.sink.current request = true)) ∧
      (∀ n, run.2.host.scope? n = none) ∧
      (run.2.sink.current = tracer.current ↔ Returns run.1) ∧
      (¬Returns run.1 → run.2.sink.current.StartedSince tracer.spans.length) ∧
      ((Schedule.runSteps controller steps).run start).2 = run.2 := by
  intro controller start run
  have hready : start.host.Ready := by
    intro n slot hslot
    cases hslot
  have hnone : ∀ n, start.host.scope? n = none := fun _ => rfl
  have hrun : ((Schedule.runSteps controller steps).run start).2 = run.2 :=
    Schedule.run_noteTurns controller steps start
  have hstart : Course tracer.current tracer.spans.length [] start := by
    refine ⟨stands_nil _ _, Nat.le_refl _, fun n context hscope => ?_⟩
    cases hscope
  have hcourse :=
    Schedule.course_noteTurns sink extractors enabled hsteps.slot?_isSome hready hstart
  have hstands : Stands tracer.current tracer.spans.length run.1 run.2.sink.current :=
    hcourse.current
  refine ⟨?_, fun n => ?_, ?_, ?_, hrun⟩
  · rintro early n late request rfl henter
    exact Schedule.begins_noteTurns_iff sink extractors enabled hsteps henter hready
  · rw [← hrun]
    exact Schedule.scope?_of_interleaved sink extractors enabled hsteps hready hnone n
  · rcases hstands with ⟨hreturns, hbase⟩ | ⟨hnot, hsince⟩
    · exact iff_of_true hbase hreturns
    · refine iff_of_false (fun hbase => ?_) hnot
      rw [hbase] at hsince
      exact hknows.not_startedSince hsince
  · intro hnot
    rcases hstands with ⟨hreturns, -⟩ | ⟨-, hsince⟩
    · exact absurd hreturns hnot
    · exact hsince

/-! ### Two calls that overlap -/

def uploadedPart : Request where
  service := "S3"
  operation := some "UploadPart"
  payload := AssembledPayload.toPayload { typeName := "UploadPartRequest" } 0

/-- The hooks of two calls, where the first is over before the second. -/
def overlapping (first second : Nat) : List Step :=
  [.beforeEnter first uploadedPart, .beforeExit first,
    .beforeEnter second uploadedPart, .beforeExit second,
    .afterEnter first {}, .afterExit first none,
    .afterEnter second {}, .afterExit second none]

/-- The hooks of a call, with two others that overlap inside it. -/
def enclosing (around first second : Nat) : List Step :=
  .beforeEnter around uploadedPart :: .beforeExit around ::
    (overlapping first second ++ [.afterEnter around {}, .afterExit around none])

/-- A sink that starts a span for every call. -/
def TracingSink.unsuppressed : TracingSink := { policy := { strategy := .off } }

/-- What steps leave on a thread on which nothing was current. -/
def TracingSink.left (sink : TracingSink) (steps : List Step) :
    Scene Tracer (Desk Tracer TraceContext TraceContext) :=
  ((Schedule.runSteps (sink.controller [] true) steps).run ⟨{}, {}, {}⟩).2

theorem interleaved_overlapping : Interleaved (overlapping 1 2) := by
  have hslots : ∀ step ∈ overlapping 1 2, step.slot? = some 1 ∨ step.slot? = some 2 := by
    simp [overlapping, Step.slot?]
  intro step hstep
  rcases hslots step hstep with hslot | hslot
  · exact ⟨1, uploadedPart, some {}, none, hslot, rfl⟩
  · exact ⟨2, uploadedPart, some {}, none, hslot, rfl⟩

theorem interleaved_enclosing : Interleaved (enclosing 1 2 3) := by
  have hslots : ∀ step ∈ enclosing 1 2 3,
      step.slot? = some 1 ∨ step.slot? = some 2 ∨ step.slot? = some 3 := by
    simp [enclosing, overlapping, Step.slot?]
  intro step hstep
  rcases hslots step hstep with hslot | hslot | hslot
  · exact ⟨1, uploadedPart, some {}, none, hslot, rfl⟩
  · exact ⟨2, uploadedPart, some {}, none, hslot, rfl⟩
  · exact ⟨3, uploadedPart, some {}, none, hslot, rfl⟩

theorem enclosed_restored :
    Interleaved (enclosing 1 2 3) ∧ ({} : Tracer).KnowsCurrent ∧
      (TracingSink.unsuppressed.left (enclosing 1 2 3)).sink.current = ({} : Tracer).current := by
  have hknows : ({} : Tracer).KnowsCurrent := by
    intro span index hspan
    cases hspan
  have hturns : ((Schedule.noteTurns (TracingSink.unsuppressed.controller [] true)
      (enclosing 1 2 3)).run ⟨{}, {}, {}⟩).1 =
        [.begins 1, .begins 2, .begins 3, .ends 2, .ends 3, .ends 1] := by
    decide +kernel
  have hreturns : Returns [.begins 1, .begins 2, .begins 3, .ends 2, .ends 3, .ends 1] :=
    .stretch 1 [] [.begins 2, .begins 3, .ends 2, .ends 3] (by simp) .nil
  have hrun := TracingSink.unsuppressed.restored_iff_returns [] true interleaved_enclosing {} hknows
  dsimp only at hrun
  rw [hturns] at hrun
  obtain ⟨-, -, hrestored, -, hsame⟩ := hrun
  refine ⟨interleaved_enclosing, hknows, ?_⟩
  rw [TracingSink.left, hsame]
  exact hrestored.mpr hreturns

/-- Two calls that overlap with nothing around them: the context is that of the first call, though
both are over and hold no activation. -/
theorem overlapping_not_restored :
    Interleaved (overlapping 1 2) ∧
      (∀ n, (TracingSink.unsuppressed.left (overlapping 1 2)).host.scope? n = none) ∧
      (TracingSink.unsuppressed.left (overlapping 1 2)).sink.current.span.bind
        SpanReference.index? = some 0 ∧
      (TracingSink.unsuppressed.left (overlapping 1 2)).sink.current ≠ ({} : Tracer).current := by
  have hnone : ∀ n, (TracingSink.unsuppressed.left (overlapping 1 2)).host.scope? n = none := by
    intro n
    rw [TracingSink.left]
    refine Schedule.scope?_of_interleaved _ [] true interleaved_overlapping ?_ (fun _ => rfl) n
    intro m slot hslot
    cases hslot
  have hspan : (TracingSink.unsuppressed.left (overlapping 1 2)).sink.current.span.bind
      SpanReference.index? = some 0 := by
    decide +kernel
  refine ⟨interleaved_overlapping, hnone, hspan, fun hsame => ?_⟩
  rw [hsame] at hspan
  cases hspan

end CallTracing
