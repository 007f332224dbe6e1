/-
  CallTracing/Proofs/Call/Phases.lean
  ===================================
  **The phases of a call, and what its slot holds in each.**

  Any hooks may run on the slot of a call, in any order, and every operation of the sink may fail
  or panic whenever it is called.  Still, the phase of the slot moves only along a fixed graph
  (`CallPhase.Moves`), and what the slot holds fits its phase: `Slot.Sound` ties the fields of a
  slot to its phase and to what the sink was asked so far.

  One hook moves along the graph (`HookStep.moves`) and keeps the slot sound (`sound_step`), both
  by cases on `HookStep`; so a whole run keeps it sound (`sound_run`).  A slot that waits for no
  start and holds no activation asks nothing of the sink any more (`quiet_run`), which is how a call
  that is not traced goes.
-/
import CallTracing.Proofs.Call.Journal

namespace CallTracing

variable {σ κ ς η : Type}

/-! ### The graph of phases -/

/-- The ways from one phase to another. -/
inductive CallPhase.Moves : CallPhase → CallPhase → Prop where
  | start : Moves .pendingStart .active
  | suppress : Moves .pendingStart .suppressed
  | giveUp : Moves .pendingStart .ended
  | finish : Moves .active .ended
  | close : Moves .idle .ended

/-- There is no way out of a terminal phase. -/
theorem CallPhase.Moves.not_terminal {before after : CallPhase} (h : before.Moves after) :
    before.isTerminal = false := by
  cases h <;> rfl

variable {slot slot' : Slot κ ς} {hook : HookCall} {calls seen : List (SinkCall κ ς)}

theorem HookStep.moves (hstep : HookStep slot hook calls slot') :
    slot'.phase = slot.phase ∨ slot.phase.Moves slot'.phase := by
  cases hstep with
  | notPending => exact Or.inl rfl
  | noParent hphase =>
    rw [hphase]
    exact Or.inr .giveUp
  | suppressed hphase =>
    rw [hphase]
    exact Or.inr .suppress
  | notStarted hphase =>
    rw [hphase]
    exact Or.inr .giveUp
  | started hphase =>
    rw [hphase]
    exact Or.inr .start
  | notActive => exact Or.inl rfl
  | answered hphase =>
    rw [hphase]
    exact Or.inr .finish
  | orphaned hphase =>
    rw [hphase]
    exact Or.inr .finish
  | exited hphase =>
    rw [hphase]
    exact Or.inr .finish
  | closed =>
    -- the last hook ends whatever was not suppressed
    cases hphase : slot.phase with
    | idle => exact Or.inr .close
    | pendingStart => exact Or.inr .giveUp
    | active => exact Or.inr .finish
    | ended => exact Or.inl rfl
    | suppressed => exact Or.inl rfl

theorem HookStep.absorbed (hstep : HookStep slot hook calls slot')
    (hterminal : slot.phase.isTerminal = true) : slot'.phase = slot.phase := by
  rcases hstep.moves with hsame | hmoves
  · exact hsame
  · rw [hmoves.not_terminal] at hterminal
    cases hterminal

theorem HookStep.terminal_of_exit {failure : Option CallFailure}
    (hstep : HookStep slot (.afterExit failure) calls slot') : slot'.phase.isTerminal = true := by
  cases hstep with
  | exited => rfl
  | closed =>
    show (if slot.phase = .suppressed then CallPhase.suppressed else .ended).isTerminal = true
    split <;> rfl

/-! ### What a slot holds -/

/-- Whether the sink was told to start the span of a request and did. -/
def HasStarted (request : Request) (calls : List (SinkCall κ ς)) : Prop :=
  ∃ parent attributes context, .start parent request attributes (.returned (.ok context)) ∈ calls

theorem HasStarted.append_left {request : Request} (h : HasStarted request seen)
    (calls : List (SinkCall κ ς)) : HasStarted request (seen ++ calls) := by
  obtain ⟨parent, attributes, context, hstart⟩ := h
  exact ⟨parent, attributes, context, List.mem_append_left calls hstart⟩

/-- What the fields of a slot hold, after what the sink was asked so far. -/
structure Slot.Sound (slot : Slot κ ς) (seen : List (SinkCall κ ς)) : Prop where
  /-- There is a context exactly while the call is active. -/
  context_iff : slot.context.isSome ↔ slot.phase = .active
  /-- Nothing is activated but while the call is active. -/
  active_of_scope : slot.scope.isSome → slot.phase = .active
  /-- Without a span there is nothing to pass on, to look up or to measure. -/
  blank : ¬HasStarted slot.request seen →
    slot.headers = [] ∧ slot.correlationIds = none ∧ slot.started = false

namespace Slot.Sound

theorem context_eq_none (h : slot.Sound seen) (hphase : slot.phase ≠ .active) :
    slot.context = none :=
  Option.not_isSome_iff_eq_none.mp fun hsome => hphase (h.context_iff.mp hsome)

theorem scope_eq_none (h : slot.Sound seen) (hphase : slot.phase ≠ .active) : slot.scope = none :=
  Option.not_isSome_iff_eq_none.mp fun hsome => hphase (h.active_of_scope hsome)

/-- A slot that holds neither context nor scope, and that is otherwise as it was. -/
theorem emptied (h : slot.Sound seen) (hcontext : slot'.context = none)
    (hscope : slot'.scope = none) (hphase : slot'.phase ≠ .active)
    (hrequest : slot'.request = slot.request) (hheaders : slot'.headers = slot.headers)
    (hids : slot'.correlationIds = slot.correlationIds) (hstarted : slot'.started = slot.started) :
    slot'.Sound (seen ++ calls) where
  context_iff := by simp [hcontext, hphase]
  active_of_scope := by simp [hscope]
  blank := by
    intro hnot
    rw [hheaders, hids, hstarted]
    rw [hrequest] at hnot
    exact h.blank fun hstart => hnot (hstart.append_left calls)

/-- A slot that waited for its start and got no span. -/
theorem unstarted (h : slot.Sound seen) (hpending : slot.phase = .pendingStart)
    {phase : CallPhase} (hphase : phase ≠ .active) :
    Slot.Sound { slot with phase := phase } (seen ++ calls) := by
  have hcontext := h.context_eq_none (by simp [hpending])
  have hscope := h.scope_eq_none (by simp [hpending])
  exact h.emptied hcontext hscope hphase rfl rfl rfl rfl

end Slot.Sound

/-- A slot as a call gets it is sound. -/
theorem sound_entered (request : Request) (phase : CallPhase) (hphase : phase ≠ .active) :
    Slot.Sound ({ request := request, phase := phase } : Slot κ ς) [] where
  context_iff := by simp [hphase]
  active_of_scope := by simp
  blank := fun _ => ⟨rfl, rfl, rfl⟩

/-- One hook keeps a slot sound. -/
theorem sound_step (h : slot.Sound seen) (hstep : HookStep slot hook calls slot') :
    slot'.Sound (seen ++ calls) := by
  cases hstep with
  | notPending => simpa using h
  | noParent hphase => exact h.unstarted hphase (by simp)
  | suppressed hphase => exact h.unstarted hphase (by simp)
  | notStarted hphase => exact h.unstarted hphase (by simp)
  | started hphase parent context attributes scope written reply ids =>
    refine ⟨by simp, by simp, fun hnot => absurd ?_ hnot⟩
    exact ⟨parent, attributes, context, List.mem_append_right seen (by simp)⟩
  | notActive => simpa using h
  | answered => exact h.emptied rfl rfl (by simp) rfl rfl rfl rfl
  | orphaned hphase hcontext => exact h.emptied hcontext rfl (by simp) rfl rfl rfl rfl
  | exited => exact h.emptied rfl rfl (by simp) rfl rfl rfl rfl
  | closed hidle =>
    have hcontext : slot.context = none := by
      rcases hidle with hphase | hcontext
      · exact h.context_eq_none hphase
      · exact hcontext
    refine h.emptied hcontext rfl ?_ rfl rfl rfl rfl
    show (if slot.phase = .suppressed then CallPhase.suppressed else .ended) ≠ .active
    split <;> simp

theorem sound_run {records : List (HookRecord κ ς)} (h : slot.Sound seen)
    (hrun : HookRun slot records) :
    (lastSlot slot records).Sound (seen ++ records.flatMap (·.calls)) := by
  induction records generalizing slot seen with
  | nil => simpa [lastSlot] using h
  | cons record rest ih =>
    obtain ⟨hstep, hrest⟩ := hrun
    have hlast := ih (sound_step h hstep) hrest
    rw [List.append_assoc] at hlast
    exact hlast

/-! ### Terminal and untraced calls -/

theorem terminal_run {records : List (HookRecord κ ς)} (hrun : HookRun slot records)
    (hterminal : slot.phase.isTerminal = true) :
    (lastSlot slot records).phase = slot.phase := by
  induction records generalizing slot with
  | nil => rfl
  | cons record rest ih =>
    obtain ⟨hstep, hrest⟩ := hrun
    have hphase := hstep.absorbed hterminal
    have hlast : (lastSlot record.slot rest).phase = record.slot.phase :=
      ih hrest (by rw [hphase]; exact hterminal)
    exact hlast.trans hphase

/-- From the last hook on, a call is at a terminal phase. -/
theorem terminal_of_exited {records : List (HookRecord κ ς)} (hrun : HookRun slot records)
    {failure : Option CallFailure} (hexit : .afterExit failure ∈ records.map (·.hook)) :
    (lastSlot slot records).phase.isTerminal = true := by
  obtain ⟨record, hrecord, hhook⟩ := List.mem_map.mp hexit
  obtain ⟨early, late, rfl⟩ := List.append_of_mem hrecord
  rw [hookRun_append] at hrun
  obtain ⟨-, hstep, hlate⟩ := hrun
  rw [hhook] at hstep
  have hterminal := hstep.terminal_of_exit
  have hlast : lastSlot slot (early ++ record :: late) = lastSlot record.slot late := by
    simp [lastSlot]
  rw [hlast, terminal_run hlate hterminal]
  exact hterminal

/-- Whether a slot has nothing to ask of the sink: there is no span to start, and none to end. -/
structure Slot.Quiet (slot : Slot κ ς) : Prop where
  not_pending : slot.phase ≠ .pendingStart
  not_active : slot.phase ≠ .active
  scope_eq_none : slot.scope = none

theorem HookStep.quiet (hstep : HookStep slot hook calls slot') (h : slot.Quiet) :
    calls = [] ∧ slot'.Quiet := by
  cases hstep with
  | notPending => exact ⟨rfl, h⟩
  | noParent hphase => exact absurd hphase h.not_pending
  | suppressed hphase => exact absurd hphase h.not_pending
  | notStarted hphase => exact absurd hphase h.not_pending
  | started hphase => exact absurd hphase h.not_pending
  | notActive => exact ⟨rfl, h⟩
  | answered hphase => exact absurd hphase h.not_active
  | orphaned hphase => exact absurd hphase h.not_active
  | exited hphase => exact absurd hphase h.not_active
  | closed =>
    refine ⟨by simp [Slot.releases, h.scope_eq_none], ?_, ?_, rfl⟩
    · show (if slot.phase = .suppressed then CallPhase.suppressed else .ended) ≠ .pendingStart
      split <;> simp
    · show (if slot.phase = .suppressed then CallPhase.suppressed else .ended) ≠ .active
      split <;> simp

/-- A quiet slot stays so: no hook asks anything of the sink. -/
theorem quiet_run {records : List (HookRecord κ ς)} (hrun : HookRun slot records)
    (h : slot.Quiet) : records.flatMap (·.calls) = [] := by
  induction records generalizing slot with
  | nil => rfl
  | cons record rest ih =>
    obtain ⟨hstep, hrest⟩ := hrun
    obtain ⟨hcalls, hquiet⟩ := hstep.quiet h
    rw [List.flatMap_cons, hcalls, ih hrest hquiet]
    rfl

/-! ### Every journal is orderly -/

/-- What is kept all along the hooks of a call. -/
structure Journal.Orderly (journal : Journal κ ς) : Prop where
  /-- The slot fits its phase and what the sink was asked, at any time. -/
  sound : ∀ early late, journal.hooks = early ++ late →
    (lastSlot journal.slot early).Sound (journal.entered ++ early.flatMap (·.calls))
  /-- The phase stays or moves along the graph at each hook. -/
  moves : ∀ early record late, journal.hooks = early ++ record :: late →
    record.slot.phase = (lastSlot journal.slot early).phase ∨
      (lastSlot journal.slot early).phase.Moves record.slot.phase
  /-- A terminal phase stays. -/
  absorbed : ∀ early late, journal.hooks = early ++ late →
    (lastSlot journal.slot early).phase.isTerminal = true →
      ∀ record ∈ late, record.slot.phase = (lastSlot journal.slot early).phase
  /-- From the last hook of a call on, the phase is terminal. -/
  exited : ∀ early late failure, journal.hooks = early ++ late →
    .afterExit failure ∈ early.map (·.hook) →
      (lastSlot journal.slot early).phase.isTerminal = true

theorem Journal.orderly {journal : Journal κ ς} (hsound : journal.slot.Sound journal.entered)
    (hrun : HookRun journal.slot journal.hooks) : journal.Orderly := by
  refine ⟨?_, ?_, ?_, ?_⟩
  · intro early late hhooks
    rw [hhooks, hookRun_append] at hrun
    exact sound_run hsound hrun.1
  · intro early record late hhooks
    rw [hhooks, hookRun_append] at hrun
    obtain ⟨-, hstep, -⟩ := hrun
    exact hstep.moves
  · intro early late hhooks hterminal record hrecord
    rw [hhooks, hookRun_append] at hrun
    obtain ⟨before, after, rfl⟩ := List.append_of_mem hrecord
    -- the record is the last one of the hooks up to it
    have hupto : HookRun (lastSlot journal.slot early) (before ++ [record]) := by
      have hsplit : before ++ record :: after = (before ++ [record]) ++ after := by simp
      rw [hsplit, hookRun_append] at hrun
      exact hrun.2.1
    have hlast := terminal_run hupto hterminal
    simpa [lastSlot] using hlast
  · intro early late failure hhooks hexit
    rw [hhooks, hookRun_append] at hrun
    exact terminal_of_exited hrun.1 hexit

namespace Controller

/-- **A call goes through its phases in order, and its slot fits them.**  Whatever a sink does at
each call of its operations, and whatever hooks a host runs on the slot of a call, the journal of
the call is as `Orderly` says.  A call that has no operation, or a controller that is switched off,
asks nothing of the sink.  The journal is that of these hooks, leaves no call of the sink out, and
keeping it is no different from running the hooks. -/
theorem orderly_journal (controller : Controller σ κ ς) (request : Request)
    (hooks : List HookCall) (scene : Scene (Watched σ κ ς) η) :
    let run := (controller.journal request hooks).run scene
    run.1.Orderly ∧
      run.1.slot.phase =
        (if controller.enabled && request.operation.isSome then .pendingStart else .idle) ∧
      run.1.slot.request = request ∧
      (request.operation = none ∨ controller.enabled = false → run.1.calls = []) ∧
      run.1.hooks.map (·.hook) = hooks ∧
      run.2.sink.calls = scene.sink.calls ++ run.1.calls ∧
      (controller.passThrough request hooks).run scene.unwatched =
        (lastSlot run.1.slot run.1.hooks, run.2.unwatched) := by
  intro run
  obtain ⟨hentered, hslot⟩ := controller.entered_journal request hooks scene
  have hrun := controller.hookRun_journal request hooks scene
  have hsound : run.1.slot.Sound run.1.entered := by
    rw [hentered, hslot]
    refine sound_entered request _ ?_
    split <;> simp
  refine ⟨Journal.orderly hsound hrun, by rw [hslot], by rw [hslot], ?_,
    controller.hooks_journal request hooks scene, controller.calls_journal request hooks scene,
    controller.journal_unwatched request hooks scene⟩
  intro huntraced
  have hidle : run.1.slot.phase = .idle := by
    rw [hslot]
    rcases huntraced with hoperation | hdisabled
    · simp [hoperation]
    · simp [hdisabled]
  have hscope : run.1.slot.scope = none := by rw [hslot]
  have hquiet : run.1.slot.Quiet := ⟨by simp [hidle], by simp [hidle], hscope⟩
  show run.1.entered ++ run.1.hooks.flatMap (·.calls) = []
  rw [hentered, quiet_run hrun hquiet]
  rfl

end Controller

end CallTracing
