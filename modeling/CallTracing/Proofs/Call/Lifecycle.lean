/-
  CallTracing/Proofs/Call/Lifecycle.lean
  ======================================
  **A span is started at most once and, once started, ended exactly once.**

  The sink and the order of the hooks are arbitrary: every operation may fail or panic whenever it
  is called, and hooks may be left out, repeated and run in any order.  Of the calls that a sink
  gets, only the starts and ends of spans count here, its *milestones*.

  The invariant is `Milestones`: it ties a slot to the milestones so far and leaves room for four
  stages only.  One hook keeps it (`milestones_step`, by cases on `HookStep`), so a whole run does
  (`milestones_run`), and `ExactlyOnce` is read off the milestones of the run.
-/
import CallTracing.Proofs.Call.Journal

namespace CallTracing

variable {σ κ ς η : Type}

/-! ### Milestones -/

namespace SinkCall

/-- Whether a call tells the sink to start a span. -/
def isStart : SinkCall κ ς → Bool
  | .start .. => true
  | _ => false

/-- Whether a call tells the sink to end a span. -/
def isFinish : SinkCall κ ς → Bool
  | .finish .. => true
  | _ => false

end SinkCall

/-- The starts and ends of spans among calls. -/
def milestones (calls : List (SinkCall κ ς)) : List (SinkCall κ ς) :=
  calls.filter fun call => call.isStart || call.isFinish

@[simp] theorem milestones_nil : milestones ([] : List (SinkCall κ ς)) = [] := rfl

@[simp] theorem milestones_append (first rest : List (SinkCall κ ς)) :
    milestones (first ++ rest) = milestones first ++ milestones rest :=
  List.filter_append first rest

@[simp] theorem milestones_releases (slot : Slot κ ς) : milestones slot.releases = [] := by
  cases h : slot.scope with
  | none => simp [Slot.releases, h]
  | some scope => simp [Slot.releases, h, milestones, SinkCall.isStart, SinkCall.isFinish]

@[simp] theorem milestones_finish_cons (context : κ) (request : Request) (outcome : Outcome)
    (attributes : AttributeSet) (reply : Reply (Except TraceError Unit))
    (rest : List (SinkCall κ ς)) :
    milestones (.finish context request outcome attributes reply :: rest) =
      .finish context request outcome attributes reply :: milestones rest := rfl

@[simp] theorem milestones_discard_cons (context : κ) (rest : List (SinkCall κ ς)) :
    milestones (.discard context :: rest) = milestones rest := rfl

theorem filter_isStart_milestones (calls : List (SinkCall κ ς)) :
    (milestones calls).filter SinkCall.isStart = calls.filter SinkCall.isStart := by
  rw [milestones, List.filter_filter]
  congr 1
  funext call
  cases call <;> rfl

theorem filter_isFinish_milestones (calls : List (SinkCall κ ς)) :
    (milestones calls).filter SinkCall.isFinish = calls.filter SinkCall.isFinish := by
  rw [milestones, List.filter_filter]
  congr 1
  funext call
  cases call <;> rfl

theorem mem_milestones_start {calls : List (SinkCall κ ς)} {parent : κ} {request : Request}
    {attributes : AttributeSet} {reply : Reply (Except TraceError κ)} :
    SinkCall.start parent request attributes reply ∈ milestones calls ↔
      SinkCall.start parent request attributes reply ∈ calls := by
  simp [milestones, SinkCall.isStart]

/-! ### The invariant -/

/-- How the slot of a call stands after the milestones so far. -/
inductive Milestones (request : Request) (slot : Slot κ ς) : List (SinkCall κ ς) → Prop where
  /-- No start was tried. -/
  | untried (hphase : slot.phase ≠ .active) (hcontext : slot.context = none) :
      Milestones request slot []
  /-- A start was tried and gave no span. -/
  | refused (hphase : slot.phase = .ended) (hcontext : slot.context = none) (parent : κ)
      (attributes : AttributeSet) (reply : Reply (Except TraceError κ))
      (hreply : ∀ context, reply ≠ .returned (.ok context)) :
      Milestones request slot [.start parent request attributes reply]
  /-- The span is under way, and the slot holds its context. -/
  | underWay (hphase : slot.phase = .active) (parent context : κ) (attributes : AttributeSet)
      (hcontext : slot.context = some context) :
      Milestones request slot [.start parent request attributes (.returned (.ok context))]
  /-- The span was ended. -/
  | finished (hphase : slot.phase = .ended) (hcontext : slot.context = none) (parent context : κ)
      (attributes attributes' : AttributeSet) (outcome : Outcome)
      (reply : Reply (Except TraceError Unit)) :
      Milestones request slot
        [.start parent request attributes (.returned (.ok context)),
          .finish context request outcome attributes' reply]

variable {slot slot' : Slot κ ς} {request : Request} {word calls : List (SinkCall κ ς)}

theorem Milestones.of_pending (h : Milestones request slot word)
    (hphase : slot.phase = .pendingStart) : word = [] ∧ slot.context = none := by
  cases h with
  | untried _ hcontext => exact ⟨rfl, hcontext⟩
  | refused hended => simp [hphase] at hended
  | underWay hactive => simp [hphase] at hactive
  | finished hended => simp [hphase] at hended

theorem Milestones.of_active (h : Milestones request slot word) (hphase : slot.phase = .active) :
    ∃ parent context attributes, slot.context = some context ∧
      word = [.start parent request attributes (.returned (.ok context))] := by
  cases h with
  | untried hnot => exact absurd hphase hnot
  | refused hended => simp [hphase] at hended
  | underWay _ parent context attributes hcontext =>
    exact ⟨parent, context, attributes, hcontext, rfl⟩
  | finished hended => simp [hphase] at hended

/-- One hook keeps the invariant. -/
theorem milestones_step {hook : HookCall} (h : Milestones slot.request slot word)
    (hstep : HookStep slot hook calls slot') :
    Milestones slot.request slot' (word ++ milestones calls) := by
  cases hstep with
  | notPending => simpa using h
  | noParent hphase message =>
    obtain ⟨rfl, hcontext⟩ := h.of_pending hphase
    exact .untried (by simp) hcontext
  | suppressed hphase parent wanted hwanted =>
    obtain ⟨rfl, hcontext⟩ := h.of_pending hphase
    exact .untried (by simp) hcontext
  | notStarted hphase parent attributes reply hreply =>
    obtain ⟨rfl, hcontext⟩ := h.of_pending hphase
    show Milestones slot.request { slot with phase := .ended }
      [.start parent slot.request attributes reply]
    refine .refused rfl ?_ parent attributes reply hreply
    exact hcontext
  | started hphase parent context attributes scope written reply ids =>
    obtain ⟨rfl, -⟩ := h.of_pending hphase
    exact .underWay rfl parent context attributes rfl
  | notActive => simpa using h
  | answered hphase context hcontext response attributes reply =>
    obtain ⟨parent, context', attributes', hcontext', rfl⟩ := h.of_active hphase
    obtain rfl : context' = context := by simpa [hcontext] using hcontext'.symm
    have hcalls : milestones (SinkCall.finish context' slot.request { response := some response }
        attributes reply :: (slot.releases ++ [.discard context'])) =
        [.finish context' slot.request { response := some response } attributes reply] := by
      rw [milestones_finish_cons, milestones_append, milestones_releases]
      rfl
    rw [hcalls]
    exact .finished rfl rfl parent context' attributes' attributes _ reply
  | orphaned hphase hcontext response =>
    obtain ⟨_, context, _, hcontext', _⟩ := h.of_active hphase
    simp [hcontext] at hcontext'
  | exited hphase context hcontext failure attributes reply =>
    obtain ⟨parent, context', attributes', hcontext', rfl⟩ := h.of_active hphase
    obtain rfl : context' = context := by simpa [hcontext] using hcontext'.symm
    have hcalls : milestones (SinkCall.finish context' slot.request { failure := failure }
        attributes reply :: .discard context' :: slot.releases) =
        [.finish context' slot.request { failure := failure } attributes reply] := by
      rw [milestones_finish_cons, milestones_discard_cons, milestones_releases]
    rw [hcalls]
    exact .finished rfl rfl parent context' attributes' attributes _ reply
  | closed hidle failure =>
    rw [milestones_releases, List.append_nil]
    cases h with
    | untried hnot hcontext =>
      refine .untried ?_ hcontext
      show (if slot.phase = .suppressed then CallPhase.suppressed else .ended) ≠ .active
      split <;> simp
    | refused hended hcontext parent attributes reply hreply =>
      rw [if_neg (by simp [hended])]
      refine .refused rfl ?_ parent attributes reply hreply
      exact hcontext
    | underWay hactive parent context attributes hcontext =>
      rcases hidle with hnot | hnone
      · exact absurd hactive hnot
      · simp [hcontext] at hnone
    | finished hended hcontext parent context attributes attributes' outcome reply =>
      rw [if_neg (by simp [hended])]
      refine .finished rfl ?_ parent context attributes attributes' outcome reply
      exact hcontext

theorem milestones_run {records : List (HookRecord κ ς)} (h : Milestones slot.request slot word)
    (hrun : HookRun slot records) :
    Milestones slot.request (lastSlot slot records)
      (word ++ milestones (records.flatMap (·.calls))) := by
  induction records generalizing slot word with
  | nil => simpa [lastSlot] using h
  | cons record rest ih =>
    obtain ⟨hstep, hrest⟩ := hrun
    have hnext := milestones_step h hstep
    rw [← hstep.request_eq] at hnext
    have hlast := ih hnext hrest
    rw [hstep.request_eq, List.append_assoc] at hlast
    simpa [lastSlot] using hlast

/-! ### Where a span is started, and where it is ended -/

theorem HookStep.of_start {hook : HookCall} (hstep : HookStep slot hook calls slot')
    {parent context : κ} {request : Request} {attributes : AttributeSet}
    (hstart : .start parent request attributes (.returned (.ok context)) ∈ calls) :
    slot'.phase = .active ∧ slot'.context = some context := by
  cases hstep with
  | notStarted hphase parent' attributes' reply hreply =>
    simp only [List.mem_cons, List.not_mem_nil, or_false, reduceCtorEq, false_or,
      SinkCall.start.injEq] at hstart
    exact absurd hstart.2.2.2.symm (hreply context)
  | started hphase parent' context' attributes' scope written reply ids =>
    simp only [List.mem_cons, List.not_mem_nil, or_false, reduceCtorEq, false_or,
      SinkCall.start.injEq, Reply.returned.injEq, Except.ok.injEq] at hstart
    obtain ⟨-, -, -, rfl⟩ := hstart
    exact ⟨rfl, rfl⟩
  | answered => simp [Slot.releases] at hstart
  | orphaned => simp [Slot.releases] at hstart
  | exited => simp [Slot.releases] at hstart
  | closed => simp [Slot.releases] at hstart
  | _ => simp at hstart

/-- A hook that does not tell of the call's end leaves an active slot alone. -/
theorem HookStep.of_no_outcome {hook : HookCall} (hstep : HookStep slot hook calls slot')
    (hphase : slot.phase = .active) (houtcome : hook.outcome? = none) :
    slot' = slot ∧ calls = [] := by
  cases hstep with
  | notPending => exact ⟨rfl, rfl⟩
  | noParent hpending => simp [hphase] at hpending
  | suppressed hpending => simp [hphase] at hpending
  | notStarted hpending => simp [hphase] at hpending
  | started hpending => simp [hphase] at hpending
  | _ => simp [HookCall.outcome?] at houtcome

/-- A hook that tells of the call's end ends the span of an active slot. -/
theorem HookStep.of_outcome {hook : HookCall} (hstep : HookStep slot hook calls slot')
    (hphase : slot.phase = .active) {context : κ} (hcontext : slot.context = some context)
    {outcome : Outcome} (houtcome : hook.outcome? = some outcome) :
    ∃ attributes reply, calls.filter SinkCall.isFinish =
      [.finish context slot.request outcome attributes reply] := by
  have hreleases : slot.releases.filter SinkCall.isFinish = [] := by
    rw [← filter_isFinish_milestones, milestones_releases]
    rfl
  cases hstep with
  | notPending => simp [HookCall.outcome?] at houtcome
  | noParent => simp [HookCall.outcome?] at houtcome
  | suppressed => simp [HookCall.outcome?] at houtcome
  | notStarted => simp [HookCall.outcome?] at houtcome
  | started => simp [HookCall.outcome?] at houtcome
  | notActive hnot => exact absurd hphase hnot
  | answered _ context' hcontext' response attributes reply =>
    obtain rfl : context' = context := by simpa [hcontext] using hcontext'.symm
    obtain rfl : { response := some response } = outcome := Option.some.inj houtcome
    refine ⟨attributes, reply, ?_⟩
    rw [List.filter_cons_of_pos rfl, List.filter_append, hreleases]
    rfl
  | orphaned _ hnone => simp [hcontext] at hnone
  | exited _ context' hcontext' failure attributes reply =>
    obtain rfl : context' = context := by simpa [hcontext] using hcontext'.symm
    obtain rfl : { failure := failure } = outcome := Option.some.inj houtcome
    refine ⟨attributes, reply, ?_⟩
    rw [List.filter_cons_of_pos rfl, List.filter_cons_of_neg (by simp [SinkCall.isFinish]),
      hreleases]
  | closed hidle =>
    rcases hidle with hnot | hnone
    · exact absurd hphase hnot
    · simp [hcontext] at hnone

/-- Nothing happens to an active slot as long as no hook tells of the call's end. -/
theorem lastSlot_of_no_outcome {records : List (HookRecord κ ς)} (hrun : HookRun slot records)
    (hphase : slot.phase = .active)
    (houtcome : ∀ record ∈ records, record.hook.outcome? = none) :
    lastSlot slot records = slot := by
  induction records generalizing slot with
  | nil => rfl
  | cons record rest ih =>
    obtain ⟨hstep, hrest⟩ := hrun
    obtain ⟨hslot, -⟩ := hstep.of_no_outcome hphase (houtcome record (by simp))
    have hlast : lastSlot record.slot rest = record.slot :=
      ih hrest (hslot ▸ hphase) fun later hlater => houtcome later (by simp [hlater])
    show lastSlot record.slot rest = slot
    rw [hlast, hslot]

/-! ### Exactly once -/

/-- What a host may rely on about the span of a call, whatever the sink does. -/
structure Journal.ExactlyOnce (journal : Journal κ ς) (request : Request) : Prop where
  /-- When the call is intercepted, the sink is asked nothing. -/
  entered_nil : journal.entered = []
  /-- No second start is tried. -/
  start_le_one : (journal.calls.filter SinkCall.isStart).length ≤ 1
  /-- No second end is tried. -/
  finish_le_one : (journal.calls.filter SinkCall.isFinish).length ≤ 1
  /-- Only what was started is ended, with the very context that the start gave. -/
  finish_after_start : ∀ before after context request' outcome attributes reply,
    journal.calls = before ++ .finish context request' outcome attributes reply :: after →
    request' = request ∧ ∃ parent attributes',
      .start parent request attributes' (.returned (.ok context)) ∈ before
  /-- What was started is ended by the first hook after it that tells of the call's end, with what
  that hook tells, and by no other hook. -/
  finish_by_first : ∀ early opening between closing late parent context attributes outcome,
    journal.hooks = early ++ opening :: (between ++ closing :: late) →
    .start parent request attributes (.returned (.ok context)) ∈ opening.calls →
    (∀ record ∈ between, record.hook.outcome? = none) → closing.hook.outcome? = some outcome →
    ∃ attributes' reply,
      closing.calls.filter SinkCall.isFinish =
          [.finish context request outcome attributes' reply] ∧
        journal.calls.filter SinkCall.isFinish = closing.calls.filter SinkCall.isFinish

section

variable {slot : Slot κ ς} {request : Request} {word calls : List (SinkCall κ ς)}

theorem Milestones.start_le_one (h : Milestones request slot (milestones calls)) :
    (calls.filter SinkCall.isStart).length ≤ 1 := by
  rw [← filter_isStart_milestones]
  generalize milestones calls = word at h
  cases h with
  | untried => exact Nat.zero_le 1
  | refused => exact Nat.le_refl 1
  | underWay => exact Nat.le_refl 1
  | finished => exact Nat.le_refl 1

theorem Milestones.finish_le_one (h : Milestones request slot (milestones calls)) :
    (calls.filter SinkCall.isFinish).length ≤ 1 := by
  rw [← filter_isFinish_milestones]
  generalize milestones calls = word at h
  cases h with
  | untried => exact Nat.zero_le 1
  | refused => exact Nat.zero_le 1
  | underWay => exact Nat.zero_le 1
  | finished => exact Nat.le_refl 1

theorem Milestones.finish_after_start {before after : List (SinkCall κ ς)} {context : κ}
    {request' : Request} {outcome : Outcome} {attributes : AttributeSet}
    {reply : Reply (Except TraceError Unit)}
    (h : Milestones request slot
      (milestones (before ++ .finish context request' outcome attributes reply :: after))) :
    request' = request ∧ ∃ parent attributes',
      .start parent request attributes' (.returned (.ok context)) ∈ before := by
  rw [milestones_append, milestones_finish_cons] at h
  generalize hbefore : milestones before = early at h
  generalize hword : early ++ .finish context request' outcome attributes reply ::
    milestones after = word at h
  cases h with
  | untried => simp at hword
  | refused => cases early <;> simp at hword
  | underWay => cases early <;> simp at hword
  | finished _ _ parent context' attributes' attributes'' outcome' reply' =>
    cases early with
    | nil => simp at hword
    | cons call early =>
      obtain ⟨rfl, hrest⟩ := List.cons_eq_cons.mp hword
      cases early with
      | nil =>
        obtain ⟨hfinish, -⟩ := List.cons_eq_cons.mp hrest
        obtain ⟨rfl, rfl, -, -, -⟩ := SinkCall.finish.inj hfinish
        refine ⟨rfl, parent, attributes', mem_milestones_start.mp ?_⟩
        rw [hbefore]
        exact List.mem_cons_self
      | cons call early => cases early <;> simp at hrest

end

/-- Of a list of at most one, the part that is not empty is all. -/
theorem filter_eq_middle {p : SinkCall κ ς → Bool} {first middle last : List (SinkCall κ ς)}
    {call : SinkCall κ ς} (hmiddle : middle.filter p = [call])
    (hlength : ((first ++ (middle ++ last)).filter p).length ≤ 1) :
    (first ++ (middle ++ last)).filter p = middle.filter p := by
  simp only [List.filter_append, hmiddle, List.length_append, List.length_singleton] at hlength ⊢
  have hfirst : first.filter p = [] := List.length_eq_zero_iff.mp (by omega)
  have hlast : last.filter p = [] := List.length_eq_zero_iff.mp (by omega)
  rw [hfirst, hlast]
  rfl

/-- Calls are made exactly once by whatever hooks run on a slot that was not started yet. -/
theorem Journal.exactlyOnce {journal : Journal κ ς} (hentered : journal.entered = [])
    (hphase : journal.slot.phase ≠ .active) (hcontext : journal.slot.context = none)
    (hrun : HookRun journal.slot journal.hooks) :
    journal.ExactlyOnce journal.slot.request := by
  have hcalls : journal.calls = journal.hooks.flatMap (·.calls) := by
    rw [Journal.calls, hentered, List.nil_append]
  have hmilestones : Milestones journal.slot.request (lastSlot journal.slot journal.hooks)
      (milestones journal.calls) := by
    rw [hcalls]
    exact milestones_run (.untried hphase hcontext) hrun
  refine ⟨hentered, hmilestones.start_le_one, hmilestones.finish_le_one, ?_, ?_⟩
  · intro before after context request' outcome attributes reply hsplit
    rw [hsplit] at hmilestones
    exact hmilestones.finish_after_start
  · intro early opening between closing late parent context attributes outcome hhooks hstart
      hbetween houtcome
    have hlength := hmilestones.finish_le_one
    rw [hhooks, hookRun_append] at hrun
    obtain ⟨hearly, hopening, hlater⟩ := hrun
    rw [hookRun_append] at hlater
    obtain ⟨hquiet, hclosing, -⟩ := hlater
    obtain ⟨hactive, hopened⟩ := hopening.of_start hstart
    rw [lastSlot_of_no_outcome hquiet hactive hbetween] at hclosing
    obtain ⟨attributes', reply, hfinish⟩ := hclosing.of_outcome hactive hopened houtcome
    have hrequest : opening.slot.request = journal.slot.request :=
      hopening.request_eq.trans (request_lastSlot hearly)
    rw [hrequest] at hfinish
    refine ⟨attributes', reply, hfinish, ?_⟩
    have hparts : journal.calls =
        (early ++ opening :: between).flatMap (·.calls) ++
          (closing.calls ++ late.flatMap (·.calls)) := by
      rw [hcalls, hhooks]
      simp
    rw [hparts] at hlength ⊢
    exact filter_eq_middle hfinish hlength

namespace Controller

/-- **A call starts at most one span and ends it exactly once.**  Whatever a sink does at each call
of its operations, and whatever hooks a host runs on the slot of a call, the journal of the call is
as `ExactlyOnce` says; it is the journal of these hooks, leaves no call of the sink out, and keeping
it is no different from running the hooks. -/
theorem exactlyOnce_journal (controller : Controller σ κ ς) (request : Request)
    (hooks : List HookCall) (scene : Scene (Watched σ κ ς) η) :
    let run := (controller.journal request hooks).run scene
    run.1.ExactlyOnce request ∧
      run.1.hooks.map (·.hook) = hooks ∧
      run.2.sink.calls = scene.sink.calls ++ run.1.calls ∧
      (controller.passThrough request hooks).run scene.unwatched =
        (lastSlot run.1.slot run.1.hooks, run.2.unwatched) := by
  intro run
  obtain ⟨hentered, hslot⟩ := controller.entered_journal request hooks scene
  have hphase : run.1.slot.phase ≠ .active := by
    rw [hslot]
    show (if controller.enabled && request.operation.isSome then CallPhase.pendingStart
      else .idle) ≠ .active
    split <;> simp
  have hcontext : run.1.slot.context = none := by rw [hslot]
  have hrequest : run.1.slot.request = request := by rw [hslot]
  have honce := Journal.exactlyOnce hentered hphase hcontext
    (controller.hookRun_journal request hooks scene)
  rw [hrequest] at honce
  exact ⟨honce, controller.hooks_journal request hooks scene,
    controller.calls_journal request hooks scene, controller.journal_unwatched request hooks scene⟩

end Controller

end CallTracing
