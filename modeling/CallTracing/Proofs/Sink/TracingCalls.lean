/-
  CallTracing/Proofs/Sink/TracingCalls.lean
  =========================================
  **What the calls of a tracing sink do to its tracer.**

  Two things about a tracer matter for how spans nest: the context that is current, and the
  `lineage` of the spans, that is, which there are and inside which span each was started.  Only
  starting a span adds to the lineage, and nothing takes from it.  Only an activation, and taking
  one back, change the current context.

  A tracing sink neither panics nor refuses a call with an operation (`opened_by`), so a span is
  started exactly where the policy says so.
-/
import CallTracing.Proofs.Call.Interception
import CallTracing.Sink.Tracing

namespace CallTracing

namespace Tracer

/-! ### Lineage -/

/-- The spans started so far, each with the id of the span that it was started in. -/
def lineage (tracer : Tracer) : List (SpanContext × Nat) :=
  tracer.spans.map fun traced => (traced.span.context, traced.span.parentId)

variable (tracer : Tracer)

theorem length_lineage : tracer.lineage.length = tracer.spans.length := List.length_map _

theorem length_of_lineage {before after : Tracer} (h : after.lineage = before.lineage) :
    after.spans.length = before.spans.length := by
  rw [← length_lineage, h, length_lineage]

theorem lineage_changing {index : Nat} {change : TracedSpan → TracedSpan}
    (hchange : ∀ traced, tracer.spans[index]? = some traced →
      (change traced).span.context = traced.span.context ∧
        (change traced).span.parentId = traced.span.parentId) :
    (tracer.changing index change).lineage = tracer.lineage := by
  refine List.ext_getElem? fun i => ?_
  simp only [lineage, changing, List.getElem?_map, List.getElem?_modify]
  by_cases hindex : index = i
  · subst hindex
    cases htraced : tracer.spans[index]? with
    | none => rfl
    | some traced =>
      obtain ⟨hcontext, hparent⟩ := hchange traced htraced
      simp [hcontext, hparent]
  · simp [hindex]

theorem exporting_eq (span : SpanRecord) : (tracer.exporting span).lineage = tracer.lineage ∧
    (tracer.exporting span).current = tracer.current := by
  unfold exporting
  split <;> exact ⟨rfl, rfl⟩

theorem hold_eq (context : TraceContext) : (tracer.hold context).lineage = tracer.lineage ∧
    (tracer.hold context).current = tracer.current := by
  unfold hold
  split
  · exact ⟨rfl, rfl⟩
  · exact ⟨lineage_changing _ fun _ _ => ⟨rfl, rfl⟩, rfl⟩

theorem letGo_eq (context : TraceContext) : (tracer.letGo context).lineage = tracer.lineage ∧
    (tracer.letGo context).current = tracer.current := by
  unfold letGo
  split
  · exact ⟨rfl, rfl⟩
  · next index _ =>
    split
    · exact ⟨rfl, rfl⟩
    · next traced _ =>
      have hfewer : (tracer.changing index fun traced =>
          { traced with holders := traced.holders - 1 }).lineage = tracer.lineage :=
        lineage_changing _ fun _ _ => ⟨rfl, rfl⟩
      dsimp only
      split
      · obtain ⟨hlineage, hcurrent⟩ := exporting_eq ((tracer.changing index fun traced =>
          { traced with holders := traced.holders - 1 }).changing index fun traced =>
            { traced with ended := true }) traced.span
        refine ⟨hlineage.trans ((lineage_changing _ ?_).trans hfewer), hcurrent⟩
        intro _ _
        exact ⟨rfl, rfl⟩
      · exact ⟨hfewer, rfl⟩

theorem finish_eq (context : TraceContext) (attributes : List (String × AttributeValue))
    (status : SpanStatus) :
    (tracer.finish context attributes status).lineage = tracer.lineage ∧
      (tracer.finish context attributes status).current = tracer.current := by
  unfold finish
  split
  · exact ⟨rfl, rfl⟩
  · next index _ =>
    split
    · exact ⟨rfl, rfl⟩
    · next traced htraced =>
      split
      · exact ⟨rfl, rfl⟩
      · dsimp only
        obtain ⟨hlineage, hcurrent⟩ := exporting_eq
          (tracer.changing index fun current =>
            { current with
              span := { traced.span with
                status := status
                attributes := (traced.span.attributes ++ attributes).take maxAttributes }
              ended := true })
          { traced.span with
            status := status
            attributes := (traced.span.attributes ++ attributes).take maxAttributes }
        refine ⟨hlineage.trans (lineage_changing _ ?_), hcurrent⟩
        intro found hfound
        obtain rfl : traced = found := by simpa [htraced] using hfound
        exact ⟨rfl, rfl⟩

theorem restore_eq (before : TraceContext) : (tracer.restore before).lineage = tracer.lineage ∧
    (tracer.restore before).current = before :=
  ⟨(tracer.letGo_eq tracer.current).1, rfl⟩

theorem activate_eq (context : TraceContext) :
    (tracer.activate context).1 = tracer.current ∧
      (tracer.activate context).2.lineage = tracer.lineage ∧
        (tracer.activate context).2.current = context :=
  ⟨rfl, (tracer.hold_eq context).1, rfl⟩

end Tracer

namespace TracingSink

variable {sink : TracingSink} {before after : Tracer} {call : SinkCall TraceContext TraceContext}
  {calls : List (SinkCall TraceContext TraceContext)}

/-! ### Calls -/

/-- What a call does that opens nothing. -/
theorem performs_eq (h : sink.toSink.Performs before after call) (hopens : call.opens = false) :
    after.lineage = before.lineage ∧ after.current = call.released?.getD before.current := by
  cases call with
  | currentContext reply =>
    obtain ⟨-, rfl⟩ := h
    exact before.hold_eq _
  | shouldStart parent request reply =>
    obtain ⟨-, rfl⟩ := h
    exact ⟨rfl, rfl⟩
  | start => cases hopens
  | activate => cases hopens
  | inject context given written reply =>
    obtain ⟨-, -, rfl⟩ := h
    exact ⟨rfl, rfl⟩
  | correlationIds context reply =>
    obtain ⟨-, rfl⟩ := h
    exact ⟨rfl, rfl⟩
  | finish context request outcome attributes reply =>
    obtain ⟨-, rfl⟩ := h
    show (finish context outcome attributes before).state.lineage = _ ∧
      (finish context outcome attributes before).state.current = _
    unfold finish
    split
    · exact ⟨rfl, rfl⟩
    · exact before.finish_eq _ _ _
  | release scope =>
    obtain rfl := h
    exact before.restore_eq scope
  | discard context =>
    obtain rfl := h
    exact before.letGo_eq context

theorem performsAll_eq (h : sink.toSink.PerformsAll before after calls)
    (hopens : ∀ call ∈ calls, call.opens = false) :
    after.lineage = before.lineage ∧
      after.current =
        (calls.filterMap SinkCall.released?).foldl (fun _ scope => scope) before.current := by
  induction calls generalizing before with
  | nil =>
    obtain rfl : before = after := h
    exact ⟨rfl, rfl⟩
  | cons call rest ih =>
    obtain ⟨between, hcall, hrest⟩ := h
    obtain ⟨hlineage, hcurrent⟩ := performs_eq hcall (hopens call (by simp))
    obtain ⟨hlineage', hcurrent'⟩ := ih hrest fun other hother => hopens other (by simp [hother])
    refine ⟨hlineage'.trans hlineage, ?_⟩
    rw [hcurrent', hcurrent]
    cases hreleased : call.released? with
    | none =>
      rw [List.filterMap_cons_none hreleased]
      rfl
    | some scope =>
      rw [List.filterMap_cons_some hreleased]
      rfl

/-- Closing a slot makes current again what was so when its span was activated. -/
theorem closed_by {scope : Option TraceContext} (h : sink.toSink.PerformsAll before after calls)
    (hcloses : ClosesTo scope none calls) :
    after.lineage = before.lineage ∧ after.current = scope.getD before.current := by
  obtain ⟨hlineage, hcurrent⟩ := performsAll_eq h hcloses.opens_nothing
  have hreleased := hcloses.released
  simp only [Option.toList_none, List.append_nil] at hreleased
  rw [hreleased] at hcurrent
  refine ⟨hlineage, ?_⟩
  rw [hcurrent]
  cases scope <;> rfl

/-- What starting a span gives, where the call has an operation. -/
theorem start_eq {parent : TraceContext} {request : Request} {attributes : AttributeSet}
    {reply : Reply (Except TraceError TraceContext)} (hoperation : request.operation.isSome)
    (h : (sink.toSink.start parent request attributes).Gives before reply after) :
    ∃ span, reply = .returned (.ok
        { parent with
          span := some (.started span before.spans.length)
          claimed := sink.policy.claims parent.claimed request.spanKey }) ∧
      after.lineage = before.lineage ++ [(span, (parent.span.map (·.context.spanId)).getD 0)] ∧
      after.current = before.current := by
  rw [← spanName?_isSome] at hoperation
  obtain ⟨name, hname⟩ := Option.isSome_iff_exists.mp hoperation
  let started := before.start parent name request.spanKey.kind attributes.toKeyValues
  have hstart : sink.start parent request attributes before =
      (.ok { started.1 with claimed := sink.policy.claims parent.claimed request.spanKey },
        started.2) := by
    rw [start, hname]
  obtain ⟨rfl, rfl⟩ := h
  show ∃ span, Reply.returned (sink.start parent request attributes before).1 = _ ∧
    (sink.start parent request attributes before).2.lineage = _ ∧
      (sink.start parent request attributes before).2.current = _
  rw [hstart]
  exact ⟨(before.nextSpan parent).1, rfl, List.map_append, rfl⟩

end TracingSink

/-! ### Opening -/

namespace Tracer

/-- A span was started inside the current one and made current, and nothing else. -/
structure Entered (before after : Tracer) (claimed : List SpanKey) (span : SpanContext) :
    Prop where
  lineage_eq : after.lineage =
    before.lineage ++ [(span, (before.current.span.map (·.context.spanId)).getD 0)]
  current_eq : after.current =
    { before.current with span := some (.started span before.spans.length), claimed := claimed }

/-- No span was started, and the current context is what it was. -/
structure Untouched (before after : Tracer) : Prop where
  lineage_eq : after.lineage = before.lineage
  current_eq : after.current = before.current

end Tracer

namespace TracingSink

variable {sink : TracingSink} {before after : Tracer}
  {calls : List (SinkCall TraceContext TraceContext)}
  {slot slot' : Slot TraceContext TraceContext}

/-- The hook before the exit starts a span exactly where the policy wants one, and then keeps the
context to go back to. -/
theorem opened_by (hstep : HookStep slot .beforeExit calls slot')
    (h : sink.toSink.PerformsAll before after calls) (hscope : slot.scope = none)
    (hoperation : slot.phase = .pendingStart → slot.request.operation.isSome) :
    (slot.phase = .pendingStart ∧ sink.shouldStart before.current slot.request = true ∧
        slot'.scope = some before.current ∧
        ∃ span, before.Entered after
          (sink.policy.claims before.current.claimed slot.request.spanKey) span) ∨
      ((slot.phase ≠ .pendingStart ∨ sink.shouldStart before.current slot.request = false) ∧
        slot'.scope = none ∧ before.Untouched after) := by
  cases hstep with
  | notPending hphase =>
    obtain rfl : before = after := h
    exact .inr ⟨.inl hphase, hscope, rfl, rfl⟩
  | noParent hphase message =>
    obtain ⟨_, ⟨hreply, -⟩, -⟩ := h
    cases hreply
  | suppressed hphase parent wanted hwanted =>
    have huntouched := performsAll_eq h (by simp [SinkCall.opens])
    obtain ⟨_, ⟨hparent, -⟩, _, ⟨hreply, -⟩, -⟩ := h
    obtain rfl : before.current = parent := Reply.returned.inj hparent
    refine .inr ⟨.inr ?_, hscope, huntouched.1, huntouched.2⟩
    rw [← hreply] at hwanted
    cases hshould : sink.shouldStart before.current slot.request with
    | false => rfl
    | true => exact absurd (congrArg some hshould) hwanted
  | notStarted hphase parent attributes reply hreply =>
    obtain ⟨_, -, _, -, _, hstart, -⟩ := h
    obtain ⟨span, hok, -⟩ := start_eq (hoperation hphase) hstart
    exact absurd hok (hreply _)
  | started hphase parent context attributes scope written reply ids =>
    obtain ⟨held, ⟨hparent, rfl⟩, asked, ⟨hshould, rfl⟩, begun, hstart, active, hactivate,
      hrest⟩ := h
    obtain rfl : before.current = parent := Reply.returned.inj hparent
    obtain ⟨hheld, hcurrent⟩ := before.hold_eq before.current
    have hlength := Tracer.length_of_lineage hheld
    obtain ⟨span, hok, hbegun, hcurrent'⟩ := start_eq (hoperation hphase) hstart
    obtain rfl := Except.ok.inj (Reply.returned.inj hok)
    obtain ⟨rfl, rfl⟩ := hactivate
    obtain ⟨hlineage, hafter⟩ := performsAll_eq hrest (by simp [SinkCall.opens])
    obtain ⟨-, hactive, -⟩ := begun.activate_eq
      { before.current with
        span := some (.started span (before.hold before.current).spans.length)
        claimed := sink.policy.claims before.current.claimed slot.request.spanKey }
    refine .inl ⟨hphase, Reply.returned.inj hshould, ?_, span, ?_, ?_⟩
    · exact congrArg some (hcurrent'.trans hcurrent)
    · exact hlineage.trans (hactive.trans (hbegun.trans (congrArg (· ++ _) hheld)))
    · rw [← hlength]
      exact hafter

end TracingSink

end CallTracing
