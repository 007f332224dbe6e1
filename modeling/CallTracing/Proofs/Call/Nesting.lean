/-
  CallTracing/Proofs/Call/Nesting.lean
  ====================================
  **Calls inside calls: which start a span, inside which span, and in which context.**

  A `CallTree` is an intercepted call with the calls that its body makes.  Running one leaves a
  `CallRecord`: the tracer as the call found it, as its body found and left it, and as the call
  left it, with the records of the calls inside.  `Conforms` says what is expected of the record,
  given the context around and the enclosing calls that started a span.

  The proof goes by recursion over trees.  What ties it together is `Surroundings.Shows`: the
  current context tells of all surroundings.  A started span keeps that up for the calls inside it,
  and closing its slot brings it back for the calls after it.
-/
import CallTracing.Proofs.Call.Passage
import CallTracing.Proofs.Sink.TracingCalls

namespace CallTracing

/-! ### Trees and records -/

/-- An intercepted call: the calls that its body makes, and how the body comes back. -/
inductive CallTree where
  | call (request : Request) (inner : List CallTree)
      (reply : Reply (Except CallFailure Response))

/-- The tracer through a call. -/
structure CallRecord where
  before : Tracer
  /-- As the body found it. -/
  opened : Tracer
  /-- As the body left it. -/
  closed : Tracer
  after : Tracer
  inner : List CallRecord

/-- What a body hands to the record of its call. -/
structure BodyNote where
  opened : Tracer := {}
  closed : Tracer := {}
  inner : List CallRecord := []

mutual

/-- Run a call and keep a record of it. -/
def CallTree.run (controller : Controller Tracer TraceContext TraceContext) :
    CallTree → Hook Tracer BodyNote CallRecord
  | .call request inner reply => do
    let before := (← get).sink
    let _ ← controller.intercept request fun _ => do
      let opened := (← get).sink
      let records ← CallTree.runAll controller inner
      modify fun scene => { scene with host := ⟨opened, scene.sink, records⟩ }
      return reply
    let scene ← get
    return ⟨before, scene.host.opened, scene.host.closed, scene.sink, scene.host.inner⟩

/-- Run calls one after the other. -/
def CallTree.runAll (controller : Controller Tracer TraceContext TraceContext) :
    List CallTree → Hook Tracer BodyNote (List CallRecord)
  | [] => return []
  | tree :: rest => do
    let record ← CallTree.run controller tree
    let records ← CallTree.runAll controller rest
    return record :: records

end

/-! ### What is expected -/

/-- Where a call stands. -/
structure Surroundings where
  /-- The context outside all calls. -/
  ambient : TraceContext
  /-- The keys and the spans of the enclosing calls that started one, the nearest first. -/
  enclosing : List (SpanKey × SpanReference) := []

namespace Surroundings

variable (around : Surroundings)

/-- The span of the nearest enclosing call that started one, else the ambient one. -/
def span? : Option SpanReference :=
  match around.enclosing with
  | [] => around.ambient.span
  | (_, span) :: _ => some span

/-- The id of that span, zero for none. -/
def parentId : Nat := (around.span?.map (·.context.spanId)).getD 0

/-- Whether a call is to start a span. -/
structure Wants (policy : SuppressionPolicy) (enabled : Bool) (request : Request) : Prop where
  enabled_eq : enabled = true
  operation : request.operation.isSome
  unclaimed : policy.strategy = .spanKey →
    request.spanKey ∉ around.ambient.claimed ∧
      request.spanKey ∉ around.enclosing.map (·.1) ∧
        (around.enclosing ≠ [] → request.spanKey ∉ policy.claimedKeys)

/-- The surroundings of the calls inside a call that started a span. -/
def within (key : SpanKey) (span : SpanReference) : Surroundings :=
  { around with enclosing := (key, span) :: around.enclosing }

end Surroundings

mutual

/-- What is expected of a call. -/
inductive Conforms (policy : SuppressionPolicy) (enabled : Bool) :
    Surroundings → CallTree → CallRecord → Prop where
  /-- It starts a span inside the nearest one, and only that; the calls inside have it around them.
  At the end the context is the one before it. -/
  | started {around : Surroundings} {request : Request} {inner : List CallTree}
      {reply : Reply (Except CallFailure Response)} {record : CallRecord}
      (hwants : around.Wants policy enabled request)
      (hparent : record.before.current.span = around.span?) (span : SpanContext)
      (hlineage : record.opened.lineage = record.before.lineage ++ [(span, around.parentId)])
      (hspan : record.opened.current.span = some (.started span record.before.spans.length))
      (hinner : ConformsAll policy enabled
        (around.within request.spanKey (.started span record.before.spans.length))
        record.opened record.closed inner record.inner)
      (hafter : record.after.lineage = record.closed.lineage)
      (hcurrent : record.after.current = record.before.current) :
      Conforms policy enabled around (.call request inner reply) record
  /-- It starts no span, and the calls inside go as if it were not there. -/
  | passed {around : Surroundings} {request : Request} {inner : List CallTree}
      {reply : Reply (Except CallFailure Response)} {record : CallRecord}
      (hwants : ¬around.Wants policy enabled request)
      (huntouched : record.before.Untouched record.opened)
      (hinner : ConformsAll policy enabled around record.opened record.closed inner record.inner)
      (hafter : record.after.lineage = record.closed.lineage)
      (hcurrent : record.after.current = record.before.current) :
      Conforms policy enabled around (.call request inner reply) record

/-- What is expected of calls one after the other, from one tracer to another. -/
inductive ConformsAll (policy : SuppressionPolicy) (enabled : Bool) :
    Surroundings → Tracer → Tracer → List CallTree → List CallRecord → Prop where
  | nil {around : Surroundings} {tracer : Tracer} :
      ConformsAll policy enabled around tracer tracer [] []
  | cons {around : Surroundings} {last : Tracer} {tree : CallTree} {record : CallRecord}
      {trees : List CallTree} {records : List CallRecord}
      (hfirst : Conforms policy enabled around tree record)
      (hrest : ConformsAll policy enabled around record.after last trees records) :
      ConformsAll policy enabled around record.before last (tree :: trees) (record :: records)

end

/-! ### The context tells of the surroundings -/

theorem SuppressionPolicy.mem_claims (policy : SuppressionPolicy) (claimed : List SpanKey)
    (key other : SpanKey) :
    other ∈ policy.claims claimed key ↔
      other ∈ claimed ∨ other = key ∨ other ∈ policy.claimedKeys := by
  have hfold : ∀ (keys claimed : List SpanKey),
      other ∈ keys.foldl claim claimed ↔ other ∈ claimed ∨ other ∈ keys := by
    intro keys
    induction keys with
    | nil => simp
    | cons next keys ih =>
      intro claimed
      rw [List.foldl_cons, ih, mem_claim, List.mem_cons, or_assoc]
  rw [claims, hfold, List.mem_cons]

namespace Surroundings

/-- The current context tells of the surroundings: whose span is around, and which keys are
claimed. -/
structure Shows (around : Surroundings) (policy : SuppressionPolicy) (context : TraceContext) :
    Prop where
  span_eq : context.span = around.span?
  mem_claimed : ∀ key, key ∈ context.claimed ↔
    key ∈ around.ambient.claimed ∨ key ∈ around.enclosing.map (·.1) ∨
      around.enclosing ≠ [] ∧ key ∈ policy.claimedKeys

variable {around : Surroundings} {policy : SuppressionPolicy} {context : TraceContext}

theorem shows_ambient (policy : SuppressionPolicy) (context : TraceContext) :
    Shows { ambient := context } policy context :=
  ⟨rfl, by simp⟩

theorem Shows.within (h : around.Shows policy context) (key : SpanKey) (span : SpanReference) :
    (around.within key span).Shows policy
      { context with span := some span, claimed := policy.claims context.claimed key } where
  span_eq := rfl
  mem_claimed := by
    intro other
    rw [SuppressionPolicy.mem_claims, h.mem_claimed]
    simp only [Surroundings.within, List.map_cons, List.mem_cons, ne_eq, reduceCtorEq,
      not_false_eq_true, true_and]
    constructor
    · rintro ((hambient | hkey | ⟨-, hextra⟩) | rfl | hextra)
      · exact .inl hambient
      · exact .inr (.inl (.inr hkey))
      · exact .inr (.inr hextra)
      · exact .inr (.inl (.inl rfl))
      · exact .inr (.inr hextra)
    · rintro (hambient | (rfl | hkey) | hextra)
      · exact .inl (.inl hambient)
      · exact .inr (.inl rfl)
      · exact .inl (.inr (.inl hkey))
      · exact .inr (.inr hextra)

/-- What the policy sees of the claimed keys is what is expected of it. -/
theorem Shows.wants_iff {sink : TracingSink} (h : around.Shows sink.policy context)
    (enabled : Bool) (request : Request) :
    around.Wants sink.policy enabled request ↔
      (enabled && request.operation.isSome) = true ∧ sink.shouldStart context request = true := by
  have hunclaimed : sink.shouldStart context request = true ↔
      (sink.policy.strategy = .spanKey → request.spanKey ∉ context.claimed) := by
    rw [TracingSink.shouldStart, SuppressionPolicy.shouldStart]
    cases sink.policy.strategy with
    | off => simp
    | spanKey => simp
  rw [hunclaimed, Bool.and_eq_true]
  constructor
  · rintro ⟨henabled, hoperation, hfree⟩
    refine ⟨⟨henabled, hoperation⟩, fun hstrategy hmem => ?_⟩
    obtain ⟨hambient, hkeys, hextra⟩ := hfree hstrategy
    rcases (h.mem_claimed _).mp hmem with hmem | hmem | ⟨hne, hmem⟩
    · exact hambient hmem
    · exact hkeys hmem
    · exact hextra hne hmem
  · rintro ⟨⟨henabled, hoperation⟩, hfree⟩
    refine ⟨henabled, hoperation, fun hstrategy => ?_⟩
    have hnot := mt (h.mem_claimed _).mpr (hfree hstrategy)
    rw [not_or, not_or] at hnot
    exact ⟨hnot.1, hnot.2.1, fun hne hmem => hnot.2.2 ⟨hne, hmem⟩⟩

end Surroundings

/-! ### Every run conforms -/

section

variable (sink : TracingSink) (extractors : ExtractorChain) (enabled : Bool)

/-- A controller in front of a tracing sink. -/
def TracingSink.controller : Controller Tracer TraceContext TraceContext where
  sink := sink.toSink
  extractors := extractors
  enabled := enabled

/-- How a call went: what came before its body, the body, and what came after that. -/
theorem run_call (request : Request) (inner : List CallTree)
    (reply : Reply (Except CallFailure Response)) (scene : Scene Tracer BodyNote) :
    ∃ (scope : Option TraceContext) (opened settled : Scene Tracer BodyNote),
      let body := (CallTree.runAll (sink.controller extractors enabled) inner).run opened
      (((enabled && request.operation.isSome) = true ∧
          sink.shouldStart scene.sink.current request = true) ∧
          scope = some scene.sink.current ∧
          (∃ span, scene.sink.Entered opened.sink
            (sink.policy.claims scene.sink.current.claimed request.spanKey) span) ∨
        ¬((enabled && request.operation.isSome) = true ∧
          sink.shouldStart scene.sink.current request = true) ∧
          scope = none ∧ scene.sink.Untouched opened.sink) ∧
      settled.sink.lineage = body.2.sink.lineage ∧
      settled.sink.current = scope.getD body.2.sink.current ∧
      ((CallTree.call request inner reply).run (sink.controller extractors enabled)).run scene =
        (⟨scene.sink, opened.sink, body.2.sink, settled.sink, body.1⟩, settled) := by
  let controller := sink.controller extractors enabled
  let note : Headers → Hook Tracer BodyNote (Reply (Except CallFailure Response)) := fun _ => do
    let opened := (← get).sink
    let records ← CallTree.runAll controller inner
    modify fun scene => { scene with host := ⟨opened, scene.sink, records⟩ }
    return reply
  have hrun : ((CallTree.call request inner reply).run controller).run scene =
      (let after := ((controller.intercept request note).run scene).2
       (⟨scene.sink, after.host.opened, after.host.closed, after.sink, after.host.inner⟩,
         after)) := by
    rw [CallTree.run]
    rfl
  let opened : Slot TraceContext TraceContext × Scene Tracer BodyNote :=
    (controller.prepare request).run scene
  let body : List CallRecord × Scene Tracer BodyNote :=
    (CallTree.runAll controller inner).run opened.2
  let noted : Scene Tracer BodyNote :=
    { body.2 with host := ⟨opened.2.sink, body.2.sink, body.1⟩ }
  let settled : Scene Tracer BodyNote := ((controller.settle opened.1 reply).run noted).2
  obtain ⟨calls, hperforms, -, hstep⟩ := Controller.asks_prepare controller request scene
  obtain ⟨later, hlater, hhost, hcloses⟩ := Controller.asks_settle controller opened.1 reply noted
  obtain ⟨hlineage, hcurrent⟩ := TracingSink.closed_by hlater hcloses
  have hphase := controller.phase_freshSlot_eq_pendingStart request
  refine ⟨opened.1.scope, opened.2, settled, ?_, hlineage, hcurrent, ?_⟩
  · rcases TracingSink.opened_by hstep hperforms rfl fun hpending =>
        (Bool.and_eq_true_iff.mp (hphase.mp hpending)).2 with
      ⟨hpending, hshould, hscope, hentered⟩ | ⟨hnot, hscope, huntouched⟩
    · exact .inl ⟨⟨hphase.mp hpending, hshould⟩, hscope, hentered⟩
    · refine .inr ⟨?_, hscope, huntouched⟩
      rintro ⟨henabled, hshould⟩
      rcases hnot with hnot | hnot
      · exact hnot (hphase.mpr henabled)
      · rw [hshould] at hnot
        cases hnot
  · rw [hrun, Controller.run_intercept]
    show (CallRecord.mk scene.sink settled.host.opened settled.host.closed settled.sink
      settled.host.inner, settled) = _
    rw [hhost]

/-- The tracer that calls leave conforms, and the context in it is the one they found. -/
def RunConforms (around : Surroundings) (scene : Scene Tracer BodyNote)
    (trees : List CallTree) : Prop :=
  let run := (CallTree.runAll (sink.controller extractors enabled) trees).run scene
  ConformsAll sink.policy enabled around scene.sink run.2.sink trees run.1 ∧
    run.2.sink.current = scene.sink.current

/-- A call conforms if the calls inside it do, wherever they stand. -/
theorem conforms_call (request : Request) (inner : List CallTree)
    (reply : Reply (Except CallFailure Response)) (around : Surroundings)
    (scene : Scene Tracer BodyNote) (hshows : around.Shows sink.policy scene.sink.current)
    (hinner : ∀ around scene, around.Shows sink.policy scene.sink.current →
      RunConforms sink extractors enabled around scene inner) :
    let run := ((CallTree.call request inner reply).run (sink.controller extractors enabled)).run
      scene
    Conforms sink.policy enabled around (.call request inner reply) run.1 ∧
      run.1.before = scene.sink ∧ run.1.after = run.2.sink ∧
        run.2.sink.current = scene.sink.current := by
  obtain ⟨scope, opened, settled, hopened, hlineage, hcurrent, hrun⟩ :=
    run_call sink extractors enabled request inner reply scene
  rw [hrun]
  have hwants := hshows.wants_iff enabled request
  rcases hopened with ⟨hstart, rfl, span, hentered⟩ | ⟨hstart, rfl, huntouched⟩
  · have hwithin : (around.within request.spanKey
        (.started span scene.sink.spans.length)).Shows sink.policy opened.sink.current := by
      rw [hentered.current_eq]
      exact hshows.within _ _
    obtain ⟨hconforms, -⟩ := hinner _ opened hwithin
    refine ⟨.started (hwants.mpr hstart) hshows.span_eq span ?_ ?_ hconforms hlineage hcurrent,
      rfl, rfl, hcurrent⟩
    · rw [hentered.lineage_eq, Surroundings.parentId, ← hshows.span_eq]
    · rw [hentered.current_eq]
  · have hshows' : around.Shows sink.policy opened.sink.current := by
      rw [huntouched.current_eq]
      exact hshows
    obtain ⟨hconforms, hbody⟩ := hinner _ opened hshows'
    have hback := hcurrent.trans (hbody.trans huntouched.current_eq)
    exact ⟨.passed (mt hwants.mp hstart) huntouched hconforms hlineage hback, rfl, rfl, hback⟩

mutual

theorem conforms_run : ∀ (tree : CallTree) (around : Surroundings)
    (scene : Scene Tracer BodyNote), around.Shows sink.policy scene.sink.current →
    let run := (tree.run (sink.controller extractors enabled)).run scene
    Conforms sink.policy enabled around tree run.1 ∧
      run.1.before = scene.sink ∧ run.1.after = run.2.sink ∧
        run.2.sink.current = scene.sink.current
  | .call request inner reply, around, scene, hshows =>
    conforms_call sink extractors enabled request inner reply around scene hshows
      (conforms_runAll inner)

theorem conforms_runAll : ∀ (trees : List CallTree) (around : Surroundings)
    (scene : Scene Tracer BodyNote), around.Shows sink.policy scene.sink.current →
    RunConforms sink extractors enabled around scene trees
  | [], around, scene, _ => ⟨.nil, rfl⟩
  | tree :: rest, around, scene, hshows => by
    obtain ⟨hfirst, hbefore, hafter, hcurrent⟩ := conforms_run tree around scene hshows
    let run := (tree.run (sink.controller extractors enabled)).run scene
    have hshows' : around.Shows sink.policy run.2.sink.current := by
      rw [hcurrent]
      exact hshows
    obtain ⟨hrest, hlast⟩ := conforms_runAll rest around run.2 hshows'
    refine ⟨?_, hlast.trans hcurrent⟩
    rw [← hafter] at hrest
    rw [← hbefore]
    exact .cons hfirst hrest

end

/-- **Nested calls conform.**  Whatever the policy and the context around, of the calls of any
trees, run one after the other, exactly those start a span that want one, each inside the span of
the nearest enclosing call that did, and every call leaves the current context as it was. -/
theorem conforms_forest (trees : List CallTree) (scene : Scene Tracer BodyNote) :
    let run := (CallTree.runAll (sink.controller extractors enabled) trees).run scene
    ConformsAll sink.policy enabled { ambient := scene.sink.current } scene.sink run.2.sink trees
        run.1 ∧
      run.2.sink.current = scene.sink.current :=
  conforms_runAll sink extractors enabled trees _ scene (Surroundings.shows_ambient _ _)

end

end CallTracing
