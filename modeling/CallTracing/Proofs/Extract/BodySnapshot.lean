/-
  CallTracing/Proofs/Extract/BodySnapshot.lean
  ============================================
  **All facts of a phase come from one reading of the body.**

  Three attributes of each phase are read out of the body of an invoked model, by three mappings with
  one path.  The first of them reads the body, right after the name of the model, and decodes it; the
  other two take their facts from what was decoded (`applyAll_known`).  So even where an accessor
  answers differently each time that it is invoked, the attributes agree with one answer of it
  (`OneSnapshot`), and an answer without facts is not asked for again.

  The walk over the mappings of such a phase has three stretches: what is read before the body, the
  facts of the body, and the mappings of the category (`Phase.Invokes`).  Nothing in the first and in
  the last touches an attribute of a body or invokes an accessor of one.
-/
import CallTracing.Proofs.Extract.LastWrite
import CallTracing.Proofs.Payload.Invocations

namespace CallTracing

open AttributeSet Names Reading

/-! ### Reading and decoding a body -/

/-- Two sessions that differ at most in what was reported. -/
def Session.SameReads (session after : Session) : Prop :=
  after.cache = session.cache ∧ after.invocations = session.invocations

theorem maintains_report_sameReads (session : Session) (event : Event) :
    Maintains session.SameReads (Session.report event) fun _ => True :=
  fun _ hsame => ⟨hsame, trivial⟩

namespace FieldMappings

/-- The facts of a raw body, by the decoder of the model that was named. -/
def rawFacts (direction : Direction) (modelId : Option FieldValue) (raw : FieldValue) :
    AttributeSet :=
  match decodeBody raw with
  | .ok body => (BodyDecoder.select (modelId.bind FieldValue.text?)).write direction body .empty
  | .error _ => .empty

/-- The facts of a body: none if it is absent, is no text, or is malformed. -/
def bodyFacts (direction : Direction) (modelId raw : Option FieldValue) : AttributeSet :=
  raw.elim .empty (rawFacts direction modelId)

theorem written_bodyFacts (direction : Direction) (modelId raw : Option FieldValue) :
    Written (BodyFact direction) (bodyFacts direction modelId raw) := by
  cases raw with
  | none => exact .empty
  | some raw =>
    show Written (BodyFact direction) (rawFacts direction modelId raw)
    unfold rawFacts
    split
    · exact BodyDecoder.written_write _ direction _
    · exact .empty

/-- The facts of a raw body, with the report of them. -/
def reportedFacts (direction : Direction) (modelId : Option FieldValue) (raw : FieldValue) :
    Reading AttributeSet := do
  match ← Session.parseBody raw with
  | none => return .empty
  | some body =>
    let decoder := BodyDecoder.select (modelId.bind FieldValue.text?)
    let facts := decoder.write direction body .empty
    Session.report ⟨.debug, .fieldMappings, "model invocation body decoded",
      [("family", decoder.name), ("decoded", toString facts.size)]⟩
    return facts

theorem maintains_reportedFacts (session : Session) (direction : Direction)
    (modelId : Option FieldValue) (raw : FieldValue) :
    Maintains session.SameReads (reportedFacts direction modelId raw)
      (· = rawFacts direction modelId raw) := by
  have hparse : Maintains session.SameReads (Session.parseBody raw)
      (· = (decodeBody raw).toOption) := by
    unfold Session.parseBody
    cases decodeBody raw with
    | ok json => exact maintains_pure rfl
    | error fault => exact (maintains_report_sameReads _ _).bind fun _ _ => maintains_pure rfl
  refine hparse.bind ?_
  rintro json rfl
  unfold rawFacts
  cases decodeBody raw with
  | ok json => exact (maintains_report_sameReads _ _).bind fun _ _ => maintains_pure rfl
  | error fault => exact maintains_pure rfl

variable {phase : Phase}

theorem decodeAt_eq (hbody : phase.classification.body? = some .modelInvocation)
    (path : List String) :
    decodeAt phase path = (do
      let modelId ← Session.read phase.request.payload "modelId"
      let raw ← Session.resolve phase.root path
      raw.elim (pure .empty) (reportedFacts phase.direction modelId)) := by
  unfold decodeAt selectDecoder
  rw [hbody]
  simp only [bind_assoc, pure_bind]
  refine bind_congr fun modelId => ?_
  refine bind_congr fun raw => ?_
  cases raw <;> rfl

/-- The name of the model is read, then the body, and nothing else. -/
theorem run_decodeAt (hbody : phase.classification.body? = some .modelInvocation)
    (path : List String) (session : Session) :
    let model := (Session.read phase.request.payload "modelId").run session
    let body := (Session.resolve phase.root path).run model.2
    body.2.SameReads ((decodeAt phase path).run session).2 ∧
      ((decodeAt phase path).run session).1 = bodyFacts phase.direction model.1 body.1 := by
  intro model body
  have hrun : (decodeAt phase path).run session =
      (body.1.elim (pure .empty) (reportedFacts phase.direction model.1)).run body.2 := by
    rw [decodeAt_eq hbody]
    rfl
  rw [hrun]
  cases body.1 with
  | none => exact ⟨⟨rfl, rfl⟩, rfl⟩
  | some raw => exact maintains_reportedFacts body.2 phase.direction model.1 raw body.2 ⟨rfl, rfl⟩

/-! ### The three stretches of the walk -/

variable {facts set : AttributeSet} {bodies : BodyFacts} {path : List String}
  {mapping : FieldMapping}

theorem applyAll_cons_structured (h : mapping.isStructured = true) (rest : List FieldMapping)
    (set : AttributeSet) (bodies : BodyFacts) :
    applyAll true phase (mapping :: rest) set bodies = (do
      let after ← applyStructured phase mapping set bodies
      applyAll true phase rest after.1 after.2) := by
  rw [applyAll, if_pos h, if_pos rfl]

theorem applyAll_cons_plain (h : mapping.isStructured = false) (rest : List FieldMapping)
    (set : AttributeSet) (bodies : BodyFacts) :
    applyAll true phase (mapping :: rest) set bodies = (do
      let after ← applyPlain phase mapping set
      applyAll true phase rest after bodies) := by
  rw [applyAll, if_neg (by simp [h])]

theorem applyAll_append (first second : List FieldMapping) (set : AttributeSet)
    (bodies : BodyFacts) :
    applyAll true phase (first ++ second) set bodies = (do
      let after ← applyAll true phase first set bodies
      applyAll true phase second after.1 after.2) := by
  induction first generalizing set bodies with
  | nil => rfl
  | cons mapping rest ih =>
    rw [List.cons_append]
    cases h : mapping.isStructured with
    | true =>
      rw [applyAll_cons_structured h, applyAll_cons_structured h, bind_assoc]
      exact bind_congr fun after => ih after.1 after.2
    | false =>
      rw [applyAll_cons_plain h, applyAll_cons_plain h, bind_assoc]
      exact bind_congr fun after => ih after bodies

/-- Write the fact that a mapping wants, if it is there. -/
def writeFact (facts set : AttributeSet) (mapping : FieldMapping) : AttributeSet :=
  match facts.get? mapping.target with
  | some value => set.put mapping.target value
  | none => set

theorem get?_foldl_writeFact (facts set : AttributeSet) (mappings : List FieldMapping)
    (name : String) :
    (mappings.foldl (writeFact facts) set).get? name =
      if name ∈ mappings.map (·.target) then (facts.get? name).or (set.get? name)
      else set.get? name := by
  induction mappings generalizing set with
  | nil => rfl
  | cons mapping rest ih =>
    have hfirst : (writeFact facts set mapping).get? name =
        if mapping.target = name then (facts.get? name).or (set.get? name) else set.get? name := by
      unfold writeFact
      by_cases htarget : mapping.target = name
      · subst htarget
        cases hfact : facts.get? mapping.target with
        | none => simp
        | some value => simp [get?_put]
      · cases facts.get? mapping.target with
        | none => simp [htarget]
        | some value => simp [get?_put, htarget]
    rw [List.foldl_cons, ih, hfirst]
    by_cases htarget : mapping.target = name
    · cases facts.get? name <;> simp [htarget]
    · simp [htarget, Ne.symm htarget]

theorem applyStructured_known (mapping : FieldMapping) (set : AttributeSet)
    (hknown : bodies.decoded.lookup mapping.path = some facts) :
    applyStructured phase mapping set bodies =
      pure (writeFact facts set mapping,
        { bodies with wroteAny := bodies.wroteAny || facts.contains mapping.target }) := by
  unfold applyStructured writeFact AttributeSet.contains
  rw [hknown]
  cases hfact : facts.get? mapping.target with
  | none => simp [hfact]
  | some value => simp [hfact]

/-- Once a body is decoded, its facts are written without looking at it again. -/
theorem applyAll_known (mappings : List FieldMapping)
    (bodies : BodyFacts)
    (hmappings : ∀ mapping ∈ mappings, mapping.isStructured = true ∧ mapping.path = path)
    (set : AttributeSet) (hknown : bodies.decoded.lookup path = some facts) :
    applyAll true phase mappings set bodies =
      pure (mappings.foldl (writeFact facts) set,
        { bodies with wroteAny := bodies.wroteAny ||
            mappings.any fun mapping => facts.contains mapping.target }) := by
  induction mappings generalizing set bodies with
  | nil => simp [applyAll]
  | cons mapping rest ih =>
    obtain ⟨hstructured, rfl⟩ := hmappings mapping List.mem_cons_self
    have hrest := ih { bodies with wroteAny := bodies.wroteAny || facts.contains mapping.target }
      (fun later hlater => hmappings later (List.mem_cons_of_mem _ hlater))
      (writeFact facts set mapping) hknown
    rw [applyAll_cons_structured hstructured, applyStructured_known mapping set hknown, pure_bind]
    refine hrest.trans ?_
    rw [List.foldl_cons, List.any_cons, Bool.or_assoc]

/-- The first mapping to a body decodes it, for all that follow. -/
theorem applyAll_decoding (mappings : List FieldMapping) (hne : mappings ≠ [])
    (hmappings : ∀ mapping ∈ mappings, mapping.isStructured = true ∧ mapping.path = path)
    (set : AttributeSet) :
    applyAll true phase mappings set {} = (do
      let facts ← decodeAt phase path
      pure (mappings.foldl (writeFact facts) set,
        { decoded := [(path, facts)]
          wroteAny := mappings.any fun mapping => facts.contains mapping.target })) := by
  cases mappings with
  | nil => exact absurd rfl hne
  | cons mapping rest =>
    obtain ⟨hstructured, rfl⟩ := hmappings mapping List.mem_cons_self
    have hfirst : applyStructured phase mapping set {} = (do
        let facts ← decodeAt phase mapping.path
        applyStructured phase mapping set { decoded := [(mapping.path, facts)] }) := by
      unfold applyStructured
      simp
    rw [applyAll_cons_structured hstructured, hfirst, bind_assoc]
    refine bind_congr fun facts => ?_
    rw [← applyAll_cons_structured hstructured,
      applyAll_known (mapping :: rest) _ hmappings set List.lookup_cons_self]
    rfl

/-- Plain mappings leave the attributes of bodies as they are. -/
theorem maintains_plain {inv : Session → Prop} (mappings : List FieldMapping)
    (hmappings : ∀ mapping ∈ mappings, mapping ∈ mappingTable ∧ mapping.isStructured = false)
    (hread : ∀ mapping ∈ mappings,
      Maintains inv (Session.resolve phase.root mapping.path) fun _ => True)
    (set : AttributeSet) (bodies : BodyFacts) :
    Maintains inv (applyAll true phase mappings set bodies) fun after =>
      after.2 = bodies ∧ ∀ name, GenAi.isStructured name = true ∨ name = GenAi.system →
        after.1.get? name = set.get? name := by
  induction mappings generalizing set with
  | nil => exact maintains_pure ⟨rfl, fun _ _ => rfl⟩
  | cons mapping rest ih =>
    obtain ⟨hmem, hplain⟩ := hmappings mapping List.mem_cons_self
    have hwrite : Maintains inv (applyPlain phase mapping set) fun after =>
        ∀ name, GenAi.isStructured name = true ∨ name = GenAi.system →
          after.get? name = set.get? name := by
      refine maintains_applyPlain (hread mapping List.mem_cons_self) fun value _ name hname => ?_
      have hne : mapping.target ≠ name := by
        rcases hname with hstructured | rfl
        · exact (ne_of_isStructured hstructured hplain).symm
        · exact target_ne_system hmem
      rw [RpcFacts.get?_putKnown, if_neg hne]
    rw [applyAll_cons_plain hplain]
    refine hwrite.bind fun after hafter => ?_
    have hrest := ih (fun later hlater => hmappings later (List.mem_cons_of_mem _ hlater))
      (fun later hlater => hread later (List.mem_cons_of_mem _ hlater)) after
    refine hrest.imp ?_
    rintro result ⟨hbodies, hkept⟩
    exact ⟨hbodies, fun name hname => (hkept name hname).trans (hafter name hname)⟩

/-! ### Phases of an invocation -/

/-- The mappings of one direction that want facts of the body. -/
def bodyMappings (direction : Direction) : List FieldMapping :=
  (invokeModelProfile.mappingsFor direction).filter (·.isStructured)

theorem of_mem_bodyMappings {direction : Direction} :
    ∀ mapping ∈ bodyMappings direction,
      mapping.isStructured = true ∧ mapping.path = ["body"] := by
  cases direction <;> decide

theorem bodyMappings_ne_nil (direction : Direction) : bodyMappings direction ≠ [] := by
  cases direction <;> decide

/-- A decoder finds nothing that no mapping wants. -/
theorem mem_targets_of_bodyFact {direction : Direction} {name : String} {value : AttributeValue}
    (h : BodyFact direction name value) : name ∈ (bodyMappings direction).map (·.target) := by
  cases h <;> decide

/-- A phase in which a body is decoded, with what is read before it and after it. -/
structure Phase.Invokes (phase : Phase) (front rest : List FieldMapping) : Prop where
  body : phase.classification.body? = some .modelInvocation
  mappings : phase.mappings = front ++ (bodyMappings phase.direction ++ rest)
  front : ∀ mapping ∈ front, mapping ∈ mappingTable ∧ mapping.isStructured = false
  rest : ∀ mapping ∈ rest, mapping ∈ Category.all.flatMap Category.mappings

theorem plain_of_category : ∀ mapping ∈ Category.all.flatMap Category.mappings,
    mapping.isStructured = false ∧
      ∀ field ∈ mapping.path, ∀ accessor ∈ candidates "body" ++ candidates "modelId",
        accessor ∉ candidates field := by decide

variable {front rest : List FieldMapping}

theorem Phase.Invokes.plain_rest (h : phase.Invokes front rest) :
    ∀ mapping ∈ rest, mapping ∈ mappingTable ∧ mapping.isStructured = false := by
  intro mapping hmapping
  have hcategory := h.rest mapping hmapping
  exact ⟨List.mem_append_right _ hcategory, (plain_of_category mapping hcategory).1⟩

/-- The attributes of a phase whose body has these facts. -/
structure ShowsFacts (facts set : AttributeSet) : Prop where
  structured : ∀ name, GenAi.isStructured name = true → set.get? name = facts.get? name
  system : (set.get? GenAi.system).isSome ↔
    ∃ name, GenAi.isStructured name = true ∧ (set.get? name).isSome

theorem showsFacts_of_written {direction : Direction} {facts before after : AttributeSet}
    (hfacts : Written (BodyFact direction) facts)
    (hbefore : ∀ name, GenAi.isStructured name = true ∨ name = GenAi.system →
      before.get? name = none)
    (hafter : ∀ name, GenAi.isStructured name = true ∨ name = GenAi.system →
      after.get? name = ((bodyMappings direction).foldl (writeFact facts) before).get? name) :
    ShowsFacts facts
      (if (bodyMappings direction).any fun mapping => facts.contains mapping.target then
        after.put GenAi.system (.text GenAi.systemValue) else after) := by
  have hstructured : ∀ name, GenAi.isStructured name = true →
      after.get? name = facts.get? name := by
    intro name hname
    rw [hafter name (Or.inl hname), get?_foldl_writeFact, hbefore name (Or.inl hname),
      Option.or_none]
    split
    · rfl
    · next hmem =>
      cases hfact : facts.get? name with
      | none => rfl
      | some value => exact absurd (mem_targets_of_bodyFact (hfacts.of_get? hfact)) hmem
  have hsystem : after.get? GenAi.system = none := by
    have hmem : GenAi.system ∉ (bodyMappings direction).map (·.target) := by
      cases direction <;> decide
    rw [hafter _ (Or.inr rfl), get?_foldl_writeFact, if_neg hmem, hbefore _ (Or.inr rfl)]
  have hany : ((bodyMappings direction).any fun mapping => facts.contains mapping.target) = true ↔
      ∃ name, GenAi.isStructured name = true ∧ (facts.get? name).isSome := by
    rw [List.any_eq_true]
    constructor
    · rintro ⟨mapping, hmapping, hfact⟩
      exact ⟨mapping.target, (of_mem_bodyMappings mapping hmapping).1, hfact⟩
    · rintro ⟨name, -, hsome⟩
      obtain ⟨value, hvalue⟩ := Option.isSome_iff_exists.mp hsome
      have htarget := mem_targets_of_bodyFact (hfacts.of_get? hvalue)
      obtain ⟨mapping, hmapping, rfl⟩ := List.mem_map.mp htarget
      exact ⟨mapping, hmapping, hsome⟩
  by_cases hwrote : ((bodyMappings direction).any fun mapping =>
      facts.contains mapping.target) = true
  · have hput : ∀ name, GenAi.isStructured name = true →
        (after.put GenAi.system (.text GenAi.systemValue)).get? name = facts.get? name := by
      intro name hname
      have hne := ne_of_isStructured hname GenAi.isStructured_system
      rw [get?_put, if_neg (Ne.symm hne), hstructured name hname]
    rw [if_pos hwrote]
    refine ⟨hput, ?_⟩
    rw [get?_put, if_pos rfl]
    obtain ⟨name, hname, hsome⟩ := hany.mp hwrote
    exact iff_of_true rfl ⟨name, hname, by rwa [hput name hname]⟩
  · rw [if_neg hwrote]
    refine ⟨hstructured, ?_⟩
    rw [hsystem]
    refine iff_of_false (by simp) ?_
    rintro ⟨name, hname, hsome⟩
    rw [hstructured name hname] at hsome
    exact hwrote (hany.mpr ⟨name, hname, hsome⟩)

/-- The body is read and decoded after the first stretch and before the last. -/
theorem run_extract (h : phase.Invokes front rest) (session : Session) :
    let known := (decodeAt phase ["body"]).run
      ((applyAll true phase front .empty {}).run session).2
    ShowsFacts known.1 ((extract true phase).run session).1 ∧
      ∃ set bodies, ((extract true phase).run session).2 =
        ((applyAll true phase rest set bodies).run known.2).2 := by
  intro known
  let first := (applyAll true phase front .empty {}).run session
  have hread : ∀ mapping : FieldMapping,
      Maintains (fun _ => True) (Session.resolve phase.root mapping.path) fun _ => True :=
    fun _ => maintains_trivial _
  obtain ⟨-, hnone, hbefore⟩ :=
    maintains_plain front h.front (fun mapping _ => hread mapping) .empty {} session trivial
  let written := (bodyMappings phase.direction).foldl (writeFact known.1) first.1.1
  let bodies : BodyFacts :=
    { decoded := [(["body"], known.1)]
      wroteAny := (bodyMappings phase.direction).any fun mapping =>
        known.1.contains mapping.target }
  obtain ⟨-, hbodies, hafter⟩ :=
    maintains_plain rest h.plain_rest (fun mapping _ => hread mapping) written bodies known.2 trivial
  have hall : (applyAll true phase phase.mappings .empty {}).run session =
      (applyAll true phase rest written bodies).run known.2 := by
    have hsplit : (applyAll true phase phase.mappings .empty {}).run session =
        (applyAll true phase (bodyMappings phase.direction ++ rest) first.1.1 first.1.2).run
          first.2 := by
      rw [h.mappings, applyAll_append]
      rfl
    rw [hsplit, hnone, applyAll_append,
      applyAll_decoding _ (bodyMappings_ne_nil _) of_mem_bodyMappings first.1.1]
    rfl
  have hextract : (extract true phase).run session =
      (if ((applyAll true phase rest written bodies).run known.2).1.2.wroteAny then
        ((applyAll true phase rest written bodies).run known.2).1.1.put GenAi.system
          (.text GenAi.systemValue)
        else ((applyAll true phase rest written bodies).run known.2).1.1,
        ((applyAll true phase rest written bodies).run known.2).2) := by
    rw [← hall]
    rfl
  have hfacts : Written (BodyFact phase.direction) known.1 := by
    obtain ⟨-, hknown⟩ := run_decodeAt h.body ["body"] first.2
    rw [hknown]
    exact written_bodyFacts _ _ _
  rw [hextract, hbodies]
  exact ⟨showsFacts_of_written hfacts hbefore hafter, written, bodies, rfl⟩

/-! ### What was read, and how often -/

/-- What a phase reads of an invocation: the body once, and the name of the model for the last time
after `asked` earlier times. -/
structure ReadOnce (request : Request) (root : Payload) (asked : Nat) (before after : Session) :
    Prop where
  discovered : after.cache.Discovered
  body : ∀ accessor ∈ candidates "body",
    after.invocationCount root accessor = before.invocationCount root accessor +
      if (before.knowing request.payload).cache.finds root "body" = some accessor then 1 else 0
  model : ∀ accessor ∈ candidates "modelId",
    after.invocationCount request.payload accessor =
      before.invocationCount request.payload accessor +
        if before.cache.finds request.payload "modelId" = some accessor then asked + 1 else 0

theorem isSome_body : (canonicalFields.lookup "body").isSome := by decide

theorem isSome_modelId : (canonicalFields.lookup "modelId").isSome := by decide

theorem not_mem_candidates {accessor : String} (h : accessor ∈ candidates "body") :
    accessor ∉ candidates "modelId" := by
  have htable : ∀ accessor ∈ candidates "body", accessor ∉ candidates "modelId" := by decide
  exact htable accessor h

/-- The name of the model is not read by an accessor of a body. -/
theorem invocationCount_read_modelId {session : Session} (hcache : session.cache.Discovered)
    (payload root : Payload) {accessor : String} (haccessor : accessor ∈ candidates "body") :
    ((Session.read payload "modelId").run session).2.invocationCount root accessor =
      session.invocationCount root accessor := by
  have hne : ¬session.cache.finds payload "modelId" = some accessor :=
    fun hfound => not_mem_candidates haccessor (hcache.mem_candidates isSome_modelId hfound)
  rw [Session.invocationCount_read hcache isSome_modelId, if_neg fun h => hne h.2, Nat.add_zero]

/-- What the decoder of a body reads, and what it makes of it. -/
theorem readOnce_decodeAt (hbody : phase.classification.body? = some .modelInvocation)
    {session : Session} (hcache : session.cache.Discovered) :
    ReadOnce phase.request phase.root 0 session ((decodeAt phase ["body"]).run session).2 ∧
      ((decodeAt phase ["body"]).run session).1 = bodyFacts phase.direction
        (session.answerAfter phase.request.payload "modelId" 0)
        ((session.knowing phase.request.payload).answerAfter phase.root "body" 0) := by
  obtain ⟨⟨hknown, hcounts⟩, hvalue⟩ := run_decodeAt hbody ["body"] session
  rw [Session.resolve_singleton] at hknown hcounts hvalue
  let model := (Session.read phase.request.payload "modelId").run session
  have hmodel : model.2.cache = (session.knowing phase.request.payload).cache :=
    Session.cache_read_canonical hcache isSome_modelId
  have hdiscovered : model.2.cache.Discovered := by
    rw [hmodel]
    exact hcache.profile phase.request.payload
  have hsame : ∀ payload accessor,
      ((decodeAt phase ["body"]).run session).2.invocationCount payload accessor =
        ((Session.read phase.root "body").run model.2).2.invocationCount payload accessor := by
    intro payload accessor
    unfold Session.invocationCount
    rw [hcounts]
  refine ⟨⟨?_, ?_, ?_⟩, ?_⟩
  · rw [hknown, Session.cache_read_canonical hdiscovered isSome_body]
    exact hdiscovered.profile phase.root
  · intro accessor haccessor
    rw [hsame, Session.invocationCount_read hdiscovered isSome_body,
      invocationCount_read_modelId hcache _ _ haccessor, hmodel]
    simp
  · intro accessor haccessor
    have hne : ¬model.2.cache.finds phase.root "body" = some accessor :=
      fun hfound => not_mem_candidates (hdiscovered.mem_candidates isSome_body hfound) haccessor
    rw [hsame, Session.invocationCount_read hdiscovered isSome_body, if_neg fun h => hne h.2,
      Session.invocationCount_read hcache isSome_modelId]
    simp
  · have hanswer : model.2.answerAfter phase.root "body" 0 =
        (session.knowing phase.request.payload).answerAfter phase.root "body" 0 := by
      have hfinds : model.2.cache.finds phase.root "body" =
          (session.knowing phase.request.payload).cache.finds phase.root "body" :=
        congrArg (fun cache => cache.finds phase.root "body") hmodel
      refine Session.answerAfter_congr (hcache.profile _) isSome_body hfinds ?_
      intro accessor haccessor _
      exact congrArg (· + 0) (invocationCount_read_modelId hcache _ _ haccessor)
    rw [hvalue, Session.value_read_next hcache isSome_modelId,
      Session.value_read_next hdiscovered isSome_body, hanswer]

/-- The mappings of the category invoke neither of the two accessors. -/
theorem ReadOnce.throughRest (h : phase.Invokes front rest) {request : Request} {root : Payload}
    {asked : Nat} {before known : Session} (hknown : ReadOnce request root asked before known)
    (set : AttributeSet) (bodies : BodyFacts) :
    ReadOnce request root asked before ((applyAll true phase rest set bodies).run known).2 := by
  have hkept : ∀ (payload : Payload) (accessor : String),
      accessor ∈ candidates "body" ++ candidates "modelId" →
      let after := ((applyAll true phase rest set bodies).run known).2
      after.cache.Discovered ∧
        after.invocationCount payload accessor = known.invocationCount payload accessor := by
    intro payload accessor haccessor
    have hread : ∀ mapping ∈ rest, Maintains (fun session => session.cache.Discovered ∧
        session.invocationCount payload accessor = known.invocationCount payload accessor)
          (Session.resolve phase.root mapping.path) fun _ => True := by
      intro mapping hmapping
      obtain ⟨field, hpath, hfield⟩ := path_of_mem (h.plain_rest mapping hmapping).1
      obtain ⟨-, hother⟩ := plain_of_category mapping (h.rest mapping hmapping)
      have hfree : accessor ∉ candidates field :=
        hother field (by rw [hpath]; exact List.mem_singleton_self field) accessor haccessor
      rw [hpath, Session.resolve_singleton]
      exact maintains_invocationCount hfield hfree
    have hwalk := maintains_plain rest h.plain_rest hread set bodies
    exact (hwalk known ⟨hknown.discovered, rfl⟩).1
  have hfirst : "getBody" ∈ candidates "body" ++ candidates "modelId" := by decide
  refine ⟨(hkept root "getBody" hfirst).1, ?_, ?_⟩
  · intro accessor haccessor
    rw [(hkept root accessor (List.mem_append_left _ haccessor)).2]
    exact hknown.body accessor haccessor
  · intro accessor haccessor
    rw [(hkept request.payload accessor (List.mem_append_right _ haccessor)).2]
    exact hknown.model accessor haccessor

/-- A phase that has read the name of the model once before. -/
theorem ReadOnce.asked {request : Request} {root : Payload} {session after : Session}
    (hcache : session.cache.Discovered)
    (h : ReadOnce request root 0 ((Session.read request.payload "modelId").run session).2 after) :
    ReadOnce request root 1 session after := by
  have hknowing : ((Session.read request.payload "modelId").run session).2.cache =
      (session.knowing request.payload).cache :=
    Session.cache_read_canonical hcache isSome_modelId
  refine ⟨h.discovered, ?_, ?_⟩
  · intro accessor haccessor
    rw [h.body accessor haccessor, Session.cache_knowing_of_known hknowing,
      invocationCount_read_modelId hcache _ _ haccessor]
  · intro accessor haccessor
    have hfinds : ((Session.read request.payload "modelId").run session).2.cache.finds
        request.payload = session.cache.finds request.payload := by
      rw [hknowing]
      exact session.cache.finds_profile_self request.payload
    rw [h.model accessor haccessor, hfinds, Session.invocationCount_read hcache isSome_modelId]
    by_cases hfound : session.cache.finds request.payload "modelId" = some accessor
    · simp [hfound]
    · simp [hfound]

/-! ### Both phases of an invocation -/

theorem bodies_of_type {request : Request} (htype : request.payload.typeName = "InvokeModelRequest")
    (responseType : Option String) (direction : Direction) :
    (Classification.resolve request.service request.payload.typeName responseType
      direction).body? = some .modelInvocation := by
  rw [htype]
  rfl

/-- The mappings of a phase of an invocation: those of its type, then those of a category. -/
theorem mappings_of_type {request : Request}
    (htype : request.payload.typeName = "InvokeModelRequest") (responseType : Option String)
    (direction : Direction) :
    ∃ rest : List FieldMapping,
      (∀ mapping ∈ rest, mapping ∈ Category.all.flatMap Category.mappings) ∧
        (Classification.resolve request.service request.payload.typeName responseType
          direction).profiles.flatMap (·.mappingsFor direction) =
            invokeModelProfile.mappingsFor direction ++ rest := by
  let resolved :=
    Classification.resolve request.service request.payload.typeName responseType direction
  let known := (resolved.category.bind Category.profile?).toList
  have hprofiles : resolved.profiles = invokeModelProfile :: known := by
    show (typeProfile? request.payload.typeName).toList ++ known = invokeModelProfile :: known
    rw [htype, typeProfile?_invokeModel]
    rfl
  refine ⟨known.flatMap (·.mappingsFor direction), ?_, ?_⟩
  · intro mapping hmapping
    obtain ⟨profile, hprofile, hmem⟩ := List.mem_flatMap.mp hmapping
    obtain ⟨⟨category, hmappings⟩, -⟩ := Category.of_mem_profile hprofile
    have hlisted := (List.mem_filter.mp hmem).1
    rw [hmappings] at hlisted
    exact List.mem_flatMap.mpr ⟨category, category.mem_all, hlisted⟩
  · show resolved.profiles.flatMap (·.mappingsFor direction) = _
    rw [hprofiles, List.flatMap_cons]

/-- Before the call, the name of the model is an attribute too. -/
theorem invokes_startPhase {request : Request}
    (htype : request.payload.typeName = "InvokeModelRequest") :
    ∃ rest, (startPhase request).Invokes [onRequest GenAi.requestModel "modelId"] rest := by
  obtain ⟨rest, hrest, hmappings⟩ := mappings_of_type htype none .request
  refine ⟨rest, bodies_of_type htype none .request, hmappings, ?_, hrest⟩
  decide

theorem invokes_endPhase {request : Request}
    (htype : request.payload.typeName = "InvokeModelRequest") (root : Payload) :
    ∃ rest, (endPhase request root).Invokes [] rest := by
  obtain ⟨rest, hrest, hmappings⟩ := mappings_of_type htype (some root.typeName) .response
  refine ⟨rest, bodies_of_type htype (some root.typeName) .response, hmappings, ?_, hrest⟩
  exact fun _ hmapping => nomatch hmapping

/-- A phase whose facts all come from one reading of the body of `root`, by the decoder of the model
that the request names when it has been asked `asked` times before. -/
structure OneSnapshot (direction : Direction) (request : Request) (root : Payload) (asked : Nat)
    (before : Session) (set : AttributeSet) (after : Session) : Prop extends
    ReadOnce request root asked before after where
  shows : ShowsFacts
    (bodyFacts direction (before.answerAfter request.payload "modelId" asked)
      ((before.knowing request.payload).answerAfter root "body" 0)) set

theorem oneSnapshot_startPhase {request : Request} {session : Session}
    (htype : request.payload.typeName = "InvokeModelRequest") (hcache : session.cache.Discovered) :
    OneSnapshot .request request request.payload 1 session
      ((extract true (startPhase request)).run session).1
      ((extract true (startPhase request)).run session).2 := by
  obtain ⟨rest, hinvokes⟩ := invokes_startPhase htype
  obtain ⟨hshows, set, bodies, hafter⟩ := run_extract hinvokes session
  have hfront : ((applyAll true (startPhase request) [onRequest GenAi.requestModel "modelId"]
      .empty {}).run session).2 = ((Session.read request.payload "modelId").run session).2 := by
    have hwalk : ((applyAll true (startPhase request) [onRequest GenAi.requestModel "modelId"]
        .empty {}).run session).2 = ((applyPlain (startPhase request)
          (onRequest GenAi.requestModel "modelId") .empty).run session).2 := by
      rw [applyAll_cons_plain rfl]
      rfl
    rw [hwalk, state_applyPlain]
    exact congrArg (fun m => (StateT.run m session).2)
      (Session.resolve_singleton request.payload "modelId")
  rw [hfront] at hshows hafter
  have hmodel : ((Session.read request.payload "modelId").run session).2.cache =
      (session.knowing request.payload).cache :=
    Session.cache_read_canonical hcache isSome_modelId
  have hdiscovered : ((Session.read request.payload "modelId").run session).2.cache.Discovered := by
    rw [hmodel]
    exact hcache.profile request.payload
  obtain ⟨hread, hknown⟩ := readOnce_decodeAt hinvokes.body hdiscovered
  refine ⟨?_, ?_⟩
  · rw [hafter]
    exact (hread.asked hcache).throughRest hinvokes set bodies
  · -- the first reading of the name is counted, and leaves the accessor of the body alone
    have hname : ((Session.read request.payload "modelId").run session).2.answerAfter
        request.payload "modelId" 0 = session.answerAfter request.payload "modelId" 1 := by
      refine Session.answerAfter_congr hcache isSome_modelId ?_ ?_
      · rw [hmodel]
        exact congrFun (session.cache.finds_profile_self request.payload) "modelId"
      · intro accessor _ hfound
        rw [Session.invocationCount_read hcache isSome_modelId, if_pos ⟨rfl, hfound⟩]
    have hbody : (((Session.read request.payload "modelId").run session).2.knowing
        request.payload).answerAfter request.payload "body" 0 =
          (session.knowing request.payload).answerAfter request.payload "body" 0 := by
      refine Session.answerAfter_congr (hcache.profile _) isSome_body ?_ ?_
      · rw [Session.cache_knowing_of_known hmodel]
      · intro accessor haccessor _
        exact congrArg (· + 0) (invocationCount_read_modelId hcache _ _ haccessor)
    rw [hknown] at hshows
    rw [← hname, ← hbody]
    exact hshows

theorem oneSnapshot_endPhase {request : Request} {session : Session}
    (htype : request.payload.typeName = "InvokeModelRequest") (hcache : session.cache.Discovered)
    (root : Payload) :
    OneSnapshot .response request root 0 session
      ((extract true (endPhase request root)).run session).1
      ((extract true (endPhase request root)).run session).2 := by
  obtain ⟨rest, hinvokes⟩ := invokes_endPhase htype root
  obtain ⟨hshows, set, bodies, hafter⟩ := run_extract hinvokes session
  obtain ⟨hread, hknown⟩ := readOnce_decodeAt hinvokes.body hcache
  refine ⟨?_, ?_⟩
  · rw [hafter]
    exact hread.throughRest hinvokes set bodies
  · have hfacts : ShowsFacts ((decodeAt (endPhase request root) ["body"]).run session).1
        ((extract true (endPhase request root)).run session).1 := hshows
    rw [hknown] at hfacts
    exact hfacts

/-- **One body, one reading**: in each phase of an invocation the body is read at most once and all
its facts are those of what was read.  The model is named right before that: for the second time
before the call, where the name is an attribute as well, and for the first time after it.  A
response without a payload is not looked at. -/
theorem oneSnapshot_phases (request : Request) (session : Session)
    (htype : request.payload.typeName = "InvokeModelRequest") (hcache : session.cache.Discovered) :
    OneSnapshot .request request request.payload 1 session
        (((extractor true).onStart request).run session).1.attributes
        (((extractor true).onStart request).run session).2 ∧
      ∀ outcome : Outcome,
        (∀ root, outcome.response.bind (·.payload) = some root →
          OneSnapshot .response request root 0 session
            (((extractor true).onEnd request outcome).run session).1.attributes
            (((extractor true).onEnd request outcome).run session).2) ∧
        (outcome.response.bind (·.payload) = none →
          (((extractor true).onEnd request outcome).run session).1.attributes = .empty ∧
            (((extractor true).onEnd request outcome).run session).2 = session) := by
  have hstart : ((extractor true).onStart request).run session =
      ({ attributes := ((extract true (startPhase request)).run session).1 },
        ((extract true (startPhase request)).run session).2) := rfl
  refine ⟨?_, fun outcome => ⟨?_, ?_⟩⟩
  · rw [hstart]
    exact oneSnapshot_startPhase htype hcache
  · intro root hroot
    have hrun : ((extractor true).onEnd request outcome).run session =
        ({ attributes := ((extract true (endPhase request root)).run session).1 },
          ((extract true (endPhase request root)).run session).2) := by
      rw [← endAttributes_of_some true request hroot]
      rfl
    rw [hrun]
    exact oneSnapshot_endPhase htype hcache root
  · intro hnone
    have hrun : ((extractor true).onEnd request outcome).run session =
        ({ attributes := ((endAttributes true request outcome).run session).1 },
          ((endAttributes true request outcome).run session).2) := rfl
    rw [hrun, endAttributes_of_none true request hnone]
    exact ⟨rfl, rfl⟩

/-- An invocation whose accessors never answer the same twice: the model has no name when it is asked
for first, and the limit in the body grows. -/
def restless : Request where
  service := "BedrockRuntime"
  operation := some "InvokeModel"
  payload :=
    { identity := 0
      typeName := "InvokeModelRequest"
      profileKey := "InvokeModelRequest"
      probe := fun name => if name = "getBody" ∨ name = "getModelId" then .present else .absent
      answer := fun name n =>
        if name = "getModelId" then
          if n = 0 then .panics else .value (.text "meta.llama3-8b")
        else if n = 0 then .value (.text "\x7b\"max_gen_len\":5,\"top_p\":1\x7d")
        else .value (.text "\x7b\"max_gen_len\":6,\"top_p\":2\x7d")
      marshalled := none }

/-- Both facts are those of the first answer, and there is no second one. -/
theorem restless_oneSnapshot :
    restless.payload.typeName = "InvokeModelRequest" ∧ AccessorCache.Discovered {} ∧
      (((extractor true).onStart restless).run {}).1.attributes.get? GenAi.requestMaxTokens =
        some (.text "5") ∧
      (((extractor true).onStart restless).run {}).1.attributes.get? GenAi.requestTopP =
        some (.text "1") ∧
      (((extractor true).onStart restless).run {}).2.invocationCount restless.payload "getBody" =
        1 ∧
      (((extractor true).onEnd restless {}).run {}).1.attributes = .empty := by
  obtain ⟨hstart, hend⟩ := oneSnapshot_phases restless {} rfl AccessorCache.discovered_empty
  refine ⟨rfl, AccessorCache.discovered_empty, ?_, ?_, ?_, ((hend {}).2 rfl).1⟩
  · rw [hstart.shows.structured GenAi.requestMaxTokens (by decide)]
    decide +kernel
  · rw [hstart.shows.structured GenAi.requestTopP (by decide)]
    decide +kernel
  · rw [hstart.body "getBody" (by decide)]
    decide +kernel

end FieldMappings

end CallTracing
