/-
  CallTracing/Proofs/Extract/Mappings.lean
  ========================================
  **Walking the mappings of a phase.**

  Which mappings apply is read from tables, and what is needed of them holds of every row: a mapping
  is a single canonical field of the payload (`path_of_mem`).  Their walk is a loop, for which there
  is one rule (`maintains_extract`).  An invariant of the loop (`Phase.Carries`) speaks about the
  mappings still to come, the set so far, and whether a fact of a body was written.  It has to be
  kept by what a mapping can do to the set: nothing, the write of a fact (`BodyFact`), or the write
  of the text of a field.
-/
import CallTracing.Extract.FieldMapping
import CallTracing.Extract.Rpc
import CallTracing.Proofs.Model.Facts
import CallTracing.Proofs.Payload.Readings

namespace CallTracing

open AttributeSet Names Reading

/-! ### The tables -/

/-- All categories. -/
def Category.all : List Category :=
  [.s3, .sqs, .kinesis, .dynamoDb, .sns, .secretsManager, .stepFunctions, .lambda, .bedrock,
    .bedrockAgent .agent, .bedrockAgent .dataSource, .bedrockAgent .knowledgeBase,
    .bedrockAgentRuntime, .bedrockRuntime]

theorem Category.mem_all (category : Category) : category ∈ Category.all := by
  cases category with
  | bedrockAgent resource => cases resource <;> decide
  | _ => decide

/-- The mappings of all profiles. -/
def mappingTable : List FieldMapping :=
  invokeModelProfile.mappings ++ Category.all.flatMap Category.mappings

/-- The profile of a category has its mappings, and no body. -/
theorem Category.of_mem_profile {category? : Option Category} {profile : MappingProfile}
    (h : profile ∈ (category?.bind Category.profile?).toList) :
    (∃ category : Category, profile.mappings = category.mappings) ∧ profile.body = none := by
  obtain ⟨category, -, hprofile⟩ := Option.bind_eq_some_iff.mp (Option.mem_toList.mp h)
  have hparts : profile.mappings = category.mappings ∧ profile.body = none := by
    cases category with
    | bedrockRuntime => cases hprofile
    | _ =>
      obtain rfl := Option.some.inj hprofile
      exact ⟨rfl, rfl⟩
  exact ⟨⟨category, hparts.1⟩, hparts.2⟩

/-- What applies is listed in the tables, for its direction. -/
theorem mem_mappingTable {service requestType : String} {responseType : Option String}
    {direction : Direction} {mapping : FieldMapping}
    (h : mapping ∈ (Classification.resolve service requestType responseType direction).profiles.flatMap
      (·.mappingsFor direction)) :
    mapping ∈ mappingTable ∧ mapping.direction = direction := by
  obtain ⟨profile, hprofile, hmapping⟩ := List.mem_flatMap.mp h
  obtain ⟨hmem, hdirection⟩ := List.mem_filter.mp hmapping
  refine ⟨List.mem_append.mpr ?_, by simpa using hdirection⟩
  rcases List.mem_append.mp hprofile with htype | hcategory
  · have hmodel : profile = invokeModelProfile :=
      List.mem_singleton.mp (List.mem_of_find?_eq_some (Option.mem_toList.mp htype))
    exact Or.inl (hmodel ▸ hmem)
  · obtain ⟨⟨category, hmappings⟩, -⟩ := Category.of_mem_profile hcategory
    rw [hmappings] at hmem
    exact Or.inr (List.mem_flatMap.mpr ⟨category, category.mem_all, hmem⟩)

/-- Every mapping reads one canonical field. -/
theorem path_of_mem {mapping : FieldMapping} (h : mapping ∈ mappingTable) :
    ∃ field, mapping.path = [field] ∧ (canonicalFields.lookup field).isSome := by
  have htable : ∀ mapping ∈ mappingTable, mapping.path.length = 1 ∧
      ∀ field ∈ mapping.path, (canonicalFields.lookup field).isSome := by decide
  obtain ⟨hlength, hcanonical⟩ := htable mapping h
  obtain ⟨field, hfield⟩ := List.length_eq_one_iff.mp hlength
  exact ⟨field, hfield, hcanonical field (by rw [hfield]; simp)⟩

/-! ### The phases of a call -/

namespace FieldMappings

/-- The phase before a call. -/
def startPhase (request : Request) : Phase where
  request := request
  root := request.payload
  classification :=
    Classification.resolve request.service request.payload.typeName none .request
  direction := .request

/-- The phase after a call whose response has a payload. -/
def endPhase (request : Request) (root : Payload) : Phase where
  request := request
  root := root
  classification :=
    Classification.resolve request.service request.payload.typeName (some root.typeName) .response
  direction := .response

theorem endAttributes_of_none (genAi : Bool) (request : Request) {outcome : Outcome}
    (h : outcome.response.bind (·.payload) = none) :
    endAttributes genAi request outcome = pure .empty := by
  unfold endAttributes
  rw [h]

theorem endAttributes_of_some (genAi : Bool) (request : Request) {outcome : Outcome}
    {root : Payload} (h : outcome.response.bind (·.payload) = some root) :
    endAttributes genAi request outcome = extract genAi (endPhase request root) := by
  unfold endAttributes
  rw [h]
  rfl

/-- A phase whose mappings are listed in the tables, for its direction. -/
def Phase.Tabled (phase : Phase) : Prop :=
  ∀ mapping ∈ phase.mappings, mapping ∈ mappingTable ∧ mapping.direction = phase.direction

theorem tabled_startPhase (request : Request) : (startPhase request).Tabled :=
  fun _ hmapping =>
    @mem_mappingTable request.service request.payload.typeName none .request _ hmapping

theorem tabled_endPhase (request : Request) (root : Payload) : (endPhase request root).Tabled :=
  fun _ hmapping => @mem_mappingTable request.service request.payload.typeName
    (some root.typeName) .response _ hmapping

/-! ### Structured mappings -/

variable {inv : Session → Prop} {phase : Phase} {genAi : Bool}

/-- What decoding a body may report. -/
inductive BodyReport : Event → Prop where
  | fault (fault : BodyFault) :
      BodyReport ⟨.debug, .bodyDecoding, "model invocation body not decoded",
        [("error", fault.toTraceError.text)]⟩
  | decoded (decoder : BodyDecoder) (size : Nat) :
      BodyReport ⟨.debug, .fieldMappings, "model invocation body decoded",
        [("family", decoder.name), ("decoded", toString size)]⟩

/-- A phase all of whose readings keep an invariant. -/
structure Phase.Keeps (inv : Session → Prop) (phase : Phase) : Prop where
  model : phase.classification.body? ≠ none →
    Maintains inv (Session.read phase.request.payload "modelId") fun _ => True
  field : ∀ mapping ∈ phase.mappings,
    Maintains inv (Session.resolve phase.root mapping.path) fun _ => True
  report : ∀ event, BodyReport event → Maintains inv (Session.report event) fun _ => True

/-- Bodies of which only facts are remembered. -/
def BodyFacts.Sound (direction : Direction) (bodies : BodyFacts) : Prop :=
  ∀ path facts, bodies.decoded.lookup path = some facts → Written (BodyFact direction) facts

theorem maintains_selectDecoder (h : phase.Keeps inv) :
    Maintains inv (selectDecoder phase) fun _ => True := by
  unfold selectDecoder
  split
  · exact maintains_pure trivial
  · next hbody =>
    have hmodel := h.model (by rw [hbody]; simp)
    exact hmodel.bind fun _ _ => maintains_pure trivial

theorem maintains_parseBody (h : phase.Keeps inv) (raw : FieldValue) :
    Maintains inv (Session.parseBody raw) fun _ => True := by
  unfold Session.parseBody
  split
  · exact maintains_pure trivial
  · next fault _ =>
    exact (h.report _ (.fault fault)).bind fun _ _ => maintains_pure trivial

theorem maintains_decodeAt (h : phase.Keeps inv) {mapping : FieldMapping}
    (hmapping : mapping ∈ phase.mappings) :
    Maintains inv (decodeAt phase mapping.path) (Written (BodyFact phase.direction)) := by
  refine (maintains_selectDecoder h).bind fun decoder _ => ?_
  cases decoder with
  | none => exact maintains_pure .empty
  | some decoder =>
    refine (h.field mapping hmapping).bind fun raw _ => ?_
    cases raw with
    | none => exact maintains_pure .empty
    | some raw =>
      refine (maintains_parseBody h raw).bind fun body _ => ?_
      cases body with
      | none => exact maintains_pure .empty
      | some body =>
        have hwritten := decoder.written_write phase.direction body
        exact (h.report _ (.decoded decoder _)).bind fun _ _ => maintains_pure hwritten

/-- What a structured mapping can do to the set so far, and to whether a fact was written. -/
inductive FactStep (direction : Direction) (target : String) (set : AttributeSet) (wrote : Bool) :
    AttributeSet → Bool → Prop where
  | nothing : FactStep direction target set wrote set wrote
  | fact {value : AttributeValue} (hvalue : BodyFact direction target value) :
      FactStep direction target set wrote (set.put target value) true

/-- What is written once the facts of the body are known. -/
theorem maintains_writeFact {mapping : FieldMapping} {set facts : AttributeSet} {known : BodyFacts}
    {wrote : Bool} (hfacts : Written (BodyFact phase.direction) facts)
    (hknown : known.Sound phase.direction) (hwrote : known.wroteAny = wrote) :
    Maintains inv (match facts.get? mapping.target with
      | some value => pure (set.put mapping.target value, { known with wroteAny := true })
      | none => pure (set, known) : Reading (AttributeSet × BodyFacts)) fun after =>
        after.2.Sound phase.direction ∧
          FactStep phase.direction mapping.target set wrote after.1 after.2.wroteAny := by
  split
  · next value hvalue => exact maintains_pure ⟨hknown, .fact (hfacts.of_get? hvalue)⟩
  · exact maintains_pure ⟨hknown, by rw [hwrote]; exact .nothing⟩

theorem maintains_applyStructured (h : phase.Keeps inv) {mapping : FieldMapping}
    (hmapping : mapping ∈ phase.mappings) (set : AttributeSet) {bodies : BodyFacts}
    (hbodies : bodies.Sound phase.direction) :
    Maintains inv (applyStructured phase mapping set bodies) fun after =>
      after.2.Sound phase.direction ∧ FactStep phase.direction mapping.target set bodies.wroteAny
        after.1 after.2.wroteAny := by
  unfold applyStructured
  dsimp only
  split
  · next facts hlookup => exact maintains_writeFact (hbodies _ _ hlookup) hbodies rfl
  · refine (maintains_decodeAt h hmapping).bind fun facts hfacts => ?_
    have hdecoded : BodyFacts.Sound phase.direction
        { bodies with decoded := bodies.decoded ++ [(mapping.path, facts)] } := by
      intro path known hlookup
      rcases lookup_snoc hlookup with hpast | ⟨-, rfl⟩
      · exact hbodies path known hpast
      · exact hfacts
    exact maintains_writeFact hfacts hdecoded rfl

/-! ### Plain mappings -/

theorem state_writePlain (mapping : FieldMapping) (set : AttributeSet) (value : Option FieldValue)
    (session : Session) :
    ((match value with
      | none => pure set
      | some value => match value.flat? with
        | some text => pure (set.putNonEmpty mapping.target text)
        | none => pure set : Reading AttributeSet).run session).2 = session := by
  split
  · rfl
  · split <;> rfl

/-- A plain mapping does to the session what reading its field does. -/
theorem state_applyPlain (phase : Phase) (mapping : FieldMapping) (set : AttributeSet)
    (session : Session) :
    ((applyPlain phase mapping set).run session).2 =
      ((Session.resolve phase.root mapping.path).run session).2 :=
  state_writePlain mapping set _ _

/-! ### The walk -/

theorem maintains_applyPlain {mapping : FieldMapping} {set : AttributeSet}
    {value : Option FieldValue → Prop} {post : AttributeSet → Prop}
    (hvalue : Maintains inv (Session.resolve phase.root mapping.path) value)
    (hpost : ∀ read, value read →
      post (RpcFacts.putKnown set (mapping.target, read.bind FieldValue.flat?))) :
    Maintains inv (applyPlain phase mapping set) post := by
  unfold applyPlain
  refine hvalue.bind fun read hread => ?_
  have hwritten := hpost read hread
  cases read with
  | none => exact maintains_pure hwritten
  | some read =>
    rw [Option.bind_some] at hwritten
    dsimp only
    cases hflat : read.flat? with
    | some text => exact maintains_pure (by rwa [hflat] at hwritten)
    | none => exact maintains_pure (by rwa [hflat] at hwritten)

/-- An invariant of the walk: it holds before each mapping, of the mappings from there on. -/
structure Phase.Carries (inv : Session → Prop) (genAi : Bool) (phase : Phase)
    (holds : List FieldMapping → AttributeSet → Bool → Prop) : Prop where
  keeps : phase.Keeps inv
  skip : ∀ {mapping rest set wrote}, mapping.isStructured = true →
    holds (mapping :: rest) set wrote → holds rest set wrote
  fact : ∀ {mapping rest set wrote value}, genAi = true → mapping.isStructured = true →
    BodyFact phase.direction mapping.target value → holds (mapping :: rest) set wrote →
    holds rest (set.put mapping.target value) true
  plain : ∀ {mapping rest set wrote}, mapping ∈ phase.mappings → mapping.isStructured = false →
    holds (mapping :: rest) set wrote →
    Maintains inv (applyPlain phase mapping set) fun after => holds rest after wrote

variable {holds : List FieldMapping → AttributeSet → Bool → Prop}

theorem maintains_applyAll (h : phase.Carries inv genAi holds) (mappings : List FieldMapping)
    (hmappings : ∀ mapping ∈ mappings, mapping ∈ phase.mappings) (set : AttributeSet)
    (bodies : BodyFacts) (hbodies : bodies.Sound phase.direction)
    (hholds : holds mappings set bodies.wroteAny) :
    Maintains inv (applyAll genAi phase mappings set bodies) fun after =>
      holds [] after.1 after.2.wroteAny := by
  induction mappings generalizing set bodies with
  | nil => exact maintains_pure hholds
  | cons mapping rest ih =>
    have hmapping := hmappings mapping List.mem_cons_self
    have hlater := ih fun later hlater => hmappings later (List.mem_cons_of_mem _ hlater)
    unfold applyAll
    split
    · next hstructured =>
      split
      · next hgenAi =>
        refine (maintains_applyStructured h.keeps hmapping set hbodies).bind ?_
        rintro ⟨after, known⟩ ⟨hknown, hstep⟩
        refine hlater after known hknown ?_
        generalize known.wroteAny = wrote at hstep
        cases hstep with
        | nothing => exact h.skip hstructured hholds
        | fact hvalue => exact h.fact hgenAi hstructured hvalue hholds
      · exact hlater set bodies hbodies (h.skip hstructured hholds)
    · next hstructured =>
      have hplain := h.plain hmapping (by simpa using hstructured) hholds
      exact hplain.bind fun after hafter => hlater after bodies hbodies hafter

/-- What an invariant of the walk says of the attributes of a phase: it holds of the set without the
name of the system, with no mapping left. -/
theorem maintains_extract (h : phase.Carries inv genAi holds)
    (hfirst : holds phase.mappings .empty false) :
    Maintains inv (extract genAi phase) fun set => ∃ before wrote, holds [] before wrote ∧
      set = if wrote then before.put GenAi.system (.text GenAi.systemValue) else before := by
  have hnone : ({} : BodyFacts).Sound phase.direction := fun _ _ hknown => nomatch hknown
  have hall := maintains_applyAll h phase.mappings (fun _ hmapping => hmapping) .empty {} hnone hfirst
  refine hall.bind ?_
  rintro ⟨before, bodies⟩ hbefore
  exact maintains_pure ⟨before, bodies.wroteAny, hbefore, rfl⟩

end FieldMappings

end CallTracing
