/-
  CallTracing/Proofs/Extract/BodyEncodings.lean
  =============================================
  **A body is read alike as a text and as the bytes of that text.**

  Decoding undoes the encoding of a text, so the two forms of a body have the same text and are the
  same body (`decodeBody_encode`).  Where a payload has its bodies in the other form
  (`Payload.Recoded`), the readings of a phase go on side by side: they leave the same session behind
  and give the same values, but for the body itself, of which only the text is the same
  (`Reading.Parallel`).  That text is all that is taken from it.

  A body of any other shape has no text.  It counts as an absent one, and no fact is written.
-/
import CallTracing.Proofs.Extract.BodySnapshot
import CallTracing.Proofs.Extract.WireContract
import CallTracing.Proofs.Text.Utf8

namespace CallTracing

open AttributeSet Names Reading

/-! ### Bodies -/

theorem decodeBody_encode (text : String) :
    decodeBody (.bytes (Text.Utf8.encode text)) = decodeBody (.text text) :=
  decodeBody_congr (congrArg some (Text.Utf8.decodeLossy_encode text))

/-- Whether a value can hold a body. -/
def FieldValue.HoldsText (value : FieldValue) : Prop :=
  (∃ text, value = .text text) ∨ ∃ content, value = .bytes content

theorem FieldValue.decodeText?_eq_none {value : FieldValue} (h : ¬value.HoldsText) :
    value.decodeText? = none := by
  cases value with
  | text s => exact absurd (Or.inl ⟨s, rfl⟩) h
  | bytes content => exact absurd (Or.inr ⟨content, rfl⟩) h
  | _ => rfl

/-- An answer with the bytes of a text for the text, or the same answer. -/
inductive Answer.Recoded : Answer → Answer → Prop where
  | same (answer : Answer) : Recoded answer answer
  | bytes (text : String) :
      Recoded (.value (.text text)) (.value (.bytes (Text.Utf8.encode text)))

theorem Answer.given?_eq_some_iff {answer : Answer} {value : FieldValue} :
    answer.given? = some value ↔ answer = .value value := by
  cases answer <;> simp [Answer.given?]

/-- The same payload, with bytes for some of its bodies. -/
inductive Payload.Recoded (payload : Payload) : Payload → Prop where
  | mk {answer : String → Nat → Answer} (marshalled : Option Json)
      (hbody : ∀ accessor ∈ candidates "body", ∀ n,
        (payload.answer accessor n).Recoded (answer accessor n))
      (hother : ∀ accessor, accessor ∉ candidates "body" →
        answer accessor = payload.answer accessor) :
      Recoded payload { payload with answer := answer, marshalled := marshalled }

theorem Payload.Recoded.refl (payload : Payload) : payload.Recoded payload := by
  cases payload with
  | mk identity typeName profileKey probe answer marshalled =>
    exact .mk marshalled (fun _ _ _ => .same _) fun _ _ => rfl

theorem Payload.Recoded.typeName_eq {p q : Payload} (h : p.Recoded q) :
    q.typeName = p.typeName := by
  cases h with
  | mk marshalled hbody hother => rfl

/-- The same outcome, perhaps with bytes for the body of its response. -/
inductive Outcome.Recoded : Outcome → Outcome → Prop where
  | same (outcome : Outcome) : Recoded outcome outcome
  | body {response : Response} {root root' : Payload} (failure : Option CallFailure)
      (hroot : response.payload = some root) (hbody : root.Recoded root') :
      Recoded ⟨some response, failure⟩ ⟨some { response with payload := some root' }, failure⟩

theorem Outcome.Recoded.payloads {outcome other : Outcome} (h : outcome.Recoded other) :
    (outcome.response.bind (·.payload) = none ∧ other.response.bind (·.payload) = none) ∨
      ∃ root root', outcome.response.bind (·.payload) = some root ∧
        other.response.bind (·.payload) = some root' ∧ root.Recoded root' := by
  cases h with
  | same =>
    cases hroot : outcome.response.bind (·.payload) with
    | none => exact Or.inl ⟨rfl, rfl⟩
    | some root => exact Or.inr ⟨root, root, rfl, rfl, .refl root⟩
  | body failure hroot hbody => exact Or.inr ⟨_, _, hroot, rfl, hbody⟩

/-! ### Readings side by side -/

namespace Reading

variable {α β α' β' : Type} {inv : Session → Prop} {rel : α → β → Prop} {rel' : α' → β' → Prop}
  {m : Reading α} {n : Reading β}

/-- Two readings that leave the same session behind, and give values that are related. -/
def Parallel (inv : Session → Prop) (rel : α → β → Prop) (m : Reading α) (n : Reading β) : Prop :=
  ∀ session, inv session → inv (m.run session).2 ∧
    (n.run session).2 = (m.run session).2 ∧ rel (m.run session).1 (n.run session).1

theorem parallel_pure {a : α} {b : β} (h : rel a b) : Parallel inv rel (pure a) (pure b) :=
  fun _ hsession => ⟨hsession, rfl, h⟩

theorem Maintains.parallel {post : α → Prop} (h : Maintains inv m post) :
    Parallel inv (fun a b => a = b ∧ post a) m m :=
  fun session hsession => ⟨(h session hsession).1, rfl, rfl, (h session hsession).2⟩

theorem Maintains.parallel_eq {post : α → Prop} (h : Maintains inv m post) :
    Parallel inv Eq m m :=
  fun session hsession => ⟨(h session hsession).1, rfl, rfl⟩

theorem Parallel.bind {next : α → Reading α'} {next' : β → Reading β'}
    (h : Parallel inv rel m n) (hnext : ∀ a b, rel a b → Parallel inv rel' (next a) (next' b)) :
    Parallel inv rel' (m >>= next) (n >>= next') := by
  intro session hsession
  obtain ⟨hkept, hsame, hrel⟩ := h session hsession
  have hrun : (n >>= next').run session =
      (next' (n.run session).1).run (m.run session).2 := by
    rw [← hsame]
    rfl
  rw [hrun]
  exact hnext _ _ hrel _ hkept

/-- What two readings do that give the same. -/
theorem Parallel.run_eq {m n : Reading α} (h : Parallel inv Eq m n) {session : Session}
    (hsession : inv session) : n.run session = m.run session := by
  obtain ⟨-, hstate, hvalue⟩ := h session hsession
  exact Prod.ext hvalue.symm hstate

end Reading

/-! ### Fields -/

/-- Sessions whose profiles were all discovered. -/
def Session.Discovered (session : Session) : Prop := session.cache.Discovered

/-- Whether the next answer of a payload to the question for its body is no body. -/
def Session.WithoutBody (session : Session) (payload : Payload) : Prop :=
  ∀ accessor ∈ candidates "body", ∀ value,
    payload.answer accessor (session.invocationCount payload accessor) = .value value →
      ¬value.HoldsText

/-- Two values, or none, with the same text. -/
def SameText (value other : Option FieldValue) : Prop :=
  value.map FieldValue.decodeText? = other.map FieldValue.decodeText?

section

variable {p q : Payload} {name accessor : String}

theorem Session.maintains_accessor_discovered (p : Payload)
    (hname : (canonicalFields.lookup name).isSome) :
    Maintains Session.Discovered (Session.accessor? p name) fun found =>
      ∀ accessor, found = some accessor → accessor ∈ candidates name := by
  intro session hsession
  obtain ⟨-, hafter⟩ := Session.run_accessor? session p name
  rw [hsession.accessor? p hname] at hafter
  refine ⟨?_, fun accessor hfound => ?_⟩
  · unfold Session.Discovered
    rw [hafter]
    exact hsession.profile p
  · rw [Session.value_accessor? hsession hname] at hfound
    exact hsession.mem_candidates hname hfound

theorem maintains_report_discovered (event : Event) :
    Maintains Session.Discovered (Session.report event) fun _ => True :=
  fun _ hsession => ⟨hsession, trivial⟩

theorem Session.maintains_invoke_discovered (p : Payload) (accessor : String) :
    Maintains Session.Discovered (Session.invoke p accessor) fun _ => True := by
  intro session hsession
  refine ⟨?_, trivial⟩
  unfold Session.Discovered
  rw [Session.cache_invoke]
  exact hsession

theorem Payload.Recoded.accessor?_eq (h : p.Recoded q) (name : String) :
    Session.accessor? q name = Session.accessor? p name := by
  cases h with
  | mk marshalled hbody hother => rfl

theorem Payload.Recoded.invoke_eq (h : p.Recoded q) (haccessor : accessor ∉ candidates "body") :
    Session.invoke q accessor = Session.invoke p accessor := by
  cases h with
  | mk marshalled hbody hother =>
    unfold Session.invoke
    dsimp only
    rw [hother accessor haccessor]
    rfl

/-- An accessor of a body gives the same text, and fails in the same way. -/
theorem Payload.Recoded.parallel_invoke (h : p.Recoded q)
    (haccessor : accessor ∈ candidates "body") :
    Parallel Session.Discovered SameText (Session.invoke p accessor)
      (Session.invoke q accessor) := by
  cases h with
  | @mk answer marshalled hbody hother =>
    intro session hsession
    have hrecoded := hbody accessor haccessor (session.invocationCount p accessor)
    have hcount : session.invocationCount
        { p with answer := answer, marshalled := marshalled } accessor =
          session.invocationCount p accessor := rfl
    have hcounted : (Session.countInvocation
        { p with answer := answer, marshalled := marshalled } accessor) =
          Session.countInvocation p accessor := rfl
    refine ⟨(Session.maintains_invoke_discovered p accessor session hsession).1, ?_⟩
    rw [Session.run_invoke, Session.run_invoke, hcount, hcounted]
    dsimp only
    generalize p.answer accessor (session.invocationCount p accessor) = given at hrecoded
    generalize answer accessor (session.invocationCount p accessor) = other at hrecoded
    cases hrecoded with
    | same given => cases given <;> exact ⟨rfl, rfl⟩
    | bytes text =>
      refine ⟨rfl, congrArg some ?_⟩
      exact (congrArg some (Text.Utf8.decodeLossy_encode text)).symm

/-- A field that is no body has the same value. -/
theorem Payload.Recoded.parallel_read (h : p.Recoded q)
    (hname : (canonicalFields.lookup name).isSome)
    (hother : ∀ accessor ∈ candidates name, accessor ∉ candidates "body") :
    Parallel Session.Discovered Eq (Session.read p name) (Session.read q name) := by
  unfold Session.read
  rw [h.accessor?_eq]
  have hfound := Session.maintains_accessor_discovered p hname
  refine hfound.parallel.bind ?_
  rintro found _ ⟨rfl, hmem⟩
  cases found with
  | none => exact parallel_pure rfl
  | some accessor =>
    dsimp only
    rw [h.invoke_eq (hother accessor (hmem accessor rfl))]
    exact (Session.maintains_invoke_discovered p accessor).parallel_eq

theorem Payload.Recoded.parallel_readBody (h : p.Recoded q) :
    Parallel Session.Discovered SameText (Session.read p "body") (Session.read q "body") := by
  unfold Session.read
  rw [h.accessor?_eq]
  have hfound := Session.maintains_accessor_discovered p FieldMappings.isSome_body
  refine hfound.parallel.bind ?_
  rintro found _ ⟨rfl, hmem⟩
  cases found with
  | none => exact parallel_pure rfl
  | some accessor => exact h.parallel_invoke (hmem accessor rfl)

end

/-! ### Phases -/

namespace FieldMappings

/-- The same phase, with bodies in bytes. -/
structure Phase.Recoded (phase other : Phase) : Prop where
  request : phase.request.payload.Recoded other.request.payload
  root : phase.root.Recoded other.root
  classification : other.classification = phase.classification
  direction : other.direction = phase.direction

/-- Plain attributes come from other fields than structured ones. -/
theorem fields_apart : ∀ mapping ∈ mappingTable,
    if mapping.isStructured then mapping.path = ["body"]
    else ∀ field ∈ mapping.path, ∀ accessor ∈ candidates field,
      accessor ∉ candidates "body" := by decide

variable {phase other : Phase} {mapping : FieldMapping}

theorem Phase.Recoded.parallel_selectDecoder (h : phase.Recoded other) :
    Parallel Session.Discovered Eq (selectDecoder phase) (selectDecoder other) := by
  unfold selectDecoder
  rw [h.classification]
  cases phase.classification.body? with
  | none => exact parallel_pure rfl
  | some kind =>
    have hread := h.request.parallel_read isSome_modelId (by decide)
    refine hread.bind ?_
    rintro modelId _ rfl
    exact parallel_pure rfl

theorem parallel_parseBody {raw raw' : FieldValue} (h : raw.decodeText? = raw'.decodeText?) :
    Parallel Session.Discovered Eq (Session.parseBody raw) (Session.parseBody raw') := by
  unfold Session.parseBody
  rw [decodeBody_congr h]
  cases decodeBody raw' with
  | ok body => exact parallel_pure rfl
  | error fault =>
    refine (maintains_report_discovered _).parallel_eq.bind ?_
    rintro _ _ rfl
    exact parallel_pure rfl

theorem Phase.Recoded.parallel_decodeAt (h : phase.Recoded other) :
    Parallel Session.Discovered Eq (decodeAt phase ["body"]) (decodeAt other ["body"]) := by
  unfold decodeAt
  refine h.parallel_selectDecoder.bind ?_
  rintro decoder _ rfl
  cases decoder with
  | none => exact parallel_pure rfl
  | some decoder =>
    dsimp only
    rw [Session.resolve_singleton, Session.resolve_singleton, h.direction]
    refine h.root.parallel_readBody.bind fun raw raw' hraw => ?_
    cases raw with
    | none =>
      cases raw' with
      | none => exact parallel_pure rfl
      | some raw' => cases hraw
    | some raw =>
      cases raw' with
      | none => cases hraw
      | some raw' =>
        refine (parallel_parseBody (Option.some.inj hraw)).bind ?_
        rintro body _ rfl
        cases body with
        | none => exact parallel_pure rfl
        | some body =>
          refine (maintains_report_discovered _).parallel_eq.bind ?_
          rintro _ _ rfl
          exact parallel_pure rfl

theorem Phase.Recoded.parallel_applyStructured (h : phase.Recoded other)
    (hpath : mapping.path = ["body"]) (set : AttributeSet) (bodies : BodyFacts) :
    Parallel Session.Discovered Eq (applyStructured phase mapping set bodies)
      (applyStructured other mapping set bodies) := by
  unfold applyStructured
  dsimp only
  cases bodies.decoded.lookup mapping.path with
  | some facts =>
    dsimp only
    rw [pure_bind]
    cases facts.get? mapping.target with
    | some value => exact parallel_pure rfl
    | none => exact parallel_pure rfl
  | none =>
    rw [hpath]
    refine h.parallel_decodeAt.bind ?_
    rintro facts _ rfl
    rw [pure_bind]
    dsimp only
    cases facts.get? mapping.target with
    | some value => exact parallel_pure rfl
    | none => exact parallel_pure rfl

theorem Phase.Recoded.parallel_applyPlain (h : phase.Recoded other)
    (hmapping : mapping ∈ mappingTable) (hplain : mapping.isStructured = false)
    (set : AttributeSet) :
    Parallel Session.Discovered Eq (applyPlain phase mapping set)
      (applyPlain other mapping set) := by
  obtain ⟨field, hpath, hfield⟩ := path_of_mem hmapping
  have hapart := fields_apart mapping hmapping
  rw [if_neg (by simp [hplain]), hpath] at hapart
  unfold applyPlain
  rw [hpath, Session.resolve_singleton, Session.resolve_singleton]
  refine (h.root.parallel_read hfield (hapart field (List.mem_singleton_self field))).bind ?_
  rintro value _ rfl
  cases value with
  | none => exact parallel_pure rfl
  | some value =>
    dsimp only
    cases value.flat? with
    | some text => exact parallel_pure rfl
    | none => exact parallel_pure rfl

theorem Phase.Recoded.parallel_applyAll (h : phase.Recoded other) (genAi : Bool)
    (mappings : List FieldMapping) (hmappings : ∀ mapping ∈ mappings, mapping ∈ mappingTable)
    (set : AttributeSet) (bodies : BodyFacts) :
    Parallel Session.Discovered Eq (applyAll genAi phase mappings set bodies)
      (applyAll genAi other mappings set bodies) := by
  induction mappings generalizing set bodies with
  | nil => exact parallel_pure rfl
  | cons mapping rest ih =>
    have hmapping := hmappings mapping List.mem_cons_self
    have hlater := ih fun later hlater => hmappings later (List.mem_cons_of_mem _ hlater)
    unfold applyAll
    cases hstructured : mapping.isStructured with
    | true =>
      have hpath := fields_apart mapping hmapping
      rw [if_pos hstructured] at hpath
      cases genAi with
      | true =>
        refine (h.parallel_applyStructured hpath set bodies).bind ?_
        rintro ⟨after, known⟩ _ rfl
        exact hlater after known
      | false => exact hlater set bodies
    | false =>
      refine (h.parallel_applyPlain hmapping hstructured set).bind ?_
      rintro after _ rfl
      exact hlater after bodies

/-- The form of a body makes no difference to a phase. -/
theorem Phase.Recoded.run_extract (h : phase.Recoded other) (htable : phase.Tabled) (genAi : Bool)
    {session : Session} (hsession : session.Discovered) :
    (extract genAi other).run session = (extract genAi phase).run session := by
  have hmappings : other.mappings = phase.mappings := by
    unfold Phase.mappings
    rw [h.classification, h.direction]
  have hwalk := h.parallel_applyAll genAi phase.mappings (fun mapping hmapping =>
    (htable mapping hmapping).1) .empty {}
  have hextract : Parallel Session.Discovered Eq (extract genAi phase) (extract genAi other) := by
    unfold extract
    rw [hmappings]
    refine hwalk.bind ?_
    rintro ⟨set, bodies⟩ _ rfl
    exact parallel_pure rfl
  exact hextract.run_eq hsession

/-! ### Calls -/

theorem recoded_startPhase (request : Request) {payload : Payload}
    (h : request.payload.Recoded payload) :
    (startPhase request).Recoded (startPhase { request with payload := payload }) := by
  refine ⟨h, h, ?_, rfl⟩
  unfold startPhase
  dsimp only
  rw [h.typeName_eq]

theorem recoded_endPhase (request : Request) {payload root root' : Payload}
    (h : request.payload.Recoded payload) (hroot : root.Recoded root') :
    (endPhase request root).Recoded (endPhase { request with payload := payload } root') := by
  refine ⟨h, hroot, ?_, rfl⟩
  unfold endPhase
  dsimp only
  rw [h.typeName_eq, hroot.typeName_eq]

variable {request : Request} {payload : Payload} {session : Session} {genAi : Bool}

theorem run_onStart_recoded (h : request.payload.Recoded payload) (hsession : session.Discovered) :
    ((extractor genAi).onStart { request with payload := payload }).run session =
      ((extractor genAi).onStart request).run session := by
  have hextract : (startAttributes genAi { request with payload := payload }).run session =
      (startAttributes genAi request).run session :=
    (recoded_startPhase request h).run_extract (tabled_startPhase request) genAi hsession
  have hstart : ∀ request : Request, ((extractor genAi).onStart request).run session =
      ({ attributes := ((startAttributes genAi request).run session).1 },
        ((startAttributes genAi request).run session).2) := fun _ => rfl
  rw [hstart, hstart, hextract]

theorem run_onEnd_recoded {outcome other : Outcome} (h : request.payload.Recoded payload)
    (hother : outcome.Recoded other) (hsession : session.Discovered) :
    ((extractor genAi).onEnd { request with payload := payload } other).run session =
      ((extractor genAi).onEnd request outcome).run session := by
  have hextract : (endAttributes genAi { request with payload := payload } other).run session =
      (endAttributes genAi request outcome).run session := by
    rcases hother.payloads with ⟨hnone, hnone'⟩ | ⟨root, root', hroot, hroot', hbody⟩
    · rw [endAttributes_of_none _ _ hnone, endAttributes_of_none _ _ hnone']
    · rw [endAttributes_of_some _ _ hroot, endAttributes_of_some _ _ hroot']
      exact (recoded_endPhase request h hbody).run_extract (tabled_endPhase request root) genAi
        hsession
  have hend : ∀ (request : Request) (outcome : Outcome),
      ((extractor genAi).onEnd request outcome).run session =
        ({ attributes := ((endAttributes genAi request outcome).run session).1 },
          ((endAttributes genAi request outcome).run session).2) := fun _ _ => rfl
  rw [hend, hend, hextract]

/-! ### Bodies of another shape -/

theorem bodyFacts_eq_empty {root : Payload} (hsession : session.Discovered)
    (h : session.WithoutBody root) (direction : Direction) (modelId : Option FieldValue)
    (other : Payload) :
    bodyFacts direction modelId ((session.knowing other).answerAfter root "body" 0) = .empty := by
  have hfaults : ∀ value, (session.knowing other).answerAfter root "body" 0 = some value →
      ¬value.HoldsText := by
    intro value hvalue
    obtain ⟨accessor, hfound, hgiven⟩ := Option.bind_eq_some_iff.mp hvalue
    have hmem := (hsession.profile other).mem_candidates isSome_body hfound
    exact h accessor hmem value (Answer.given?_eq_some_iff.mp hgiven)
  cases hraw : (session.knowing other).answerAfter root "body" 0 with
  | none => rfl
  | some raw =>
    show rawFacts direction modelId raw = .empty
    unfold rawFacts decodeBody
    rw [FieldValue.decodeText?_eq_none (hfaults raw hraw)]

/-- Without the switch, no fact of a body is written. -/
theorem maintains_extract_off (phase : Phase) :
    Maintains (fun _ => True) (extract false phase) fun set =>
      ∀ name, GenAi.isStructured name = true → set.get? name = none := by
  have hcarries : phase.Carries (fun _ => True) false fun _ set wrote =>
      wrote = false ∧ ∀ name, GenAi.isStructured name = true → set.get? name = none :=
    { keeps := phase.keeps_trivial
      skip := fun _ hholds => hholds
      fact := fun hgenAi _ _ _ => nomatch hgenAi
      plain := by
        rintro mapping rest set wrote - hplain ⟨hwrote, hnone⟩
        refine maintains_applyPlain (maintains_trivial _) fun value _ => ⟨hwrote, ?_⟩
        intro name hname
        rw [RpcFacts.get?_putKnown, if_neg (ne_of_isStructured hname hplain).symm]
        exact hnone name hname }
  refine (maintains_extract hcarries ⟨rfl, fun _ _ => rfl⟩).imp ?_
  rintro _ ⟨before, wrote, ⟨rfl, hnone⟩, rfl⟩
  exact hnone

theorem unwritten_onStart (genAi : Bool)
    (htype : request.payload.typeName = "InvokeModelRequest") (hsession : session.Discovered)
    (h : session.WithoutBody request.payload) {name : String}
    (hname : GenAi.isStructured name = true) :
    (((extractor genAi).onStart request).run session).1.attributes.get? name = none := by
  show ((extract genAi (startPhase request)).run session).1.get? name = none
  cases genAi with
  | true =>
    have hshows := (oneSnapshot_startPhase htype hsession).shows
    rw [bodyFacts_eq_empty hsession h] at hshows
    exact hshows.structured name hname
  | false => exact (maintains_extract_off _ session trivial).2 name hname

theorem unwritten_onEnd (genAi : Bool)
    (htype : request.payload.typeName = "InvokeModelRequest") (hsession : session.Discovered)
    {outcome : Outcome}
    (h : ∀ root, outcome.response.bind (·.payload) = some root → session.WithoutBody root)
    {name : String} (hname : GenAi.isStructured name = true) :
    (((extractor genAi).onEnd request outcome).run session).1.attributes.get? name = none := by
  show ((endAttributes genAi request outcome).run session).1.get? name = none
  cases hroot : outcome.response.bind (·.payload) with
  | none =>
    rw [endAttributes_of_none genAi request hroot]
    rfl
  | some root =>
    rw [endAttributes_of_some genAi request hroot]
    cases genAi with
    | true =>
      have hshows := (oneSnapshot_endPhase htype hsession root).shows
      rw [bodyFacts_eq_empty hsession (h root hroot)] at hshows
      exact hshows.structured name hname
    | false => exact (maintains_extract_off _ session trivial).2 name hname

/-- **Text or bytes, a body is the same body.**  It decodes to the same value or with the same fault,
which is always one of decoding; and with one form in the place of the other, in the request or in the
response, both phases of a call do the same.  A value of another shape is no body, and nothing is
written out of it. -/
theorem encodings_alike :
    (∀ text, decodeBody (.bytes (Text.Utf8.encode text)) = decodeBody (.text text)) ∧
    (∀ raw fault, decodeBody raw = .error fault → fault.toTraceError.kind = .decode) ∧
    (∀ genAi (request : Request) (payload : Payload) (outcome other : Outcome)
        (session : Session), session.Discovered → request.payload.Recoded payload →
      outcome.Recoded other →
      ((extractor genAi).onStart { request with payload := payload }).run session =
          ((extractor genAi).onStart request).run session ∧
        ((extractor genAi).onEnd { request with payload := payload } other).run session =
          ((extractor genAi).onEnd request outcome).run session) ∧
    (∀ genAi (request : Request) (outcome : Outcome) (session : Session) (name : String),
      request.payload.typeName = "InvokeModelRequest" → session.Discovered →
      GenAi.isStructured name = true →
      (session.WithoutBody request.payload →
        (((extractor genAi).onStart request).run session).1.attributes.get? name = none) ∧
      ((∀ root, outcome.response.bind (·.payload) = some root → session.WithoutBody root) →
        (((extractor genAi).onEnd request outcome).run session).1.attributes.get? name =
          none)) := by
  refine ⟨decodeBody_encode, ?_, ?_, ?_⟩
  · intro raw fault _
    cases fault <;> rfl
  · intro genAi request payload outcome other session hsession hpayload hother
    exact ⟨run_onStart_recoded hpayload hsession, run_onEnd_recoded hpayload hother hsession⟩
  · intro genAi request outcome session name htype hsession hname
    exact ⟨fun h => unwritten_onStart genAi htype hsession h hname,
      fun h => unwritten_onEnd genAi htype hsession h hname⟩

/-- A body with characters of one to four bytes. -/
def accentedBody : String := "\x7b\"max_tokens\":7,\"stop\":\"né€😀\"\x7d"

/-- The payload of an invocation with some value as its body. -/
def payloadWith (body : FieldValue) : Payload where
  identity := 0
  typeName := "InvokeModelRequest"
  profileKey := "InvokeModelRequest"
  probe := fun name => if name = "getBody" ∨ name = "getModelId" then .present else .absent
  answer := fun name _ =>
    if name = "getBody" then .value body else .value (.text "anthropic.claude-v2")
  marshalled := none

/-- An invocation with some value as its body. -/
def invocationWith (body : FieldValue) : Request where
  service := "BedrockRuntime"
  operation := some "InvokeModel"
  payload := payloadWith body

theorem recoded_payloadWith (text : String) :
    (payloadWith (.text text)).Recoded (payloadWith (.bytes (Text.Utf8.encode text))) := by
  refine .mk none ?_ ?_
  · intro accessor haccessor n
    have hname : accessor = "getBody" := List.mem_singleton.mp haccessor
    subst hname
    exact .bytes text
  · intro accessor haccessor
    have hname : accessor ≠ "getBody" := fun heq => haccessor (List.mem_singleton.mpr heq)
    funext n
    exact (if_neg hname).trans (if_neg hname).symm

theorem accentedBody_alike :
    Session.Discovered {} ∧
    (payloadWith (.text accentedBody)).Recoded
      (payloadWith (.bytes (Text.Utf8.encode accentedBody))) ∧
    (((extractor true).onStart
      (invocationWith (.bytes (Text.Utf8.encode accentedBody)))).run {}).1.attributes.get?
        GenAi.requestMaxTokens = some (.text "7") ∧
    Session.WithoutBody {} (payloadWith (.int 7)) ∧
    (((extractor true).onStart (invocationWith (.int 7))).run {}).1.attributes.get?
      GenAi.requestMaxTokens = none := by
  have hdiscovered : Session.Discovered {} := AccessorCache.discovered_empty
  have hrecoded := recoded_payloadWith accentedBody
  have hwithout : Session.WithoutBody {} (payloadWith (.int 7)) := by
    intro accessor haccessor value hvalue
    have hname : accessor = "getBody" := List.mem_singleton.mp haccessor
    subst hname
    obtain rfl : FieldValue.int 7 = value := Answer.value.inj hvalue
    rintro (⟨text, heq⟩ | ⟨content, heq⟩) <;> cases heq
  obtain ⟨-, -, hsame, hnone⟩ := encodings_alike
  have hstart : ((extractor true).onStart
      (invocationWith (.bytes (Text.Utf8.encode accentedBody)))).run {} =
        ((extractor true).onStart (invocationWith (.text accentedBody))).run {} :=
    (hsame true (invocationWith (.text accentedBody)) _ {} {} {} hdiscovered hrecoded
      (.same {})).1
  have hother := (hnone true (invocationWith (.int 7)) {} {} GenAi.requestMaxTokens rfl hdiscovered
    (by decide)).1 hwithout
  refine ⟨hdiscovered, hrecoded, ?_, hwithout, hother⟩
  rw [hstart]
  decide +kernel

end FieldMappings

end CallTracing
