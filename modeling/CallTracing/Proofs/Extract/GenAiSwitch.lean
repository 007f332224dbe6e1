/-
  CallTracing/Proofs/Extract/GenAiSwitch.lean
  ===========================================
  **Switching off model invocations removes their attributes and nothing else.**

  The attributes concerned are the structured ones and the name of the system (`isDecoded`).  One set
  is what is left of another without them (`Trims`) if it has all the other attributes with the same
  values, and none of these.

  The two runs are not compared step by step, since the one that decodes bodies reads more.  Each is
  compared to what the mappings alone determine: the plain attributes are read off what the cache
  shows of the payload (`Mapped`), and the caches of both runs show the same.  Before the call both
  runs even leave the same cache behind (`cache_startAttributes`): what decoding a body reads there
  has been read before, by the mapping for the name of the model.
-/
import CallTracing.Proofs.Extract.LastWrite
import CallTracing.Proofs.Extract.WireContract

namespace CallTracing

open AttributeSet Names Reading

/-! ### What is left of a set -/

/-- Whether an attribute is read out of a body or a token-count header, or written along with one
that is. -/
def isDecoded (name : String) : Bool := GenAi.isStructured name || name == GenAi.system

/-- Whether a set is what is left of another without the decoded attributes. -/
def Trimmed (off on : AttributeSet) : Prop :=
  ∀ name, off.get? name = if isDecoded name then none else on.get? name

/-- A part of a chain's attributes that is trimmed, as it can be merged into others. -/
structure Trims (off on : AttributeSet) : Prop where
  get : Trimmed off on
  nodup_off : (off.entries.map (·.1)).Nodup
  nodup_on : (on.entries.map (·.1)).Nodup

variable {off on off' on' set : AttributeSet}

theorem Trims.empty : Trims .empty .empty where
  get := fun name => by rw [get?_empty]; split <;> rfl
  nodup_off := List.nodup_nil
  nodup_on := List.nodup_nil

/-- A set without decoded attributes stays as it is. -/
theorem Trims.of_written (h : Written (fun name _ => isDecoded name = false) set) :
    Trims set set where
  get := by
    intro name
    split
    · next hname =>
      cases hget : set.get? name with
      | none => rfl
      | some value => rw [h.of_get? hget] at hname; cases hname
    · rfl
  nodup_off := h.nodup
  nodup_on := h.nodup

theorem Trims.put (h : Trims off on) {target : String} (htarget : isDecoded target = true)
    (value : AttributeValue) : Trims off (on.put target value) where
  get := by
    intro name
    rw [h.get name, get?_put]
    split
    · rfl
    · next hname =>
      have hne : target ≠ name := by
        rintro rfl
        exact hname htarget
      rw [if_neg hne]
  nodup_off := h.nodup_off
  nodup_on := put_nodup h.nodup_on target value

theorem Trimmed.extend (h : Trimmed off on) (hother : Trims off' on') :
    Trimmed (off.extend off') (on.extend on') := by
  intro name
  rw [get?_extend _ hother.nodup_off, get?_extend _ hother.nodup_on, hother.get name, h name]
  split <;> rfl

theorem isDecoded_of_isStructured {name : String} (h : GenAi.isStructured name = true) :
    isDecoded name = true := by
  rw [isDecoded, h, Bool.true_or]

/-- The mapped attributes of one phase, with and without bodies. -/
theorem Trims.of_mapped {texts : String → Option String} (hoff : FieldMappings.Mapped false texts off)
    (hon : FieldMappings.Mapped true texts on) (hnodup : (off.entries.map (·.1)).Nodup)
    (hnodup' : (on.entries.map (·.1)).Nodup) : Trims off on where
  get := by
    intro name
    by_cases hsystem : name = GenAi.system
    · subst hsystem
      rw [if_pos (by decide)]
      cases hget : off.get? GenAi.system with
      | none => rfl
      | some value =>
        obtain ⟨-, other, hother, hsome⟩ := (hoff.system value).mp hget
        rw [hoff.bodies rfl other hother] at hsome
        cases hsome
    · cases hname : GenAi.isStructured name with
      | true =>
        rw [if_pos (isDecoded_of_isStructured hname)]
        exact hoff.bodies rfl name hname
      | false =>
        have hplain : ¬isDecoded name = true := by simp [isDecoded, hname, hsystem]
        rw [if_neg hplain, hoff.plain name hname hsystem, hon.plain name hname hsystem]
  nodup_off := hnodup
  nodup_on := hnodup'

/-! ### The envelope -/

theorem not_isDecoded_of_mem {direction : Direction} {name : String}
    (h : name ∈ envelopeNames direction) : isDecoded name = false := by
  have htable : ∀ direction, ∀ name ∈ envelopeNames direction, isDecoded name = false := by
    intro direction
    cases direction <;> decide
  exact htable direction name h

theorem RpcFacts.trims_startAttributes (request : Request) :
    Trims (startAttributes request) (startAttributes request) :=
  .of_written (written_startAttributes request fun _ hname _ _ => not_isDecoded_of_mem hname)

theorem RpcFacts.trims_endAttributes (outcome : Outcome) :
    Trims (endAttributes outcome) (endAttributes outcome) := by
  have hnames : ∀ name ∈ [errorType, exceptionMessage], isDecoded name = false := by decide
  exact .of_written (written_endAttributes outcome (fun _ => by decide) fun name hname _ _ =>
    hnames name hname)

namespace SdkFacts

theorem trims_startAttributes (request : Request) :
    Trims (startAttributes request) (startAttributes request) :=
  .of_written (written_startAttributes request fun _ hname _ _ => not_isDecoded_of_mem hname)

/-- Token counts are all that is lost, and the cache is not looked at. -/
theorem trims_endAttributes (request : Request) (outcome : Outcome) (session session' : Session) :
    Trims ((endAttributes false request outcome).run session).1
      ((endAttributes true request outcome).run session').1 := by
  let base := RpcFacts.putKnown .empty (requestId, outcome.response.bind (·.requestId))
  have hbase : Trims base base := by
    have hname : isDecoded requestId = false := by decide
    exact .of_written (Written.empty.putKnown fun _ _ => hname)
  have hoff : Maintains (fun _ => True) (endAttributes false request outcome) (· = base) := by
    refine maintains_endAttributes (fun _ _ _ _ => maintains_trivial _) rfl ?_
    intro hasked
    cases hasked
  have hon : Maintains (fun _ => True) (endAttributes true request outcome) (Trims base) := by
    refine maintains_endAttributes (fun _ _ _ _ => maintains_trivial _) hbase ?_
    rintro - set target count (rfl | rfl) - hset
    · exact hset.put (by decide) _
    · exact hset.put (by decide) _
  rw [(hoff session trivial).2]
  exact (hon session' trivial).2

theorem cache_endAttributes (tokenHeaders : Bool) (request : Request) (outcome : Outcome)
    (session : Session) :
    ((endAttributes tokenHeaders request outcome).run session).2.cache = session.cache := by
  have hkept : Maintains (fun after => after.cache = session.cache)
      (endAttributes tokenHeaders request outcome) fun _ => True := by
    refine maintains_endAttributes ?_ trivial fun _ _ _ _ _ _ _ => trivial
    exact fun _ _ _ _ _ hcache => ⟨hcache, trivial⟩
  exact (hkept session rfl).1

end SdkFacts

/-! ### Mapped fields -/

namespace FieldMappings

theorem typeProfile?_cases (requestType : String) :
    typeProfile? requestType = none ∨ typeProfile? requestType = some invokeModelProfile := by
  cases h : typeProfile? requestType with
  | none => exact Or.inl rfl
  | some profile =>
    rw [List.mem_singleton.mp (List.mem_of_find?_eq_some h)]
    exact Or.inr rfl

/-- The first field that is read before a call is a plain one. -/
theorem isStructured_first {request : Request} {mapping : FieldMapping} {rest : List FieldMapping}
    (h : (startPhase request).mappings = mapping :: rest) : mapping.isStructured = false := by
  have hmappings : (startPhase request).mappings =
      ((typeProfile? request.payload.typeName).toList ++
        ((classify request.service (some request.payload.typeName) .request).bind
          Category.profile?).toList).flatMap fun profile => profile.mappingsFor .request := rfl
  rw [hmappings] at h
  rcases typeProfile?_cases request.payload.typeName with hnone | hmodel
  · rw [hnone, Option.toList_none, List.nil_append] at h
    have hmem := h ▸ (List.mem_cons_self : mapping ∈ mapping :: rest)
    obtain ⟨profile, hprofile, hmapping⟩ := List.mem_flatMap.mp hmem
    obtain ⟨⟨category, hcategory⟩, -⟩ := Category.of_mem_profile hprofile
    have hplain : ∀ category ∈ Category.all, ∀ mapping ∈ Category.mappings category,
        mapping.isStructured = false := by decide
    refine hplain category category.mem_all mapping ?_
    rw [← hcategory]
    exact (List.mem_filter.mp hmapping).1
  · rw [hmodel] at h
    obtain ⟨rfl, -⟩ := List.cons.inj h
    rfl

/-- Where bodies are decoded after a call, the payload of the request was read before it. -/
theorem mappings_ne_nil_of_body {request : Request} {root : Payload}
    (h : (endPhase request root).classification.body? ≠ none) :
    (startPhase request).mappings ≠ [] := by
  have hmappings : (startPhase request).mappings =
      ((typeProfile? request.payload.typeName).toList ++
        ((classify request.service (some request.payload.typeName) .request).bind
          Category.profile?).toList).flatMap fun profile => profile.mappingsFor .request := rfl
  have hbody : (endPhase request root).classification.body? =
      ((typeProfile? request.payload.typeName).toList ++
        ((classify request.service (some root.typeName) .response).bind
          Category.profile?).toList).findSome? fun profile => profile.body := rfl
  rcases typeProfile?_cases request.payload.typeName with hnone | hmodel
  · refine absurd ?_ h
    rw [hbody, hnone, Option.toList_none, List.nil_append, List.findSome?_eq_none_iff]
    intro profile hprofile
    exact (Category.of_mem_profile hprofile).2
  · rw [hmappings, hmodel]
    exact List.cons_ne_nil _ _

/-- Once the profile of the request's payload is known, the phase before the call leaves the cache
alone. -/
theorem carries_known (genAi : Bool) (request : Request) {known : AccessorCache}
    (hdiscovered : known.Discovered) (hknown : (known.profile request.payload).2 = known) :
    (startPhase request).Carries (Session.Within (· = known) fun _ => True) genAi
      fun _ _ _ => True := by
  have hreadable : request.payload.Readable (· = known) fun _ => True :=
    { discovered := by
        rintro cache rfl
        exact hdiscovered
      profile := by
        rintro cache rfl
        exact hknown
      reports := fun _ _ => trivial }
  have hfield : ∀ mapping ∈ (startPhase request).mappings,
      Maintains (Session.Within (· = known) fun _ => True)
        (Session.resolve request.payload mapping.path) fun _ => True := by
    intro mapping hmapping
    obtain ⟨field, hpath, hfield⟩ := path_of_mem (tabled_startPhase request mapping hmapping).1
    rw [hpath, Session.resolve_singleton]
    exact (hreadable.maintains_read hfield).imp fun _ _ => trivial
  exact
    { keeps :=
        { model := fun _ => (hreadable.maintains_read (by decide)).imp fun _ _ => trivial
          field := hfield
          report := fun _ _ => maintains_report trivial }
      skip := fun _ _ => trivial
      fact := fun _ _ _ _ => trivial
      plain := fun hmapping _ _ =>
        maintains_applyPlain (hfield _ hmapping) fun _ _ => trivial }

/-- What the phase before the call leaves in the cache, with or without bodies: the profile of the
request's payload, if any mapping applies. -/
theorem cache_startAttributes (genAi : Bool) (request : Request) {session : Session}
    (hcache : session.cache.Discovered) :
    ((startAttributes genAi request).run session).2.cache =
      if (startPhase request).mappings = [] then session.cache
      else (session.cache.profile request.payload).2 := by
  have hextract : ((startAttributes genAi request).run session).2 =
      ((applyAll genAi (startPhase request) (startPhase request).mappings .empty {}).run
        session).2 := rfl
  rw [hextract]
  cases hmappings : (startPhase request).mappings with
  | nil => rfl
  | cons mapping rest =>
    have hall : ∀ later ∈ mapping :: rest, later ∈ (startPhase request).mappings :=
      fun later hlater => hmappings ▸ hlater
    have htable := tabled_startPhase request mapping (hall mapping List.mem_cons_self)
    obtain ⟨field, hpath, hfield⟩ := path_of_mem htable.1
    -- the first mapping is plain: it reads the payload, whose profile is known from then on
    have hfirst : ((applyPlain (startPhase request) mapping .empty).run session).2.cache =
        (session.cache.profile request.payload).2 := by
      rw [state_applyPlain, hpath, Session.resolve_singleton, Session.cache_read,
        show (startPhase request).root = request.payload from rfl, hcache.accessor? _ hfield]
    have hcarries := carries_known genAi request (hcache.profile request.payload)
      (by rw [AccessorCache.profile_profile])
    have hrest := maintains_applyAll hcarries rest
      (fun later hlater => hall later (List.mem_cons_of_mem _ hlater))
      ((applyPlain (startPhase request) mapping .empty).run session).1 {}
      (fun _ _ hknown => nomatch hknown) trivial
    have happly : applyAll genAi (startPhase request) (mapping :: rest) .empty {} = (do
        let set ← applyPlain (startPhase request) mapping .empty
        applyAll genAi (startPhase request) rest set {}) := by
      rw [applyAll, isStructured_first hmappings]
      rfl
    rw [happly, if_neg (List.cons_ne_nil _ _)]
    exact (hrest _ ⟨hfirst, fun _ _ => trivial⟩).1.1

/-- Two sessions whose caches show the payload of a phase alike give the same plain attributes. -/
theorem trims_extract {phase : Phase} {asked : Payload} {view : String → Option String}
    (htable : phase.Tabled) (hrepeat : phase.root.Repeatable)
    (hasked : phase.classification.body? ≠ none → asked = phase.request.payload)
    {session session' : Session} (hshows : session.cache.Shows phase.root asked view)
    (hshows' : session'.cache.Shows phase.root asked view) :
    Trims ((extract false phase).run session).1 ((extract true phase).run session').1 := by
  obtain ⟨-, hoff⟩ := maintains_extract_shown false htable hrepeat hasked session
    ⟨hshows, fun _ _ => trivial⟩
  obtain ⟨-, hon⟩ := maintains_extract_shown true htable hrepeat hasked session'
    ⟨hshows', fun _ _ => trivial⟩
  have hnodup := (written_extract false phase.keeps_trivial htable session trivial).2.nodup
  have hnodup' := (written_extract true phase.keeps_trivial htable session' trivial).2.nodup
  exact .of_mapped hoff hon hnodup hnodup'

theorem trims_startAttributes {request : Request} (hrepeat : request.payload.Repeatable)
    {session session' : Session} (hsame : session.cache = session'.cache)
    (hcache : session.cache.Discovered) :
    Trims ((startAttributes false request).run session).1
      ((startAttributes true request).run session').1 := by
  have hshows : session.cache.Shows request.payload request.payload
      (session.cache.finds request.payload) :=
    ⟨hcache, rfl, fun _ => Or.inr fun _ => rfl⟩
  exact trims_extract (tabled_startPhase request) hrepeat (fun _ => rfl) hshows (hsame ▸ hshows)

/-- After the call, the payload of the request is read too, where bodies are decoded.  This makes no
difference if it was read before, or keeps its contract. -/
theorem trims_endAttributes {request : Request} {outcome : Outcome}
    (hrepeat : ∀ root, outcome.response.bind (·.payload) = some root → root.Repeatable)
    {session session' : Session} (hsame : session.cache = session'.cache)
    (hcache : session.cache.Discovered)
    (hsettled : (startPhase request).mappings ≠ [] →
      request.payload.profileKey ∈ session.cache.keys ∨
        ∀ root, outcome.response.bind (·.payload) = some root → request.payload.Agrees root) :
    Trims ((endAttributes false request outcome).run session).1
      ((endAttributes true request outcome).run session').1 := by
  cases hroot : outcome.response.bind (·.payload) with
  | none =>
    rw [endAttributes_of_none false request hroot, endAttributes_of_none true request hroot]
    exact .empty
  | some root =>
    rw [endAttributes_of_some false request hroot, endAttributes_of_some true request hroot]
    by_cases hbody : (endPhase request root).classification.body? = none
    · have hshows : session.cache.Shows root root (session.cache.finds root) :=
        ⟨hcache, rfl, fun _ => Or.inr fun _ => rfl⟩
      exact trims_extract (tabled_endPhase request root) (hrepeat root hroot)
        (fun hdecoded => absurd hbody hdecoded) hshows (hsame ▸ hshows)
    · have hshows : session.cache.Shows root request.payload (session.cache.finds root) := by
        refine ⟨hcache, rfl, fun hkey => ?_⟩
        rcases hsettled (mappings_ne_nil_of_body hbody) with hknown | hagrees
        · exact Or.inl (hkey ▸ hknown)
        · exact Or.inr (hagrees root hroot hkey)
      exact trims_extract (tabled_endPhase request root) (hrepeat root hroot) (fun _ => rfl)
        hshows (hsame ▸ hshows)

end FieldMappings

/-! ### The chain -/

namespace ExtractorChain

theorem trims_optional {asked : Bool} {m n : Reading AttributeSet} {session session' : Session}
    (h : Trims (m.run session).1 (n.run session').1) :
    Trims ((optional asked m).run session).1 ((optional asked n).run session').1 := by
  cases asked with
  | true => exact h
  | false => exact .empty

theorem cache_optional {asked : Bool} {m : Reading AttributeSet} {session : Session}
    (h : (m.run session).2.cache = session.cache) :
    ((optional asked m).run session).2.cache = session.cache := by
  cases asked with
  | true => exact h
  | false => rfl

variable {a b c a' b' c' : AttributeSet}

theorem trimmed_merged (ha : Trims a a') (hb : Trims b b') (hc : Trims c c') :
    Trimmed (merged a b c) (merged a' b' c') :=
  ((Trims.empty.get.extend ha).extend hb).extend hc

theorem run_onStart (capture : CaptureSettings) (request : Request) (session : Session) :
    ((ofCapture capture).onStart request).run session =
      let rpc := (optional capture.rpc (pure (RpcFacts.startAttributes request))).run session
      let sdk := (optional capture.awsSdk (pure (SdkFacts.startAttributes request))).run rpc.2
      let fields := (optional capture.fieldMappings
        (FieldMappings.startAttributes capture.genAi request)).run sdk.2
      (merged rpc.1 sdk.1 fields.1, fields.2) := by
  rw [onStart_ofCapture]
  rfl

theorem run_onEnd (capture : CaptureSettings) (request : Request) (outcome : Outcome)
    (session : Session) :
    ((ofCapture capture).onEnd request outcome).run session =
      let rpc := (optional capture.rpc (pure (RpcFacts.endAttributes outcome))).run session
      let sdk := (optional capture.awsSdk
        (SdkFacts.endAttributes capture.genAi request outcome)).run rpc.2
      let fields := (optional capture.fieldMappings
        (FieldMappings.endAttributes capture.genAi request outcome)).run sdk.2
      (merged rpc.1 sdk.1 fields.1, fields.2) := by
  rw [onEnd_ofCapture]
  rfl

variable {capture : CaptureSettings} {request : Request} {outcome : Outcome}
  {session session' : Session}

theorem trimmed_onStart (capture : CaptureSettings) (hrepeat : request.payload.Repeatable)
    (hsame : session.cache = session'.cache) (hcache : session.cache.Discovered) :
    Trimmed (((ofCapture { capture with genAi := false }).onStart request).run session).1
      (((ofCapture { capture with genAi := true }).onStart request).run session').1 := by
  rw [run_onStart, run_onStart]
  refine trimmed_merged ?_ ?_ ?_
  · exact trims_optional (RpcFacts.trims_startAttributes request)
  · exact trims_optional (SdkFacts.trims_startAttributes request)
  · have hbefore : ∀ session : Session, ((optional capture.awsSdk
        (pure (SdkFacts.startAttributes request))).run ((optional capture.rpc
          (pure (RpcFacts.startAttributes request))).run session).2).2.cache = session.cache :=
      fun session => (cache_optional rfl).trans (cache_optional rfl)
    refine trims_optional (FieldMappings.trims_startAttributes hrepeat ?_ ?_)
    · exact (hbefore session).trans (hsame.trans (hbefore session').symm)
    · rw [hbefore]
      exact hcache

/-- Both chains leave the same cache behind before the call. -/
theorem cache_onStart (capture : CaptureSettings) (request : Request)
    (hcache : session.cache.Discovered) :
    (((ofCapture capture).onStart request).run session).2.cache =
      if capture.fieldMappings = true ∧ (FieldMappings.startPhase request).mappings ≠ [] then
        (session.cache.profile request.payload).2
      else session.cache := by
  rw [run_onStart]
  have hbefore : ((optional capture.awsSdk (pure (SdkFacts.startAttributes request))).run
      ((optional capture.rpc (pure (RpcFacts.startAttributes request))).run session).2).2.cache =
        session.cache := (cache_optional rfl).trans (cache_optional rfl)
  dsimp only
  generalize ((optional capture.awsSdk (pure (SdkFacts.startAttributes request))).run
    ((optional capture.rpc (pure (RpcFacts.startAttributes request))).run session).2).2 = before
    at hbefore ⊢
  cases capture.fieldMappings with
  | false => exact hbefore
  | true =>
    have hstart := FieldMappings.cache_startAttributes capture.genAi request (hbefore ▸ hcache)
    rw [hbefore] at hstart
    show ((FieldMappings.startAttributes capture.genAi request).run before).2.cache = _
    rw [hstart]
    by_cases hmappings : (FieldMappings.startPhase request).mappings = []
    · simp [hmappings]
    · simp [hmappings]

theorem trimmed_onEnd (capture : CaptureSettings)
    (hrepeat : ∀ root, outcome.response.bind (·.payload) = some root → root.Repeatable)
    (hsame : session.cache = session'.cache) (hcache : session.cache.Discovered)
    (hsettled : capture.fieldMappings = true → (FieldMappings.startPhase request).mappings ≠ [] →
      request.payload.profileKey ∈ session.cache.keys ∨
        ∀ root, outcome.response.bind (·.payload) = some root → request.payload.Agrees root) :
    Trimmed (((ofCapture { capture with genAi := false }).onEnd request outcome).run session).1
      (((ofCapture { capture with genAi := true }).onEnd request outcome).run session').1 := by
  rw [run_onEnd, run_onEnd]
  have hbefore : ∀ genAi (session : Session), ((optional capture.awsSdk
      (SdkFacts.endAttributes genAi request outcome)).run ((optional capture.rpc
        (pure (RpcFacts.endAttributes outcome))).run session).2).2.cache = session.cache :=
    fun genAi session => (cache_optional (SdkFacts.cache_endAttributes genAi request outcome _)).trans
      (cache_optional rfl)
  refine trimmed_merged ?_ ?_ ?_
  · exact trims_optional (RpcFacts.trims_endAttributes outcome)
  · exact trims_optional (SdkFacts.trims_endAttributes request outcome _ _)
  · dsimp only
    cases hfields : capture.fieldMappings with
    | false => exact .empty
    | true =>
      refine FieldMappings.trims_endAttributes hrepeat ?_ ?_ ?_
      · exact (hbefore false session).trans (hsame.trans (hbefore true session').symm)
      · rw [hbefore]
        exact hcache
      · rw [hbefore]
        exact hsettled hfields

/-- **Without model invocations, the chain writes what it writes with them but for the decoded
attributes, and none of those**: before the call, and after it.  What else was read between the two
makes no difference as long as the payloads of the call keep their contract. -/
theorem trimmed_ofCapture (capture : CaptureSettings) (request : Request) (outcome : Outcome)
    (session : Session) (hcache : session.cache.Discovered)
    (hrequest : request.payload.Repeatable)
    (hresponse : ∀ root, outcome.response.bind (·.payload) = some root → root.Repeatable) :
    let off := ofCapture { capture with genAi := false }
    let on := ofCapture { capture with genAi := true }
    Trimmed ((off.onStart request).run session).1 ((on.onStart request).run session).1 ∧
      Trimmed ((off.onEnd request outcome).run ((off.onStart request).run session).2).1
        ((on.onEnd request outcome).run ((on.onStart request).run session).2).1 ∧
      ∀ later later' : Session, later.cache = later'.cache → later.cache.Discovered →
        (∀ root, outcome.response.bind (·.payload) = some root → request.payload.Agrees root) →
        Trimmed ((off.onEnd request outcome).run later).1
          ((on.onEnd request outcome).run later').1 := by
  intro off on
  have hoff := cache_onStart { capture with genAi := false } request hcache
  have hon := cache_onStart { capture with genAi := true } request hcache
  refine ⟨trimmed_onStart capture hrequest rfl hcache, ?_, ?_⟩
  · refine trimmed_onEnd capture hresponse (hoff.trans hon.symm) ?_ ?_
    · rw [hoff]
      split
      · exact hcache.profile request.payload
      · exact hcache
    · intro hfields hmappings
      rw [hoff, if_pos ⟨hfields, hmappings⟩]
      exact Or.inl ((AccessorCache.mem_keys_profile request.payload _).mpr (Or.inr rfl))
  · intro later later' hsame hlater hagrees
    exact trimmed_onEnd capture hresponse hsame hlater fun _ _ => Or.inr hagrees

/-- A response that tells how many tokens were read. -/
def completion : Outcome where
  response := some
    { payload := some
        { identity := 1
          typeName := "InvokeModelResponse"
          profileKey := "InvokeModelResponse"
          probe := fun name => if name = "getBody" then .present else .absent
          answer := fun _ _ => .value (.text "\x7b\"usage\":\x7b\"input_tokens\":3\x7d\x7d")
          marshalled := none } }

/-- The count in the response is written with model invocations, and not without. -/
theorem trimmed_completion :
    let off := ofCapture { genAi := false }
    let on := ofCapture {}
    AccessorCache.Discovered {} ∧ FieldMappings.invocation.payload.Repeatable ∧
      (∀ root, completion.response.bind (·.payload) = some root → root.Repeatable) ∧
      ((on.onEnd FieldMappings.invocation completion).run
        ((on.onStart FieldMappings.invocation).run {}).2).1.get? GenAi.usagePromptTokens =
          some (.text "3") ∧
      ((off.onEnd FieldMappings.invocation completion).run
        ((off.onStart FieldMappings.invocation).run {}).2).1.get? GenAi.usagePromptTokens =
          none := by
  intro off on
  have hcache := AccessorCache.discovered_empty
  have hrequest : FieldMappings.invocation.payload.Repeatable := fun _ _ _ => rfl
  have hresponse : ∀ root, completion.response.bind (·.payload) = some root →
      root.Repeatable := by
    rintro root ⟨⟩
    exact fun _ _ _ => rfl
  obtain ⟨-, hend, -⟩ := trimmed_ofCapture {} FieldMappings.invocation completion {} hcache
    hrequest hresponse
  refine ⟨hcache, hrequest, hresponse, by decide +kernel, ?_⟩
  exact (hend GenAi.usagePromptTokens).trans (if_pos (by decide))

end ExtractorChain

end CallTracing
