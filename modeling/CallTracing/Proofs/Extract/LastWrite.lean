/-
  CallTracing/Proofs/Extract/LastWrite.lean
  =========================================
  **Of the mappings to one attribute, the last that finds a text decides.**

  The attributes of a phase are written in the order of the mappings, and a mapping that finds no
  text writes nothing.  So what an attribute ends up with is found by going through the mappings
  backwards (`lastText`).  This describes all attributes but the structured ones and the name of the
  system, which is written along with those (`Mapped`).

  The payload is read through the cache of the session.  First the text of a field is taken to be
  what the cache shows of it (`shownText`); where the payloads keep their contract, this is the text
  of the field itself (`Payload.text?`).
-/
import CallTracing.Proofs.Extract.Mappings
import CallTracing.Proofs.Payload.Views

namespace CallTracing

open AttributeSet Names Reading

/-! ### The text that decides -/

/-- The text of a value that an attribute takes: not an empty one. -/
def flatText (value : Option FieldValue) : Option String :=
  (value.bind FieldValue.flat?).filter (· ≠ "")

/-- The text at the end of a path. -/
def Payload.text? (root : Payload) (path : List String) : Option String :=
  flatText (root.at? path)

/-- The text of the last mapping to an attribute whose path leads to one. -/
def lastText (text : List String → Option String) (mappings : List FieldMapping) (name : String) :
    Option String :=
  (mappings.filter (·.target == name)).reverse.findSome? fun mapping => text mapping.path

variable {text : List String → Option String} {mapping : FieldMapping} {rest : List FieldMapping}
  {name : String}

theorem lastText_cons_of_eq (h : mapping.target = name) :
    lastText text (mapping :: rest) name = (lastText text rest name).or (text mapping.path) := by
  have hfilter : (mapping :: rest).filter (·.target == name) =
      mapping :: rest.filter (·.target == name) := List.filter_cons_of_pos (by simpa using h)
  simp only [lastText, hfilter, List.reverse_cons, List.findSome?_append, List.findSome?_singleton]

theorem lastText_cons_of_ne (h : mapping.target ≠ name) :
    lastText text (mapping :: rest) name = lastText text rest name := by
  have hfilter : (mapping :: rest).filter (·.target == name) = rest.filter (·.target == name) :=
    List.filter_cons_of_neg (by simpa using h)
  simp only [lastText, hfilter]

theorem RpcFacts.get?_putKnown (set : AttributeSet) (fact : String × Option String)
    (name : String) :
    (putKnown set fact).get? name =
      if fact.1 = name then ((fact.2.filter (· ≠ "")).map .text).or (set.get? name)
      else set.get? name := by
  obtain ⟨target, value⟩ := fact
  cases value with
  | none => simp [putKnown]
  | some text =>
    show (set.putNonEmpty target text).get? name = _
    rw [get?_putNonEmpty]
    by_cases htarget : target = name
    · by_cases htext : text = ""
      · simp [htext, Option.filter_some]
      · simp [htarget, htext, Option.filter_some]
    · simp [htarget]

/-! ### What the walk writes -/

namespace FieldMappings

/-- The attributes of a phase, where the other attributes than structured ones have these texts. -/
structure Mapped (genAi : Bool) (texts : String → Option String) (set : AttributeSet) : Prop where
  plain : ∀ name, GenAi.isStructured name = false → name ≠ GenAi.system →
    set.get? name = (texts name).map .text
  system : ∀ value, set.get? GenAi.system = some value ↔
    value = .text GenAi.systemValue ∧
      ∃ name, GenAi.isStructured name = true ∧ (set.get? name).isSome
  bodies : genAi = false → ∀ name, GenAi.isStructured name = true → set.get? name = none

/-- How far the walk has come: what is still to come decides, and then what was written. -/
structure Underway (genAi : Bool) (text : List String → Option String)
    (texts : String → Option String) (rest : List FieldMapping) (set : AttributeSet)
    (wrote : Bool) : Prop where
  plain : ∀ name, GenAi.isStructured name = false → name ≠ GenAi.system →
    ((lastText text rest name).map .text).or (set.get? name) = (texts name).map .text
  unnamed : set.get? GenAi.system = none
  wrote_iff : wrote = true ↔ ∃ name, GenAi.isStructured name = true ∧ (set.get? name).isSome
  bodies : genAi = false → wrote = false

variable {genAi : Bool} {texts : String → Option String} {set : AttributeSet} {wrote : Bool}

theorem Underway.start (mappings : List FieldMapping) :
    Underway genAi text (lastText text mappings) mappings .empty false where
  plain := fun name _ _ => by rw [get?_empty, Option.or_none]
  unnamed := rfl
  wrote_iff := by simp [get?_empty]
  bodies := fun _ => rfl

theorem ne_of_isStructured {target name : String} (htarget : GenAi.isStructured target = true)
    (hname : GenAi.isStructured name = false) : target ≠ name := by
  rintro rfl
  rw [htarget] at hname
  cases hname

theorem Underway.skip (h : Underway genAi text texts (mapping :: rest) set wrote)
    (hmapping : mapping.isStructured = true) : Underway genAi text texts rest set wrote where
  plain := by
    intro name hname hsystem
    rw [← h.plain name hname hsystem, lastText_cons_of_ne (ne_of_isStructured hmapping hname)]
  unnamed := h.unnamed
  wrote_iff := h.wrote_iff
  bodies := h.bodies

theorem Underway.fact (h : Underway genAi text texts (mapping :: rest) set wrote)
    (hmapping : mapping.isStructured = true) (hgenAi : genAi = true) (value : AttributeValue) :
    Underway genAi text texts rest (set.put mapping.target value) true where
  plain := by
    intro name hname hsystem
    have hne := ne_of_isStructured hmapping hname
    rw [get?_put, if_neg hne]
    exact (h.skip hmapping).plain name hname hsystem
  unnamed := by
    rw [get?_put, if_neg (ne_of_isStructured hmapping GenAi.isStructured_system)]
    exact h.unnamed
  wrote_iff := by
    refine ⟨fun _ => ⟨mapping.target, hmapping, ?_⟩, fun _ => rfl⟩
    rw [get?_put, if_pos rfl]
    rfl
  bodies := fun hoff => absurd (hgenAi.symm.trans hoff) (by decide)

/-- A plain mapping replaces what was written before, if it finds a text. -/
theorem Underway.plain_step (h : Underway genAi text texts (mapping :: rest) set wrote)
    (hmapping : mapping.isStructured = false) (hsystem : mapping.target ≠ GenAi.system)
    {found : Option String} (hfound : found.filter (· ≠ "") = text mapping.path) :
    Underway genAi text texts rest (RpcFacts.putKnown set (mapping.target, found)) wrote where
  plain := by
    intro name hname hother
    rw [← h.plain name hname hother, RpcFacts.get?_putKnown, hfound]
    by_cases htarget : mapping.target = name
    · rw [if_pos htarget, lastText_cons_of_eq htarget]
      cases lastText text rest name with
      | some later => rfl
      | none => rfl
    · rw [if_neg htarget, lastText_cons_of_ne htarget]
  unnamed := by
    rw [RpcFacts.get?_putKnown, if_neg hsystem]
    exact h.unnamed
  wrote_iff := by
    rw [h.wrote_iff]
    refine exists_congr fun name => and_congr_right fun hname => ?_
    have hne : mapping.target ≠ name := (ne_of_isStructured hname hmapping).symm
    rw [RpcFacts.get?_putKnown, if_neg hne]
  bodies := h.bodies

/-- At the end, the name of the system is written if a fact of a body was. -/
theorem Underway.mapped (h : Underway genAi text texts [] set wrote) :
    Mapped genAi texts
      (if wrote then set.put GenAi.system (.text GenAi.systemValue) else set) where
  plain := by
    intro name hname hsystem
    have hplain := h.plain name hname hsystem
    cases wrote with
    | true =>
      rw [if_pos rfl, get?_put, if_neg (Ne.symm hsystem)]
      exact hplain
    | false => exact hplain
  system := by
    intro value
    cases wrote with
    | true =>
      obtain ⟨name, hname, hsome⟩ := h.wrote_iff.mp rfl
      have hne : GenAi.system ≠ name := (ne_of_isStructured hname GenAi.isStructured_system).symm
      have hwritten : ∃ name, GenAi.isStructured name = true ∧
          ((set.put GenAi.system (.text GenAi.systemValue)).get? name).isSome := by
        refine ⟨name, hname, ?_⟩
        rw [get?_put, if_neg hne]
        exact hsome
      rw [if_pos rfl, get?_put, if_pos rfl]
      constructor
      · rintro ⟨⟩
        exact ⟨rfl, hwritten⟩
      · rintro ⟨rfl, -⟩
        rfl
    | false =>
      show set.get? GenAi.system = some value ↔ _
      rw [h.unnamed]
      constructor
      · rintro ⟨⟩
      · rintro ⟨-, hexists⟩
        exact absurd (h.wrote_iff.mpr hexists) (by decide)
  bodies := by
    intro hoff name hname
    have hwrote := h.bodies hoff
    subst hwrote
    cases hget : set.get? name with
    | none => exact hget
    | some value =>
      have hsome : (set.get? name).isSome := by rw [hget]; rfl
      exact absurd (h.wrote_iff.mpr ⟨name, hname, hsome⟩) (by decide)

theorem target_ne_system {mapping : FieldMapping} (h : mapping ∈ mappingTable) :
    mapping.target ≠ GenAi.system := by
  have htable : ∀ mapping ∈ mappingTable, mapping.target ≠ GenAi.system := by decide
  exact htable mapping h

theorem maintains_extract_lastText {inv : Session → Prop} {phase : Phase}
    (hkeeps : phase.Keeps inv) (htable : phase.Tabled)
    (hread : ∀ mapping ∈ phase.mappings, Maintains inv
      (Session.resolve phase.root mapping.path) fun value => flatText value = text mapping.path) :
    Maintains inv (extract genAi phase) (Mapped genAi (lastText text phase.mappings)) := by
  have hcarries : phase.Carries inv genAi
      (Underway genAi text (lastText text phase.mappings)) := {
    keeps := hkeeps
    skip := fun hstructured hunderway => hunderway.skip hstructured
    fact := fun hgenAi hstructured _ hunderway => hunderway.fact hstructured hgenAi _
    plain := by
      intro mapping rest set wrote hmapping hplain hunderway
      refine maintains_applyPlain (hread mapping hmapping) fun value hvalue => ?_
      exact hunderway.plain_step hplain (target_ne_system (htable mapping hmapping).1) hvalue }
  refine (maintains_extract hcarries (.start _)).imp ?_
  rintro set ⟨before, wrote, hbefore, rfl⟩
  exact hbefore.mapped

/-! ### Phases read through a cache -/

/-- The text of a field as a cache shows it. -/
def shownText (root : Payload) (view : String → Option String) (path : List String) :
    Option String :=
  flatText ((path.head?.bind view).bind fun accessor => (root.answer accessor 0).given?)

variable {phase : Phase} {asked : Payload} {view : String → Option String}

/-- The attributes of a phase whose payload has repeatable answers, out of what the cache shows of
it. -/
theorem maintains_extract_shown (genAi : Bool) (htable : phase.Tabled)
    (hrepeat : phase.root.Repeatable)
    (hasked : phase.classification.body? ≠ none → asked = phase.request.payload) :
    Maintains (Session.Within (AccessorCache.Shows phase.root asked view) fun _ => True)
      (extract genAi phase)
      (Mapped genAi (lastText (shownText phase.root view) phase.mappings)) := by
  have hread : ∀ mapping ∈ phase.mappings,
      Maintains (Session.Within (AccessorCache.Shows phase.root asked view) fun _ => True)
        (Session.resolve phase.root mapping.path) fun value =>
          flatText value = shownText phase.root view mapping.path := by
    intro mapping hmapping
    obtain ⟨field, hpath, hfield⟩ := path_of_mem (htable mapping hmapping).1
    rw [hpath, Session.resolve_singleton]
    refine (AccessorCache.maintains_read_shown hrepeat hfield).imp ?_
    rintro value rfl
    rfl
  have hkeeps : phase.Keeps
      (Session.Within (AccessorCache.Shows phase.root asked view) fun _ => True) := {
    model := by
      intro hbody
      obtain rfl := hasked hbody
      have hreadable : phase.request.payload.Readable
          (AccessorCache.Shows phase.root phase.request.payload view) fun _ => True :=
        AccessorCache.readable_of_shows (Or.inr rfl)
      exact (hreadable.maintains_read (by decide)).imp fun _ _ => trivial
    field := fun mapping hmapping => (hread mapping hmapping).imp fun _ _ => trivial
    report := fun _ _ => maintains_report trivial }
  exact maintains_extract_lastText hkeeps htable hread

theorem shownText_of_honours {cache : AccessorCache} {root : Payload} (h : cache.Honours root)
    {mapping : FieldMapping} (hmapping : mapping ∈ mappingTable) :
    shownText root (cache.finds root) mapping.path = root.text? mapping.path := by
  obtain ⟨field, hpath, hfield⟩ := path_of_mem hmapping
  obtain ⟨accessors, hlookup⟩ := Option.isSome_iff_exists.mp hfield
  have hview : cache.finds root field = root.firstExposed (candidates field) := by
    rw [h.finds, hlookup, candidates_of_canonical hlookup]
    rfl
  rw [hpath, Payload.text?, Payload.at?_singleton, Payload.field?, ← hview]
  rfl

theorem lastText_congr {text' : List String → Option String} {mappings : List FieldMapping}
    (h : ∀ mapping ∈ mappings, text mapping.path = text' mapping.path) :
    lastText text mappings = lastText text' mappings := by
  funext name
  induction mappings with
  | nil => rfl
  | cons mapping rest ih =>
    have hrest := ih fun later hlater => h later (List.mem_cons_of_mem _ hlater)
    by_cases htarget : mapping.target = name
    · rw [lastText_cons_of_eq htarget, lastText_cons_of_eq htarget, hrest,
        h mapping List.mem_cons_self]
    · rw [lastText_cons_of_ne htarget, lastText_cons_of_ne htarget, hrest]

/-- The attributes of a phase whose payload has repeatable answers, where all payloads keep their
contract. -/
theorem mapped_of_honours (genAi : Bool) (htable : phase.Tabled) (hrepeat : phase.root.Repeatable)
    {session : Session} (hcache : session.cache.Honours phase.root)
    (hagrees : phase.request.payload.Agrees phase.root) :
    Mapped genAi (lastText phase.root.text? phase.mappings)
      ((extract genAi phase).run session).1 := by
  have hshows : session.cache.Shows phase.root phase.request.payload
      (session.cache.finds phase.root) :=
    ⟨hcache.discovered, rfl, fun hkey => Or.inr (hagrees hkey)⟩
  obtain ⟨-, hmapped⟩ := maintains_extract_shown genAi htable hrepeat (fun _ => rfl) session
    ⟨hshows, fun _ _ => trivial⟩
  have htext := lastText_congr fun mapping hmapping =>
    shownText_of_honours hcache (htable mapping hmapping).1
  rwa [htext] at hmapped

/-- The mappings that apply to a payload in one direction, in order: those of the type of the
request, then those of the category. -/
def applicable (request : Request) (root : Payload) (direction : Direction) : List FieldMapping :=
  ((typeProfile? request.payload.typeName).toList ++
    ((classify request.service (some root.typeName) direction).bind
      Category.profile?).toList).flatMap (·.mappingsFor direction)

/-- **The last mapping that finds a text decides**, of those that apply, for every attribute that is
not read out of a body.  The one other attribute, the name of the system, is there just where a
structured one is. -/
theorem mapped_lastText (genAi : Bool) (request : Request) (session : Session)
    (hrepeat : request.payload.Repeatable) (hcache : session.cache.Honours request.payload) :
    Mapped genAi (lastText request.payload.text? (applicable request request.payload .request))
        (((extractor genAi).onStart request).run session).1.attributes ∧
      ∀ outcome root, outcome.response.bind (·.payload) = some root → root.Repeatable →
        session.cache.Honours root → request.payload.Agrees root →
        Mapped genAi (lastText root.text? (applicable request root .response))
          (((extractor genAi).onEnd request outcome).run session).1.attributes := by
  constructor
  · exact mapped_of_honours genAi (tabled_startPhase request) hrepeat hcache fun _ _ => rfl
  · intro outcome root hroot hanswers hknown hagrees
    have hrun : (((extractor genAi).onEnd request outcome).run session).1.attributes =
        ((extract genAi (endPhase request root)).run session).1 := by
      rw [← endAttributes_of_some genAi request hroot]
      rfl
    rw [hrun]
    exact mapped_of_honours genAi (tabled_endPhase request root) hanswers hknown hagrees

/-- A message to a topic that cannot be read, with a target that can. -/
def notice : Request where
  service := "SNS"
  operation := some "Publish"
  payload :=
    { identity := 0
      typeName := "PublishRequest"
      profileKey := "PublishRequest"
      probe := fun name =>
        if name = "getTargetArn" ∨ name = "getTopicArn" then .present else .absent
      answer := fun name _ =>
        if name = "getTargetArn" then .value (.text "arn:target") else .panics
      marshalled := none }

/-- The topic comes later and does not erase the target; after the call, neither is written. -/
theorem notice_mapped :
    notice.payload.Repeatable ∧ AccessorCache.Honours {} notice.payload ∧
      notice.payload.Agrees notice.payload ∧
      (((extractor true).onStart notice).run {}).1.attributes.get? messagingDestination =
        some (.text "arn:target") ∧
      (((extractor true).onEnd notice { response := some { payload := some notice.payload } }).run
        {}).1.attributes.get? messagingDestination = none := by
  have hrepeat : notice.payload.Repeatable := fun _ _ _ => rfl
  have hagrees : notice.payload.Agrees notice.payload := fun _ _ => rfl
  have hcache := AccessorCache.honours_empty notice.payload
  obtain ⟨hstart, hend⟩ := mapped_lastText true notice {} hrepeat hcache
  have hafter := hend { response := some { payload := some notice.payload } } notice.payload rfl
    hrepeat hcache hagrees
  refine ⟨hrepeat, hcache, hagrees, ?_, ?_⟩
  · rw [hstart.plain messagingDestination (by decide) (by decide)]
    decide +kernel
  · rw [hafter.plain messagingDestination (by decide) (by decide)]
    decide +kernel

/-- A request to invoke a model, whose body sets a limit. -/
def invocation : Request where
  service := "BedrockRuntime"
  operation := some "InvokeModel"
  payload :=
    { identity := 0
      typeName := "InvokeModelRequest"
      profileKey := "InvokeModelRequest"
      probe := fun name => if name = "getBody" then .present else .absent
      answer := fun _ _ => .value (.text "\x7b\"max_tokens\":1\x7d")
      marshalled := none }

/-- A payload of the same key as `notice` that exposes nothing. -/
def emptyNotice : Payload := { notice.payload with identity := 1, probe := fun _ => .absent }

/-- No mapping leads to the name of the system, which is written all the same; and a payload whose
key was settled by another one is read by the accessors of the other. -/
theorem system_unmapped :
    (invocation.payload.Repeatable ∧
      ¬∀ name, GenAi.isStructured name = false →
        (((extractor true).onStart invocation).run {}).1.attributes.get? name =
          (lastText invocation.payload.text?
            (applicable invocation invocation.payload .request) name).map .text) ∧
      notice.payload.Repeatable ∧
      ¬∀ name, GenAi.isStructured name = false → name ≠ GenAi.system →
        (((extractor true).onStart notice).run
          { cache := (AccessorCache.profile {} emptyNotice).2 }).1.attributes.get? name =
          (lastText notice.payload.text?
            (applicable notice notice.payload .request) name).map .text := by
  refine ⟨⟨fun _ _ _ => rfl, fun hclaim => ?_⟩, fun _ _ _ => rfl, fun hclaim => ?_⟩
  · have hwritten : (((extractor true).onStart invocation).run {}).1.attributes.get?
        GenAi.system = some (.text GenAi.systemValue) := by decide +kernel
    have hmapped : lastText invocation.payload.text?
        (applicable invocation invocation.payload .request) GenAi.system = none := by
      decide +kernel
    have hsystem := hclaim GenAi.system GenAi.isStructured_system
    rw [hwritten, hmapped] at hsystem
    cases hsystem
  · have hunread : (((extractor true).onStart notice).run
        { cache := (AccessorCache.profile {} emptyNotice).2 }).1.attributes.get?
          messagingDestination = none := by decide +kernel
    have hmapped : lastText notice.payload.text? (applicable notice notice.payload .request)
        messagingDestination = some "arn:target" := by decide +kernel
    have hdestination := hclaim messagingDestination (by decide) (by decide)
    rw [hunread, hmapped] at hdestination
    cases hdestination

end FieldMappings

end CallTracing
