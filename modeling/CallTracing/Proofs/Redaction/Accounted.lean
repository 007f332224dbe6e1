/-
  CallTracing/Proofs/Redaction/Accounted.lean
  ===========================================
  **What is logged of the texts of a call.**

  A call brings texts of the host along, and the log repeats some of them.  Most are passed through
  redaction (`LoggedHidden`): the values of attributes, the name of the span, and the failure that
  ends the call before its response.  Others are logged as they are (`LoggedAsIs`): the service, the
  type names of payloads, the errors of accessors, token counts that are none, and the message of
  the failure, which the sink repeats when it ends the span.

  An event is accounted for with respect to a key id if the key is in none of its fields but for
  these reasons (`Event.AccountedFor`).  Every event that the extractors report is.
-/
import CallTracing.Proofs.Extract.WireContract
import CallTracing.Proofs.Redaction.KeyFree
import CallTracing.Call.Controller
import CallTracing.Sink.Tracing

namespace CallTracing

open Reading Redaction

/-! ### The texts of a call -/

/-- The payloads of a call. -/
inductive PayloadOf (request : Request) (outcomes : List Outcome) : Payload → Prop where
  | request : PayloadOf request outcomes request.payload
  | response {outcome : Outcome} {root : Payload} (houtcome : outcome ∈ outcomes)
      (hroot : outcome.response.bind (·.payload) = some root) : PayloadOf request outcomes root

/-- The texts of a call that are logged as they are. -/
inductive LoggedAsIs (request : Request) (outcomes : List Outcome) : String → Prop where
  | service : LoggedAsIs request outcomes request.service
  | typeName {root : Payload} (hroot : PayloadOf request outcomes root) :
      LoggedAsIs request outcomes root.typeName
  | accessorError {root : Payload} {accessor : String} {n : Nat} {error : TraceError}
      (hroot : PayloadOf request outcomes root) (hanswer : root.answer accessor n = .fails error) :
      LoggedAsIs request outcomes error.text
  | tokenHeader {outcome : Outcome} {response : Response} {header raw : String}
      {fault : IntegerFault} (houtcome : outcome ∈ outcomes)
      (hresponse : outcome.response = some response) (hraw : response.header? header = some raw)
      (hfault : parseInt64 (Text.trimmed raw.toList) = .error fault) :
      LoggedAsIs request outcomes raw
  | failure {outcome : Outcome} {cause : CallFailure} (houtcome : outcome ∈ outcomes)
      (hcause : failureCause outcome.response outcome.failure = some cause) :
      LoggedAsIs request outcomes cause.message

/-- Whether a chain writes an attribute for a call, in some session. -/
def ExtractorChain.Writes (chain : ExtractorChain) (request : Request) (outcomes : List Outcome)
    (entry : String × AttributeValue) : Prop :=
  (∃ session, entry ∈ ((chain.onStart request).run session).1.entries) ∨
    ∃ outcome ∈ outcomes, ∃ session, entry ∈ ((chain.onEnd request outcome).run session).1.entries

/-- The texts of a call whose secrets are hidden before they are logged, each with the field that it
is logged as. -/
inductive LoggedHidden (chain : ExtractorChain) (request : Request) (outcomes : List Outcome) :
    String → String → Prop where
  | attribute {entry : String × AttributeValue} (hentry : chain.Writes request outcomes entry) :
      LoggedHidden chain request outcomes entry.2.display (sanitized entry.2.display)
  | spanName :
      LoggedHidden chain request outcomes (request.spanName?.getD "")
        (sanitized (request.spanName?.getD ""))
  | failure {outcome : Outcome} {failure : CallFailure} (houtcome : outcome ∈ outcomes)
      (hfailure : outcome.failure = some failure) :
      LoggedHidden chain request outcomes failure.text (Controller.failureText outcome.failure)

/-- Whether a field that holds a key is accounted for: it is a text that is logged as it is, or the
key stands inside a longer word of a text that is not. -/
def FieldAccountedFor (key : List Char) (chain : ExtractorChain) (request : Request)
    (outcomes : List Outcome) (field : String) : Prop :=
  key <:+: field.toList → LoggedAsIs request outcomes field ∨
    ∃ text, LoggedHidden chain request outcomes text field ∧ InsideWord none key text.toList

/-- Whether all fields of an event are accounted for. -/
def Event.AccountedFor (key : List Char) (chain : ExtractorChain) (request : Request)
    (outcomes : List Outcome) (event : Event) : Prop :=
  ∀ field ∈ event.fields, FieldAccountedFor key chain request outcomes field.2

/-- A session whose profiles were discovered, and in whose log there are allowed events only. -/
abbrev Session.Logs (allowed : Event → Prop) : Session → Prop :=
  Session.Within AccessorCache.Discovered allowed

section

variable {key : List Char} {chain : ExtractorChain} {request : Request} {outcomes : List Outcome}
  {field : String} {event : Event}

/-! ### Fields -/

theorem FieldAccountedFor.of_asIs (h : LoggedAsIs request outcomes field) :
    FieldAccountedFor key chain request outcomes field :=
  fun _ => Or.inl h

theorem FieldAccountedFor.of_fixed (hkey : IsKeyId key) (h : hasStem field.toList = false) :
    FieldAccountedFor key chain request outcomes field :=
  fun hholds => absurd hholds (hkey.not_infix_of_fixed h)

theorem FieldAccountedFor.of_lower (hkey : IsKeyId key) (h : 'A' ∉ field.toList) :
    FieldAccountedFor key chain request outcomes field :=
  fun hholds => absurd hholds (hkey.not_infix h)

theorem insideWord_of_sanitized (hkey : IsKeyId key) {text : String}
    (h : key <:+: (sanitized text).toList) : InsideWord none key text.toList := by
  rw [sanitized, String.toList_ofList] at h
  exact insideWord_of_sanitizedChars hkey h

theorem FieldAccountedFor.of_sanitized (hkey : IsKeyId key) {text : String}
    (h : LoggedHidden chain request outcomes text (sanitized text)) :
    FieldAccountedFor key chain request outcomes (sanitized text) :=
  fun hholds => Or.inr ⟨text, h, insideWord_of_sanitized hkey hholds⟩

theorem FieldAccountedFor.of_failure (hkey : IsKeyId key) {outcome : Outcome}
    (houtcome : outcome ∈ outcomes) :
    FieldAccountedFor key chain request outcomes (Controller.failureText outcome.failure) := by
  intro hholds
  cases hfailure : outcome.failure with
  | none =>
    rw [hfailure] at hholds
    exact absurd hholds (hkey.not_infix_of_fixed (by decide))
  | some failure =>
    have hhidden : LoggedHidden chain request outcomes failure.text
        (Controller.failureText outcome.failure) := .failure houtcome hfailure
    rw [hfailure] at hholds hhidden
    refine Or.inr ⟨failure.text, hhidden, insideWord_of_sanitized hkey (infix_of_quoted hkey ?_)⟩
    -- neither the name in front nor the parenthesis behind takes part in a key
    have hclosing : ')' ∉ key := hkey.not_mem (by decide)
    have hparts : (Controller.failureText (some failure)).toList =
        "Some(".toList ++ ((Text.quoted (sanitized failure.text)).toList ++ ')' :: []) := by
      rw [Controller.failureText, Option.map_some, Text.shownOption, String.toList_append,
        String.toList_append, List.append_assoc]
      rfl
    rw [hparts] at hholds
    rcases infix_append_cons hclosing (hkey.infix_of_append (by decide) hholds) with h | h
    · exact h
    · exact absurd (List.infix_nil.mp h) hkey.ne_nil

/-! ### Names -/

theorem hasStem_accessor {accessor : String} (h : accessor ∈ canonicalFields.flatMap (·.2)) :
    hasStem accessor.toList = false := by
  have htable : ∀ accessor ∈ canonicalFields.flatMap (·.2),
      hasStem accessor.toList = false := by decide +kernel
  exact htable accessor h

theorem hasStem_phaseNames {direction : Direction} {name : String}
    (h : name ∈ phaseNames direction) : hasStem name.toList = false := by
  have htable : ∀ name ∈ phaseNames .request ++ phaseNames .response,
      hasStem name.toList = false := by decide +kernel
  cases direction with
  | request => exact htable name (List.mem_append_left _ h)
  | response => exact htable name (List.mem_append_right _ h)

/-- Attributes of a call, under names without a key. -/
def LogReady (chain : ExtractorChain) (request : Request) (outcomes : List Outcome)
    (set : AttributeSet) : Prop :=
  ∀ entry ∈ set.entries, hasStem entry.1.toList = false ∧ chain.Writes request outcomes entry

/-! ### Events -/

theorem accountedFor_of_reports (hkey : IsKeyId key) {root : Payload}
    (hroot : PayloadOf request outcomes root) (h : root.Reports event) :
    event.AccountedFor key chain request outcomes := by
  intro field hfield
  cases h with
  | discovered supported =>
    simp only [List.mem_cons, List.not_mem_nil, or_false] at hfield
    rcases hfield with rfl | rfl
    · exact .of_asIs (.typeName hroot)
    · exact .of_lower hkey (not_mem_toString supported)
  | failed haccessor hanswer =>
    simp only [List.mem_cons, List.not_mem_nil, or_false] at hfield
    rcases hfield with rfl | rfl | rfl
    · exact .of_asIs (.typeName hroot)
    · exact .of_fixed hkey (hasStem_accessor haccessor)
    · exact .of_asIs (.accessorError hroot hanswer)
  | panicked haccessor =>
    simp only [List.mem_cons, List.not_mem_nil, or_false] at hfield
    rcases hfield with rfl | rfl
    · exact .of_asIs (.typeName hroot)
    · exact .of_fixed hkey (hasStem_accessor haccessor)

theorem accountedFor_of_headerReport (hkey : IsKeyId key) {outcome : Outcome} {response : Response}
    (houtcome : outcome ∈ outcomes) (hresponse : outcome.response = some response)
    (h : SdkFacts.HeaderReport response event) :
    event.AccountedFor key chain request outcomes := by
  intro field hfield
  obtain ⟨hheader, hraw, hfault⟩ := h
  next header raw fault =>
    simp only [List.mem_cons, List.not_mem_nil, or_false] at hfield
    rcases hfield with rfl | rfl | rfl
    · rcases hheader with rfl | rfl
      · exact .of_fixed hkey (by decide)
      · exact .of_fixed hkey (by decide)
    · exact .of_asIs (.tokenHeader houtcome hresponse hraw hfault)
    · cases fault <;> exact .of_fixed hkey (by decide)

theorem accountedFor_of_bodyReport (hkey : IsKeyId key) (h : FieldMappings.BodyReport event) :
    event.AccountedFor key chain request outcomes := by
  intro field hfield
  cases h with
  | fault fault =>
    obtain rfl := List.mem_singleton.mp hfield
    cases fault <;> exact .of_fixed hkey (by decide)
  | decoded decoder size =>
    simp only [List.mem_cons, List.not_mem_nil, or_false] at hfield
    rcases hfield with rfl | rfl
    · rcases decoder with family | _
      · cases family <;> exact .of_fixed hkey (by decide)
      · exact .of_fixed hkey (by decide)
    · exact .of_lower hkey (not_mem_toString size)

theorem accountedFor_of_status (hkey : IsKeyId key) {outcome : Outcome}
    (houtcome : outcome ∈ outcomes)
    (h : event ∈ TracingSink.endEvents (spanStatus outcome.response outcome.failure)) :
    event.AccountedFor key chain request outcomes := by
  intro field hfield
  unfold spanStatus at h
  split at h
  · next cause hcause =>
    obtain rfl := List.mem_singleton.mp h
    obtain rfl := List.mem_singleton.mp hfield
    exact .of_asIs (.failure houtcome hcause)
  · next status _ _ =>
    split at h
    · cases h
    · obtain rfl := List.mem_singleton.mp h
      obtain rfl := List.mem_singleton.mp hfield
      have hdigits : 'A' ∉ ("HTTP " ++ toString status.toNat).toList := by
        rw [String.toList_append, List.mem_append, not_or]
        exact ⟨by decide, not_mem_toString status.toNat⟩
      exact .of_lower hkey hdigits
  · cases h

/-! ### The chain -/

variable {allowed : Event → Prop} (hkey : IsKeyId key)
  (hallowed : ∀ event : Event, event.AccountedFor key chain request outcomes → allowed event)

include hkey hallowed

theorem readable_of_payload {root : Payload} (hroot : PayloadOf request outcomes root) :
    root.Readable AccessorCache.Discovered allowed where
  discovered := fun _ hcache => hcache
  profile := fun _ hcache => hcache.profile root
  reports := fun _ hreport => hallowed _ (accountedFor_of_reports hkey hroot hreport)

theorem keeps_phase {phase : FieldMappings.Phase} (hrequest : phase.request = request)
    (hroot : PayloadOf request outcomes phase.root) (htable : phase.Tabled) :
    phase.Keeps (Session.Logs allowed) where
  model := by
    intro _
    have hreadable := readable_of_payload hkey hallowed .request
    rw [hrequest]
    exact (hreadable.maintains_read (by decide)).imp fun _ _ => trivial
  field := by
    intro mapping hmapping
    obtain ⟨field, hpath, hcanonical⟩ := path_of_mem (htable mapping hmapping).1
    rw [hpath, Session.resolve_singleton]
    have hreadable := readable_of_payload hkey hallowed hroot
    exact (hreadable.maintains_read hcanonical).imp fun _ _ => trivial
  report := fun _ hreport => maintains_report (hallowed _ (accountedFor_of_bodyReport hkey hreport))

theorem maintains_onStart (capture : CaptureSettings) :
    Maintains (Session.Logs allowed)
      ((ExtractorChain.ofCapture capture).onStart request)
      (LogReady (.ofCapture capture) request outcomes) := by
  have hkeeps : (FieldMappings.startPhase request).Keeps
      (Session.Logs allowed) :=
    keeps_phase hkey hallowed rfl .request (FieldMappings.tabled_startPhase request)
  intro session hsession
  obtain ⟨hkept, hwritten⟩ := ExtractorChain.written_onStart capture hkeeps session hsession
  refine ⟨hkept, fun entry hentry => ⟨?_, Or.inl ⟨session, hentry⟩⟩⟩
  exact hasStem_phaseNames (hwritten.of_mem entry hentry).listed

theorem maintains_onEnd (capture : CaptureSettings) {outcome : Outcome}
    (houtcome : outcome ∈ outcomes) :
    Maintains (Session.Logs allowed)
      ((ExtractorChain.ofCapture capture).onEnd request outcome)
      (LogReady (.ofCapture capture) request outcomes) := by
  have hreport : ∀ response, outcome.response = some response → ∀ event,
      SdkFacts.HeaderReport response event →
      Maintains (Session.Logs allowed) (Session.report event)
        fun _ => True := by
    intro response hresponse event hreport
    exact maintains_report
      (hallowed event (accountedFor_of_headerReport hkey houtcome hresponse hreport))
  have hkeeps : ∀ root, outcome.response.bind (·.payload) = some root →
      (FieldMappings.endPhase request root).Keeps
        (Session.Logs allowed) := by
    intro root hroot
    exact keeps_phase hkey hallowed rfl (.response houtcome hroot)
      (FieldMappings.tabled_endPhase request root)
  intro session hsession
  obtain ⟨hkept, hwritten⟩ :=
    ExtractorChain.written_onEnd capture hreport hkeeps session hsession
  refine ⟨hkept, fun entry hentry => ⟨?_, Or.inr ⟨outcome, houtcome, session, hentry⟩⟩⟩
  exact hasStem_phaseNames (hwritten.of_mem entry hentry).listed

end

end CallTracing
