/-
  CallTracing/Proofs/Extract/WireContract.lean
  ============================================
  **What backends can rely on**: the names and the values that the standard chain writes.

  The names are listed for both points at which a call is looked at (`phaseNames`).  Values are texts
  that are not empty, but for the HTTP status; and the counts of tokens are decimal texts of whole
  numbers of 64 bits, whether they come from a body or from a header.  `Admissible` says this of one
  attribute.

  Every extractor writes its attributes one by one.  So each of them is gone through once, and what
  the chain merges is admissible because the parts are.
-/
import CallTracing.Proofs.Extract.Chain

namespace CallTracing

open AttributeSet Names Reading

/-! ### The contract -/

/-- The attributes that fields of a payload are mapped to. -/
def mappedNames : Direction → List String
  | .request =>
    [bucketName, queueUrl, queueName, streamName, streamArn, streamConsumerName, tableName,
      messagingDestination, stateMachineArn, activityArn, lambdaFunctionName,
      lambdaResourceMappingId, guardrailId, bedrockAgentId, dataSourceId, knowledgeBaseId,
      GenAi.requestModel, GenAi.requestTemperature, GenAi.requestTopP, GenAi.requestMaxTokens]
  | .response =>
    [secretArn, guardrailId, bedrockAgentId, dataSourceId, knowledgeBaseId,
      GenAi.responseFinishReason, GenAi.usagePromptTokens, GenAi.usageCompletionTokens]

/-- The attributes that can be written before a call, and after it. -/
def phaseNames (direction : Direction) : List String :=
  envelopeNames direction ++ mappedNames direction ++ [GenAi.system]

/-- The attributes that are counts of tokens. -/
def countNames : List String :=
  [GenAi.requestMaxTokens, GenAi.usagePromptTokens, GenAi.usageCompletionTokens]

/-- An attribute as backends expect it. -/
structure Admissible (direction : Direction) (name : String) (value : AttributeValue) : Prop where
  listed : name ∈ phaseNames direction
  status : name = httpResponseStatusCode → ∃ code : Nat, code ≤ 65535 ∧ value = .int code
  text : name ≠ httpResponseStatusCode → ∃ text, text ≠ "" ∧ value = .text text
  count : name ∈ countNames → ∃ n, IsInt64 n ∧ value = .text (toString n)

variable {direction : Direction} {name : String} {text : String}

namespace Admissible

theorem of_text (hlisted : name ∈ phaseNames direction)
    (hplain : name ∉ httpResponseStatusCode :: countNames) (htext : text ≠ "") :
    Admissible direction name (.text text) where
  listed := hlisted
  status := fun hname => absurd (hname ▸ List.mem_cons_self) hplain
  text := fun _ => ⟨text, htext, rfl⟩
  count := fun hname => absurd (List.mem_cons_of_mem _ hname) hplain

theorem of_count {n : Int} (hlisted : name ∈ phaseNames direction) (hname : name ∈ countNames)
    (hn : IsInt64 n) : Admissible direction name (.text (toString n)) where
  listed := hlisted
  status := by
    rintro rfl
    exact absurd hname (by decide)
  text := fun _ => ⟨_, toString_int_ne_empty n, rfl⟩
  count := fun _ => ⟨n, hn, rfl⟩

theorem of_status (code : UInt16) :
    Admissible .response httpResponseStatusCode (.int code.toNat) where
  listed := by decide
  status := fun _ => ⟨code.toNat, Nat.le_of_lt_succ code.toNat_lt, rfl⟩
  text := fun hname => absurd rfl hname
  count := fun hname => absurd hname (by decide)

theorem of_bodyFact {value : AttributeValue} (h : BodyFact direction name value) :
    Admissible direction name value := by
  cases h with
  | maxTokens hn => exact of_count (by decide) (by decide) hn
  | temperature n => exact of_text (by decide) (by decide) n.text_ne_empty
  | topP n => exact of_text (by decide) (by decide) n.text_ne_empty
  | finishReason hreason => exact of_text (by decide) (by decide) hreason
  | promptTokens hn => exact of_count (by decide) (by decide) hn
  | completionTokens hn => exact of_count (by decide) (by decide) hn

end Admissible

/-! ### The extractors -/

theorem Admissible.of_envelope (h : name ∈ envelopeNames direction)
    (hname : name ≠ httpResponseStatusCode) (htext : text ≠ "") :
    Admissible direction name (.text text) := by
  have hplain : ∀ direction, ∀ name ∈ envelopeNames direction, name ≠ httpResponseStatusCode →
      name ∉ httpResponseStatusCode :: countNames := by
    intro direction
    cases direction <;> decide
  have hlisted : name ∈ phaseNames direction :=
    List.mem_append_left _ (List.mem_append_left _ h)
  exact .of_text hlisted (hplain direction name h hname) htext

theorem Admissible.of_start : ∀ name ∈ envelopeNames .request, ∀ text, text ≠ "" →
    Admissible .request name (.text text) := by
  intro name hname text htext
  have hstatus : ∀ name ∈ envelopeNames .request, name ≠ httpResponseStatusCode := by decide
  exact .of_envelope hname (hstatus name hname) htext

theorem Admissible.of_end : ∀ name ∈ [errorType, exceptionMessage], ∀ text, text ≠ "" →
    Admissible .response name (.text text) := by
  intro name hname text htext
  have htable : ∀ name ∈ [errorType, exceptionMessage],
      name ∈ envelopeNames .response ∧ name ≠ httpResponseStatusCode := by decide
  obtain ⟨hlisted, hstatus⟩ := htable name hname
  exact .of_envelope hlisted hstatus htext

section

variable {inv : Session → Prop}

theorem SdkFacts.written_endAttributes (tokenHeaders : Bool) (request : Request)
    {outcome : Outcome} (hreport : ∀ response, outcome.response = some response → ∀ event,
      HeaderReport response event → Maintains inv (Session.report event) fun _ => True) :
    Maintains inv (SdkFacts.endAttributes tokenHeaders request outcome)
      (Written (Admissible .response)) := by
  refine maintains_endAttributes hreport ?_ ?_
  · have hlisted : requestId ∈ envelopeNames .response := by decide
    have hstatus : requestId ≠ httpResponseStatusCode := by decide
    exact Written.empty.putKnown fun _ => .of_envelope hlisted hstatus
  · rintro - set target n (rfl | rfl) hn hset
    · exact hset.put (.of_count (by decide) (by decide) hn)
    · exact hset.put (.of_count (by decide) (by decide) hn)

namespace FieldMappings

theorem admissible_of_mem {mapping : FieldMapping} (hmem : mapping ∈ mappingTable)
    (hplain : mapping.isStructured = false) (htext : text ≠ "") :
    Admissible mapping.direction mapping.target (.text text) := by
  have htable : ∀ mapping ∈ mappingTable, mapping.isStructured = false →
      mapping.target ∈ phaseNames mapping.direction ∧
        mapping.target ∉ httpResponseStatusCode :: countNames := by decide
  obtain ⟨hlisted, hother⟩ := htable mapping hmem hplain
  exact .of_text hlisted hother htext

/-- The walk over mappings of the tables writes admissible attributes, whatever is read. -/
theorem written_extract (genAi : Bool) {phase : Phase} (hkeeps : phase.Keeps inv)
    (htable : phase.Tabled) :
    Maintains inv (extract genAi phase) (Written (Admissible phase.direction)) := by
  have hcarries : phase.Carries inv genAi fun _ set _ =>
      Written (Admissible phase.direction) set := {
    keeps := hkeeps
    skip := fun _ hset => hset
    fact := fun _ _ hvalue hset => hset.put (.of_bodyFact hvalue)
    plain := by
      intro mapping rest set wrote hmapping hplain hset
      obtain ⟨hmem, hdirection⟩ := htable mapping hmapping
      refine maintains_applyPlain (hkeeps.field mapping hmapping) fun read _ =>
        hset.putKnown fun text htext => ?_
      rw [← hdirection]
      exact admissible_of_mem hmem hplain htext }
  refine (maintains_extract hcarries .empty).imp ?_
  rintro set ⟨before, wrote, hbefore, rfl⟩
  have hsystem : Admissible phase.direction GenAi.system (.text GenAi.systemValue) := by
    refine .of_text ?_ (by decide) (by decide)
    exact List.mem_append_right _ (List.mem_singleton_self _)
  cases wrote with
  | true => exact hbefore.put hsystem
  | false => exact hbefore

theorem written_startAttributes (genAi : Bool) {request : Request}
    (hkeeps : (startPhase request).Keeps inv) :
    Maintains inv (startAttributes genAi request) (Written (Admissible .request)) :=
  written_extract genAi hkeeps (tabled_startPhase request)

theorem written_endAttributes (genAi : Bool) {request : Request} {outcome : Outcome}
    (hkeeps : ∀ root, outcome.response.bind (·.payload) = some root →
      (endPhase request root).Keeps inv) :
    Maintains inv (endAttributes genAi request outcome) (Written (Admissible .response)) := by
  cases hroot : outcome.response.bind (·.payload) with
  | none =>
    rw [endAttributes_of_none genAi request hroot]
    exact maintains_pure .empty
  | some root =>
    rw [endAttributes_of_some genAi request hroot]
    exact written_extract genAi (hkeeps root hroot) (tabled_endPhase request root)

theorem Phase.keeps_trivial (phase : Phase) : phase.Keeps fun _ => True where
  model := fun _ => maintains_trivial _
  field := fun _ _ => maintains_trivial _
  report := fun _ _ => maintains_trivial _

end FieldMappings

/-! ### The chain -/

namespace ExtractorChain

theorem written_merged {a b c : AttributeSet} (ha : Written (Admissible direction) a)
    (hb : Written (Admissible direction) b) (hc : Written (Admissible direction) c) :
    Written (Admissible direction) (merged a b c) :=
  ((Written.empty.extend ha).extend hb).extend hc

theorem written_onStart (capture : CaptureSettings) {request : Request}
    (hkeeps : (FieldMappings.startPhase request).Keeps inv) :
    Maintains inv ((ofCapture capture).onStart request) (Written (Admissible .request)) := by
  rw [onStart_ofCapture]
  refine maintains_merged ?_ ?_ ?_ fun _ _ _ => written_merged
  · have hrpc := RpcFacts.written_startAttributes request Admissible.of_start
    exact maintains_optional (fun _ => maintains_pure hrpc) .empty
  · have hsdk := SdkFacts.written_startAttributes request Admissible.of_start
    exact maintains_optional (fun _ => maintains_pure hsdk) .empty
  · exact maintains_optional
      (fun _ => FieldMappings.written_startAttributes capture.genAi hkeeps) .empty

theorem written_onEnd (capture : CaptureSettings) {request : Request} {outcome : Outcome}
    (hreport : ∀ response, outcome.response = some response → ∀ event,
      SdkFacts.HeaderReport response event → Maintains inv (Session.report event) fun _ => True)
    (hkeeps : ∀ root, outcome.response.bind (·.payload) = some root →
      (FieldMappings.endPhase request root).Keeps inv) :
    Maintains inv ((ofCapture capture).onEnd request outcome)
      (Written (Admissible .response)) := by
  rw [onEnd_ofCapture]
  refine maintains_merged ?_ ?_ ?_ fun _ _ _ => written_merged
  · have hrpc := RpcFacts.written_endAttributes outcome Admissible.of_status Admissible.of_end
    exact maintains_optional (fun _ => maintains_pure hrpc) .empty
  · exact maintains_optional
      (fun _ => SdkFacts.written_endAttributes capture.genAi request hreport) .empty
  · exact maintains_optional
      (fun _ => FieldMappings.written_endAttributes capture.genAi hkeeps) .empty

/-- **The standard chain writes admissible attributes only**, whatever it captures, whatever the
call is, and in every session. -/
theorem admissible_ofCapture (capture : CaptureSettings) (request : Request) (outcome : Outcome)
    (session : Session) :
    (∀ entry ∈ (((ofCapture capture).onStart request).run session).1.entries,
        Admissible .request entry.1 entry.2) ∧
      ∀ entry ∈ (((ofCapture capture).onEnd request outcome).run session).1.entries,
        Admissible .response entry.1 entry.2 := by
  have hstart := written_onStart capture (FieldMappings.startPhase request).keeps_trivial
  have hend : Maintains (fun _ => True) ((ofCapture capture).onEnd request outcome)
      (Written (Admissible .response)) :=
    written_onEnd capture (fun _ _ _ _ => maintains_trivial _)
      fun root _ => (FieldMappings.endPhase request root).keeps_trivial
  exact ⟨(hstart session trivial).2.of_mem, (hend session trivial).2.of_mem⟩

end ExtractorChain

end

end CallTracing
