/-
  CallTracing/Proofs/Extract/Chain.lean
  =====================================
  **The standard chain as one reading.**

  None of the standard extractors fails, so nothing is lost where their attributes are merged: the
  chain reads what its extractors read, in order, and merges three sets, of which one stays empty
  where its extractor is switched off (`onStart_ofCapture`, `onEnd_ofCapture`).

  Two of the extractors look at the envelope of the call and nothing else, and write attributes of
  its own (`envelopeNames`).  What may be wrong there is a token count; where one is accepted, it is
  a whole number of 64 bits (`isInt64_of_parseInt64`).
-/
import CallTracing.Extract.Chain
import CallTracing.Proofs.Extract.Mappings

namespace CallTracing

open AttributeSet Names Reading

/-! ### Token counts -/

theorem isInt64_of_readDigits {negative : Bool} {value count : Int} {digits : List Char}
    (hvalue : IsInt64 value) (h : readDigits negative value digits = .ok count) :
    IsInt64 count := by
  induction digits generalizing value with
  | nil =>
    obtain rfl := Except.ok.inj h
    exact hvalue
  | cons c rest ih =>
    unfold readDigits at h
    dsimp only at h
    generalize (if negative then value * 10 - ((c.toNat : Int) - '0'.toNat)
      else value * 10 + ((c.toNat : Int) - '0'.toNat)) = next at h
    split at h
    · cases h
    · split at h
      · cases h
      · next hsmall =>
        split at h
        · cases h
        · next hlarge =>
          have hbound : Int.pow 2 63 = 9223372036854775808 := by decide
          rw [hbound] at hsmall hlarge
          refine ih ?_ h
          unfold IsInt64
          omega

/-- A text that is read as a whole number is one of 64 bits. -/
theorem isInt64_of_parseInt64 {text : List Char} {count : Int} (h : parseInt64 text = .ok count) :
    IsInt64 count := by
  have hzero : IsInt64 0 := by unfold IsInt64; decide
  unfold parseInt64 at h
  split at h
  · cases h
  · cases h
  · cases h
  · exact isInt64_of_readDigits hzero h
  · exact isInt64_of_readDigits hzero h
  · exact isInt64_of_readDigits hzero h

/-! ### The envelope of a call -/

/-- The attributes that are not read off payloads. -/
def envelopeNames : Direction → List String
  | .request =>
    [rpcSystem, rpcService, rpcMethod, codeFunction, codeNamespace, serverAddress, urlPath,
      clientAddress, httpRequestMethod, userAgentHeader, urlScheme, networkPeerAddress, agent,
      endpoint]
  | .response => [httpResponseStatusCode, errorType, exceptionMessage, requestId]

section

variable {allowed : String → AttributeValue → Prop} {set : AttributeSet}

theorem AttributeSet.Written.putKnown (h : Written allowed set) {fact : String × Option String}
    (hvalue : ∀ text, text ≠ "" → allowed fact.1 (.text text)) :
    Written allowed (RpcFacts.putKnown set fact) := by
  unfold RpcFacts.putKnown
  split
  · exact h.putNonEmpty (hvalue _)
  · exact h

theorem RpcFacts.written_startAttributes (request : Request)
    (htext : ∀ name ∈ envelopeNames .request, ∀ text, text ≠ "" → allowed name (.text text)) :
    Written allowed (RpcFacts.startAttributes request) := by
  have hnames : ∀ name ∈ (requestFacts request).map (·.1), name ∈ envelopeNames .request := by
    unfold requestFacts
    cases request.http with
    | none =>
      show ∀ name ∈ [rpcService, rpcMethod, codeFunction, codeNamespace], _
      decide
    | some http =>
      show ∀ name ∈ [rpcService, rpcMethod, codeFunction, codeNamespace, serverAddress, urlPath,
        clientAddress, httpRequestMethod, userAgentHeader, urlScheme, networkPeerAddress], _
      decide
  have hsystem : allowed rpcSystem (.text rpcSystemValue) :=
    htext rpcSystem (by decide) rpcSystemValue (by decide)
  refine (Written.empty.put hsystem).foldl fun set fact hfact hset => hset.putKnown ?_
  exact htext fact.1 (hnames fact.1 (List.mem_map_of_mem hfact))

theorem RpcFacts.written_endAttributes (outcome : Outcome)
    (hstatus : ∀ code : UInt16, allowed httpResponseStatusCode (.int code.toNat))
    (htext : ∀ name ∈ [errorType, exceptionMessage], ∀ text, text ≠ "" →
      allowed name (.text text)) :
    Written allowed (RpcFacts.endAttributes outcome) := by
  unfold endAttributes
  extract_lets set
  have hset : Written allowed set := by
    dsimp only [set]
    split
    · exact Written.empty.put (hstatus _)
    · exact .empty
  split
  · refine (hset.putNonEmpty ?_).putNonEmpty ?_
    · exact htext errorType (by decide) _
    · exact htext exceptionMessage (by decide) _
  · exact hset

theorem SdkFacts.written_startAttributes (request : Request)
    (htext : ∀ name ∈ envelopeNames .request, ∀ text, text ≠ "" → allowed name (.text text)) :
    Written allowed (SdkFacts.startAttributes request) := by
  have hagent : allowed agent (.text agentValue) :=
    htext agent (by decide) agentValue (by decide)
  exact (Written.empty.put hagent).putNonEmpty (htext endpoint (by decide) _)

end

namespace SdkFacts

variable {inv : Session → Prop} {post : AttributeSet → Prop}

/-- What reading the token counts of a response may report. -/
inductive HeaderReport (response : Response) : Event → Prop where
  | refused {header raw : String} {fault : IntegerFault}
      (hheader : header = inputTokenHeader ∨ header = outputTokenHeader)
      (hraw : response.header? header = some raw)
      (hfault : parseInt64 (Text.trimmed raw.toList) = .error fault) :
      HeaderReport response ⟨.debug, .tokenHeaders, "unparseable token count header",
        [("header", header), ("value", raw), ("error", fault.message)]⟩

theorem maintains_putTokenHeader {response : Response} {set : AttributeSet} {header target : String}
    (hreport : ∀ event, HeaderReport response event →
      Maintains inv (Session.report event) fun _ => True)
    (hheader : header = inputTokenHeader ∨ header = outputTokenHeader) (hset : post set)
    (hcount : ∀ count, IsInt64 count → post (set.put target (.text (toString count)))) :
    Maintains inv (putTokenHeader response set header target) post := by
  unfold putTokenHeader
  split
  · exact maintains_pure hset
  · next raw hraw =>
    split
    · next count hparse => exact maintains_pure (hcount count (isInt64_of_parseInt64 hparse))
    · next fault hfault =>
      exact (hreport _ (.refused hheader hraw hfault)).bind fun _ _ => maintains_pure hset

/-- What is written after the call: the identifier of the request, then counts if they are asked
for. -/
theorem maintains_endAttributes {tokenHeaders : Bool} {request : Request} {outcome : Outcome}
    (hreport : ∀ response, outcome.response = some response → ∀ event,
      HeaderReport response event → Maintains inv (Session.report event) fun _ => True)
    (hfirst : post (RpcFacts.putKnown .empty
      (requestId, outcome.response.bind (·.requestId))))
    (hcount : tokenHeaders = true → ∀ set target count,
      target = GenAi.usagePromptTokens ∨ target = GenAi.usageCompletionTokens → IsInt64 count →
      post set → post (set.put target (.text (toString count)))) :
    Maintains inv (endAttributes tokenHeaders request outcome) post := by
  unfold endAttributes
  split
  · next hresponse =>
    rw [hresponse] at hfirst
    exact maintains_pure hfirst
  · next response hresponse =>
    have hbase : post (RpcFacts.putKnown .empty (requestId, response.requestId)) := by
      rw [hresponse] at hfirst
      exact hfirst
    dsimp only
    split
    · next hasked =>
      have htokens : tokenHeaders = true := (Bool.and_eq_true _ _ ▸ hasked).1
      have hput := hcount htokens
      refine (maintains_putTokenHeader (hreport response hresponse) (Or.inl rfl) hbase
        fun count hvalue => hput _ _ count (Or.inl rfl) hvalue hbase).bind ?_
      intro set hset
      exact maintains_putTokenHeader (hreport response hresponse) (Or.inr rfl) hset
        fun count hvalue => hput _ _ count (Or.inr rfl) hvalue hset
    · exact maintains_pure hbase

end SdkFacts

/-! ### The chain -/

/-- A reading that is made only where it is asked for. -/
def Reading.optional (asked : Bool) (m : Reading AttributeSet) : Reading AttributeSet :=
  if asked then m else pure .empty

theorem Reading.maintains_optional {inv : Session → Prop} {m : Reading AttributeSet}
    {post : AttributeSet → Prop} {asked : Bool}
    (h : asked = true → Maintains inv m post) (hempty : post .empty) :
    Maintains inv (optional asked m) post := by
  cases asked with
  | true => exact h rfl
  | false => exact maintains_pure hempty

namespace ExtractorChain

/-- The merge of what the three standard extractors wrote. -/
def merged (rpc sdk fields : AttributeSet) : AttributeSet :=
  ((AttributeSet.empty.extend rpc).extend sdk).extend fields

theorem onStart_ofCapture (capture : CaptureSettings) (request : Request) :
    (ofCapture capture).onStart request = (do
      let rpc ← optional capture.rpc (pure (RpcFacts.startAttributes request))
      let sdk ← optional capture.awsSdk (pure (SdkFacts.startAttributes request))
      let fields ← optional capture.fieldMappings
        (FieldMappings.startAttributes capture.genAi request)
      pure (merged rpc sdk fields)) := by
  obtain ⟨awsSdk, fieldMappings, genAi, rpc⟩ := capture
  cases awsSdk <;> cases fieldMappings <;> cases rpc <;> rfl

theorem onEnd_ofCapture (capture : CaptureSettings) (request : Request) (outcome : Outcome) :
    (ofCapture capture).onEnd request outcome = (do
      let rpc ← optional capture.rpc (pure (RpcFacts.endAttributes outcome))
      let sdk ← optional capture.awsSdk (SdkFacts.endAttributes capture.genAi request outcome)
      let fields ← optional capture.fieldMappings
        (FieldMappings.endAttributes capture.genAi request outcome)
      pure (merged rpc sdk fields)) := by
  obtain ⟨awsSdk, fieldMappings, genAi, rpc⟩ := capture
  cases awsSdk <;> cases fieldMappings <;> cases rpc <;> rfl

/-- What the parts of the chain keep and give, the chain does. -/
theorem maintains_merged {inv : Session → Prop} {rpc sdk fields : Reading AttributeSet}
    {postRpc postSdk postFields post : AttributeSet → Prop} (hrpc : Maintains inv rpc postRpc)
    (hsdk : Maintains inv sdk postSdk) (hfields : Maintains inv fields postFields)
    (hpost : ∀ a b c, postRpc a → postSdk b → postFields c → post (merged a b c)) :
    Maintains inv (do
      let a ← rpc
      let b ← sdk
      let c ← fields
      pure (merged a b c)) post :=
  hrpc.bind fun a ha => hsdk.bind fun b hb => hfields.bind fun c hc =>
    maintains_pure (hpost a b c ha hb hc)

end ExtractorChain

end CallTracing
