/-
  CallTracing/Proofs/Extract/TokenCounts.lean
  ===========================================
  **Where the token counts of a response come from.**

  A model says how many tokens it read and wrote in the body of its response, and its service says so
  in two headers.  The chain merges what was read off the headers first and what was read out of the
  body last, so the body decides where it has a count, each count by itself (`Counted`).

  The headers of a response are described without the order in which they are looked up, for which
  no two of them may have one name (`Headers.Distinct`); and a count in a header without the loop
  that reads it, as a numeral with at most one sign (`parseInt64_eq_ok_iff`).
-/
import CallTracing.Proofs.Extract.BodySnapshot
import CallTracing.Proofs.Extract.GenAiSwitch

namespace CallTracing

open AttributeSet Names Reading

/-! ### Whole numbers in text -/

/-- The value of decimal digits that follow others of some value. -/
def digitsFrom (value : Nat) (digits : List Char) : Nat :=
  digits.foldl (fun value c => value * 10 + (c.toNat - '0'.toNat)) value

/-- Decimal numerals: one digit or more, with at most one sign in front. -/
inductive Numeral : List Char → Int → Prop where
  | plain {digits : List Char} (hne : digits ≠ []) (hdigits : ∀ c ∈ digits, c.isDigit = true) :
      Numeral digits (digitsFrom 0 digits)
  | plus {digits : List Char} (hne : digits ≠ []) (hdigits : ∀ c ∈ digits, c.isDigit = true) :
      Numeral ('+' :: digits) (digitsFrom 0 digits)
  | minus {digits : List Char} (hne : digits ≠ []) (hdigits : ∀ c ∈ digits, c.isDigit = true) :
      Numeral ('-' :: digits) (-(digitsFrom 0 digits : Int))

theorem le_digitsFrom (value : Nat) (digits : List Char) : value ≤ digitsFrom value digits := by
  induction digits generalizing value with
  | nil => exact Nat.le_refl value
  | cons c rest ih =>
    have hrest := ih (value * 10 + (c.toNat - '0'.toNat))
    show value ≤ digitsFrom (value * 10 + (c.toNat - '0'.toNat)) rest
    omega

/-- A value with its sign. -/
def signed (negative : Bool) (value : Nat) : Int := if negative then -value else value

theorem signed_next (negative : Bool) (value : Nat) {c : Char} (hc : c.isDigit = true) :
    (if negative then signed negative value * 10 - ((c.toNat : Int) - '0'.toNat)
      else signed negative value * 10 + ((c.toNat : Int) - '0'.toNat)) =
        signed negative (value * 10 + (c.toNat - '0'.toNat)) := by
  have hlow : '0'.toNat ≤ c.toNat := by
    rw [Char.isDigit, Bool.and_eq_true, decide_eq_true_eq, decide_eq_true_eq] at hc
    exact hc.1
  unfold signed
  cases negative with
  | true =>
    simp only [if_true]
    omega
  | false =>
    simp only [Bool.false_eq_true, if_false]
    omega

/-- The loop gives up at the first digit that leads out of the range; with more digits the value
would not come back into it. -/
theorem readDigits_eq_ok_iff {negative : Bool} {value : Nat} {digits : List Char} {n : Int}
    (hvalue : IsInt64 (signed negative value)) :
    readDigits negative (signed negative value) digits = .ok n ↔
      (∀ c ∈ digits, c.isDigit = true) ∧ n = signed negative (digitsFrom value digits) ∧
        IsInt64 n := by
  induction digits generalizing value with
  | nil =>
    show Except.ok (signed negative value) = Except.ok n ↔ _
    constructor
    · rintro ⟨⟩
      exact ⟨List.forall_mem_nil _, rfl, hvalue⟩
    · rintro ⟨-, rfl, -⟩
      rfl
  | cons c rest ih =>
    by_cases hc : c.isDigit = true
    · have hbound : Int.pow 2 63 = 9223372036854775808 := by decide
      have hgrown := le_digitsFrom (value * 10 + (c.toNat - '0'.toNat)) rest
      have hdigits : digitsFrom value (c :: rest) =
          digitsFrom (value * 10 + (c.toNat - '0'.toNat)) rest := rfl
      unfold readDigits
      rw [hdigits, List.forall_mem_cons]
      simp only [hc, Bool.not_true, Bool.false_eq_true, if_false, true_and]
      rw [signed_next negative value hc, hbound]
      generalize value * 10 + (c.toNat - '0'.toNat) = next at hgrown ⊢
      by_cases hnext : IsInt64 (signed negative next)
      · have hsmall : ¬signed negative next < -9223372036854775808 := by
          unfold IsInt64 at hnext
          omega
        have hlarge : ¬9223372036854775808 ≤ signed negative next := by
          unfold IsInt64 at hnext
          omega
        rw [if_neg hsmall, if_neg hlarge]
        exact ih hnext
      · have hout : ¬IsInt64 (signed negative (digitsFrom next rest)) := by
          unfold IsInt64 signed at hnext ⊢
          cases negative with
          | true =>
            simp only [if_true] at hnext ⊢
            omega
          | false =>
            simp only [Bool.false_eq_true, if_false] at hnext ⊢
            omega
        have hright : ¬((∀ c ∈ rest, c.isDigit = true) ∧
            n = signed negative (digitsFrom next rest) ∧ IsInt64 n) := by
          rintro ⟨-, rfl, hn⟩
          exact hout hn
        refine iff_of_false ?_ hright
        split
        · simp
        · next hsmall =>
          split
          · simp
          · next hlarge =>
            refine absurd ?_ hnext
            unfold IsInt64
            omega
    · unfold readDigits
      rw [List.forall_mem_cons]
      simp [hc]

theorem parseInt64_of_isDigit {c : Char} {rest : List Char} (hc : c.isDigit = true) :
    parseInt64 (c :: rest) = readDigits false 0 (c :: rest) := by
  unfold parseInt64
  split
  · cases ‹c :: rest = []›
  · cases ‹c :: rest = ['+']›
    cases hc
  · cases ‹c :: rest = ['-']›
    cases hc
  · cases ‹c :: rest = '+' :: _›
    cases hc
  · cases ‹c :: rest = '-' :: _›
    cases hc
  · rfl

/-- What is read as a whole number of 64 bits: the numerals in range. -/
theorem parseInt64_eq_ok_iff {text : List Char} {n : Int} :
    parseInt64 text = .ok n ↔ Numeral text n ∧ IsInt64 n := by
  have hzero : IsInt64 0 := by unfold IsInt64; decide
  have hread : ∀ negative digits, readDigits negative 0 digits = .ok n ↔
      (∀ c ∈ digits, c.isDigit = true) ∧ n = signed negative (digitsFrom 0 digits) ∧
        IsInt64 n := by
    intro negative digits
    cases negative with
    | true => exact @readDigits_eq_ok_iff true 0 digits n hzero
    | false => exact @readDigits_eq_ok_iff false 0 digits n hzero
  constructor
  · intro h
    unfold parseInt64 at h
    split at h
    · cases h
    · cases h
    · cases h
    · next digits hne =>
      obtain ⟨hdigits, rfl, hn⟩ := (hread false digits).mp h
      exact ⟨.plus (fun hnil => hne (by rw [hnil])) hdigits, hn⟩
    · next digits hne =>
      obtain ⟨hdigits, rfl, hn⟩ := (hread true digits).mp h
      exact ⟨.minus (fun hnil => hne (by rw [hnil])) hdigits, hn⟩
    · next hne _ _ _ _ =>
      obtain ⟨hdigits, rfl, hn⟩ := (hread false text).mp h
      exact ⟨.plain hne hdigits, hn⟩
  · rintro ⟨hnumeral, hn⟩
    cases hnumeral with
    | plain hne hdigits =>
      obtain ⟨c, rest, rfl⟩ := List.exists_cons_of_ne_nil hne
      rw [parseInt64_of_isDigit (hdigits c List.mem_cons_self)]
      exact (hread false (c :: rest)).mpr ⟨hdigits, rfl, hn⟩
    | @plus digits hne hdigits =>
      obtain ⟨c, rest, rfl⟩ := List.exists_cons_of_ne_nil hne
      exact (hread false (c :: rest)).mpr ⟨hdigits, rfl, hn⟩
    | @minus digits hne hdigits =>
      obtain ⟨c, rest, rfl⟩ := List.exists_cons_of_ne_nil hne
      exact (hread true (c :: rest)).mpr ⟨hdigits, rfl, hn⟩

/-! ### Headers -/

namespace Headers

variable {headers : Headers} {name value : String}

/-- Headers with one name each, however it is spelled. -/
def Distinct (headers : Headers) : Prop :=
  headers.Pairwise fun a b => Text.sameIgnoringAsciiCase a.1.toList b.1.toList = false

/-- With one name each, the order of the headers does not matter. -/
theorem find?_eq_some_iff (h : headers.Distinct) :
    headers.find? name = some value ↔
      ∃ key, (key, value) ∈ headers ∧ Text.sameIgnoringAsciiCase key.toList name.toList = true := by
  induction headers with
  | nil => simp [find?]
  | cons header rest ih =>
    obtain ⟨first, known⟩ := header
    obtain ⟨hother, hrest⟩ := List.pairwise_cons.mp h
    cases hfirst : Text.sameIgnoringAsciiCase first.toList name.toList with
    | true =>
      have hfind : find? ((first, known) :: rest) name = some known := by
        simp [find?, hfirst]
      rw [hfind]
      constructor
      · rintro ⟨⟩
        exact ⟨first, List.mem_cons_self, hfirst⟩
      · rintro ⟨key, hmem, hkey⟩
        rcases List.mem_cons.mp hmem with heq | hmem
        · rw [(Prod.mk.inj heq).2]
        · -- a second header of this name would have the name of the first one
          have hne := hother (key, value) hmem
          unfold Text.sameIgnoringAsciiCase at hne hfirst hkey
          rw [beq_iff_eq] at hfirst hkey
          rw [hfirst, ← hkey, beq_self_eq_true] at hne
          cases hne
    | false =>
      have hfind : find? ((first, known) :: rest) name = find? rest name := by
        simp [find?, hfirst]
      rw [hfind, ih hrest]
      refine exists_congr fun key => and_congr_left fun hkey => ?_
      have hne : (key, value) ≠ (first, known) := by
        rintro ⟨⟩
        rw [hfirst] at hkey
        cases hkey
      rw [List.mem_cons, or_iff_right hne]

/-- Whether headers hold a count under a name: a numeral of 64 bits, perhaps between blanks. -/
def Counts (headers : Headers) (name : String) (count : Int) : Prop :=
  ∃ key raw, (key, raw) ∈ headers ∧
    Text.sameIgnoringAsciiCase key.toList name.toList = true ∧
    Numeral (Text.trimmed raw.toList) count ∧ IsInt64 count

/-- The count under a name. -/
def count? (headers : Headers) (name : String) : Option Int :=
  (headers.find? name).bind fun raw => (parseInt64 (Text.trimmed raw.toList)).toOption

theorem toOption_eq_some_iff {ε α : Type} {result : Except ε α} {a : α} :
    result.toOption = some a ↔ result = .ok a := by
  cases result with
  | ok value => simp [Except.toOption]
  | error fault => simp [Except.toOption]

theorem count?_eq_some_iff (h : headers.Distinct) {count : Int} :
    headers.count? name = some count ↔ headers.Counts name count := by
  unfold count?
  rw [Option.bind_eq_some_iff]
  constructor
  · rintro ⟨raw, hfind, hparse⟩
    obtain ⟨key, hmem, hkey⟩ := (find?_eq_some_iff h).mp hfind
    obtain ⟨hnumeral, hrange⟩ := parseInt64_eq_ok_iff.mp (toOption_eq_some_iff.mp hparse)
    exact ⟨key, raw, hmem, hkey, hnumeral, hrange⟩
  · rintro ⟨key, raw, hmem, hkey, hnumeral, hrange⟩
    refine ⟨raw, (find?_eq_some_iff h).mpr ⟨key, hmem, hkey⟩, ?_⟩
    exact toOption_eq_some_iff.mpr (parseInt64_eq_ok_iff.mpr ⟨hnumeral, hrange⟩)

end Headers

/-! ### Two sources of a count -/

/-- Where a count comes from: the facts of a body if it is one of them, else the header of its name
if that holds one, else from nowhere. -/
inductive Counted (facts : AttributeSet) (headers : Headers) (header target : String) :
    Option AttributeValue → Prop where
  | body {value : AttributeValue} (hfact : facts.get? target = some value) :
      Counted facts headers header target (some value)
  | header {count : Int} (hfact : facts.get? target = none)
      (hcount : headers.Counts header count) :
      Counted facts headers header target (some (.text (toString count)))
  | absent (hfact : facts.get? target = none)
      (hcount : ∀ count, ¬headers.Counts header count) :
      Counted facts headers header target none

/-- The value of an attribute that holds a count. -/
def countValue (count : Int) : AttributeValue := .text (toString count)

/-- There is exactly one value that a count can have. -/
theorem counted_iff {facts : AttributeSet} {headers : Headers} (h : headers.Distinct)
    {header target : String} {value : Option AttributeValue} :
    Counted facts headers header target value ↔
      value = (facts.get? target).or ((headers.count? header).map countValue) := by
  constructor
  · rintro (hfact | ⟨hfact, hcount⟩ | ⟨hfact, hcount⟩)
    · rw [hfact, Option.some_or]
    · rw [hfact, Option.none_or, (Headers.count?_eq_some_iff h).mpr hcount]
      rfl
    · rw [hfact, Option.none_or]
      cases hfound : headers.count? header with
      | none => rfl
      | some count => exact absurd ((Headers.count?_eq_some_iff h).mp hfound) (hcount count)
  · rintro rfl
    cases hfact : facts.get? target with
    | some value => exact .body hfact
    | none =>
      cases hfound : headers.count? header with
      | some count => exact .header hfact ((Headers.count?_eq_some_iff h).mp hfound)
      | none =>
        refine .absent hfact fun count hcount => ?_
        rw [(Headers.count?_eq_some_iff h).mpr hcount] at hfound
        cases hfound

namespace SdkFacts

theorem get?_putTokenHeader (response : Response) (set : AttributeSet) (header target : String)
    (session : Session) (name : String) :
    ((putTokenHeader response set header target).run session).1.get? name =
      if target = name then ((response.headers.count? header).map countValue).or (set.get? name)
      else set.get? name := by
  unfold putTokenHeader Headers.count? Response.header?
  cases response.headers.find? header with
  | none => exact (ite_self _).symm
  | some raw =>
    dsimp only
    rw [Option.bind_some]
    cases parseInt64 (Text.trimmed raw.toList) with
    | ok count =>
      show (set.put target (countValue count)).get? name = _
      rw [get?_put]
      rfl
    | error fault => exact (ite_self _).symm

/-- Each header is written under its own name. -/
theorem get?_endAttributes {request : Request} {outcome : Outcome} {response : Response}
    (hservice : normalizedName request.service = modelServiceName)
    (hresponse : outcome.response = some response) (session : Session) :
    let set := ((endAttributes true request outcome).run session).1
    set.get? GenAi.usagePromptTokens =
        (response.headers.count? inputTokenHeader).map countValue ∧
      set.get? GenAi.usageCompletionTokens =
        (response.headers.count? outputTokenHeader).map countValue := by
  intro set
  let base := RpcFacts.putKnown .empty (requestId, response.requestId)
  have hbase : ∀ name, requestId ≠ name → base.get? name = none := by
    intro name hne
    rw [RpcFacts.get?_putKnown, if_neg hne]
    rfl
  have hset : set = ((do
      let after ← putTokenHeader response base inputTokenHeader GenAi.usagePromptTokens
      putTokenHeader response after outputTokenHeader GenAi.usageCompletionTokens :
        Reading AttributeSet).run session).1 := by
    show ((endAttributes true request outcome).run session).1 = _
    unfold endAttributes
    rw [hresponse]
    dsimp only
    rw [if_pos (by rw [hservice]; decide)]
    rfl
  let prompt := (putTokenHeader response base inputTokenHeader GenAi.usagePromptTokens).run session
  have hrun : set = ((putTokenHeader response prompt.1 outputTokenHeader
      GenAi.usageCompletionTokens).run prompt.2).1 := hset
  rw [hrun]
  constructor
  · rw [get?_putTokenHeader, if_neg (by decide)]
    show ((putTokenHeader response base inputTokenHeader GenAi.usagePromptTokens).run
      session).1.get? GenAi.usagePromptTokens = _
    rw [get?_putTokenHeader, if_pos rfl, hbase _ (by decide), Option.or_none]
  · rw [get?_putTokenHeader, if_pos rfl]
    have hother : prompt.1.get? GenAi.usageCompletionTokens = none := by
      show ((putTokenHeader response base inputTokenHeader GenAi.usagePromptTokens).run
        session).1.get? GenAi.usageCompletionTokens = none
      rw [get?_putTokenHeader, if_neg (by decide), hbase _ (by decide)]
    rw [hother, Option.or_none]

end SdkFacts

/-! ### The chain -/

namespace ExtractorChain

theorem get?_merged {rpc sdk fields : AttributeSet} (hrpc : (rpc.entries.map (·.1)).Nodup)
    (hsdk : (sdk.entries.map (·.1)).Nodup) (hfields : (fields.entries.map (·.1)).Nodup)
    (name : String) :
    (merged rpc sdk fields).get? name =
      (fields.get? name).or ((sdk.get? name).or (rpc.get? name)) := by
  unfold merged
  rw [get?_extend _ hfields, get?_extend _ hsdk, get?_extend _ hrpc, get?_empty, Option.or_none]

/-- The facts of the body of a response, as a cache shows it once the request was read. -/
def responseFacts (cache : AccessorCache) (request : Request) (response : Response) :
    AttributeSet :=
  FieldMappings.bodyFacts .response (cache.field? request.payload "modelId")
    (response.payload.bind fun root => (cache.profile request.payload).2.field? root "body")

/-- Where payloads keep their contract, these are the facts of the body itself. -/
theorem responseFacts_of_honours {cache : AccessorCache} {request : Request} {response : Response}
    (hrequest : cache.Honours request.payload)
    (hresponse : ∀ root, response.payload = some root →
      cache.Honours root ∧ request.payload.Agrees root) :
    responseFacts cache request response =
      FieldMappings.bodyFacts .response (request.payload.field? "modelId")
        (response.payload.bind (·.field? "body")) := by
  unfold responseFacts
  rw [hrequest.field? FieldMappings.isSome_modelId]
  cases hpayload : response.payload with
  | none => rfl
  | some root =>
    obtain ⟨hroot, hagrees⟩ := hresponse root hpayload
    rw [Option.bind_some, Option.bind_some,
      (hroot.profile hagrees).field? FieldMappings.isSome_body]

/-- The mapped fields give the facts of the body. -/
theorem get?_endAttributes_fields {request : Request} {outcome : Outcome} {response : Response}
    {session : Session} (htype : request.payload.typeName = "InvokeModelRequest")
    (hresponse : outcome.response = some response) (hrequest : request.payload.Repeatable)
    (hroot : ∀ root, response.payload = some root → root.Repeatable)
    (hcache : session.cache.Discovered) {name : String} (hname : GenAi.isStructured name = true) :
    ((FieldMappings.endAttributes true request outcome).run session).1.get? name =
      (responseFacts session.cache request response).get? name := by
  have hpayload : outcome.response.bind (·.payload) = response.payload := by rw [hresponse]; rfl
  unfold responseFacts
  cases hfound : response.payload with
  | none =>
    rw [FieldMappings.endAttributes_of_none true request (hpayload.trans hfound)]
    rfl
  | some root =>
    have hshows := (FieldMappings.oneSnapshot_endPhase htype hcache root).shows
    rw [Session.answerAfter_of_repeatable hrequest,
      Session.answerAfter_of_repeatable (hroot root hfound)] at hshows
    rw [FieldMappings.endAttributes_of_some true request (hpayload.trans hfound)]
    exact hshows.structured name hname

/-- The facts about the call hold no counts. -/
theorem get?_endAttributes_rpc (outcome : Outcome) {name : String}
    (hname : isDecoded name = true) : (RpcFacts.endAttributes outcome).get? name = none := by
  have htrims := (RpcFacts.trims_endAttributes outcome).get name
  rwa [if_pos hname] at htrims

/-- **Counts in the body win, and counts in headers fill in**, each count by itself, in the attributes
of an invocation after the call.  The facts of the body are those that the cache shows; where payloads
keep their contract, they are those of the body itself (`responseFacts_of_honours`). -/
theorem counted_onEnd (request : Request) (outcome : Outcome) (response : Response)
    (session : Session) (hservice : normalizedName request.service = modelServiceName)
    (htype : request.payload.typeName = "InvokeModelRequest")
    (hresponse : outcome.response = some response) (hrequest : request.payload.Repeatable)
    (hroot : ∀ root, response.payload = some root → root.Repeatable)
    (hheaders : response.headers.Distinct) (hcache : session.cache.Discovered) :
    let set := (((ofCapture {}).onEnd request outcome).run session).1
    let facts := responseFacts session.cache request response
    Counted facts response.headers inputTokenHeader GenAi.usagePromptTokens
        (set.get? GenAi.usagePromptTokens) ∧
      Counted facts response.headers outputTokenHeader GenAi.usageCompletionTokens
        (set.get? GenAi.usageCompletionTokens) := by
  intro set facts
  let sdk := (SdkFacts.endAttributes true request outcome).run session
  let fields := (FieldMappings.endAttributes true request outcome).run sdk.2
  have hset : set = merged (RpcFacts.endAttributes outcome) sdk.1 fields.1 := by
    show (((ofCapture {}).onEnd request outcome).run session).1 = _
    rw [run_onEnd]
    rfl
  have hsession : sdk.2.cache = session.cache :=
    SdkFacts.cache_endAttributes true request outcome session
  have hrpcNodup := (RpcFacts.trims_endAttributes outcome).nodup_on
  have hsdkNodup : (sdk.1.entries.map (·.1)).Nodup :=
    (SdkFacts.trims_endAttributes request outcome session session).nodup_on
  have hfieldsNodup : (fields.1.entries.map (·.1)).Nodup := by
    have hwritten : Maintains (fun _ => True)
        (FieldMappings.endAttributes true request outcome) (Written (Admissible .response)) :=
      FieldMappings.written_endAttributes true
        fun root _ => (FieldMappings.endPhase request root).keeps_trivial
    exact (hwritten sdk.2 trivial).2.nodup
  have hvalue : ∀ name, GenAi.isStructured name = true →
      set.get? name = (facts.get? name).or (sdk.1.get? name) := by
    intro name hname
    have hfields : fields.1.get? name = facts.get? name := by
      have hread := get?_endAttributes_fields htype hresponse hrequest hroot
        (hsession ▸ hcache : sdk.2.cache.Discovered) hname
      rwa [hsession] at hread
    rw [hset, get?_merged hrpcNodup hsdkNodup hfieldsNodup, hfields,
      get?_endAttributes_rpc outcome (isDecoded_of_isStructured hname), Option.or_none]
  obtain ⟨hinput, houtput⟩ := SdkFacts.get?_endAttributes hservice hresponse session
  constructor
  · rw [counted_iff hheaders, hvalue _ (by decide), hinput]
  · rw [counted_iff hheaders, hvalue _ (by decide), houtput]

/-- An invocation after which the body tells one count, and the headers tell both. -/
def halfCounted : Response where
  payload := some
    { identity := 1
      typeName := "InvokeModelResponse"
      profileKey := "InvokeModelResponse"
      probe := fun name => if name = "getBody" then .present else .absent
      answer := fun _ _ => .value (.text "\x7b\"usage\":\x7b\"input_tokens\":3\x7d\x7d")
      marshalled := none }
  headers :=
    [("x-amzn-bedrock-input-token-count", "99"), ("X-AMZN-Bedrock-Output-Token-Count", " +007 ")]

/-- The body has the say on what was read, and the header on what was written. -/
theorem halfCounted_counts :
    let set := (((ofCapture {}).onEnd FieldMappings.invocation
      { response := some halfCounted }).run {}).1
    normalizedName FieldMappings.invocation.service = modelServiceName ∧
      FieldMappings.invocation.payload.typeName = "InvokeModelRequest" ∧
      FieldMappings.invocation.payload.Repeatable ∧
      (∀ root, halfCounted.payload = some root → root.Repeatable) ∧
      halfCounted.headers.Distinct ∧ AccessorCache.Discovered {} ∧
      set.get? GenAi.usagePromptTokens = some (.text "3") ∧
      set.get? GenAi.usageCompletionTokens = some (.text "7") := by
  have hservice : normalizedName FieldMappings.invocation.service = modelServiceName := by
    decide +kernel
  have hrequest : FieldMappings.invocation.payload.Repeatable := fun _ _ _ => rfl
  have hroot : ∀ root, halfCounted.payload = some root → root.Repeatable := by
    rintro root ⟨⟩
    exact fun _ _ _ => rfl
  have hheaders : halfCounted.headers.Distinct := by
    unfold Headers.Distinct
    decide
  have hcache := AccessorCache.discovered_empty
  obtain ⟨hprompt, hcompletion⟩ := counted_onEnd FieldMappings.invocation
    { response := some halfCounted } halfCounted {} hservice rfl rfl hrequest hroot hheaders hcache
  refine ⟨hservice, rfl, hrequest, hroot, hheaders, hcache, ?_, ?_⟩
  · rw [(counted_iff hheaders).mp hprompt]
    decide +kernel
  · rw [(counted_iff hheaders).mp hcompletion]
    decide +kernel

end ExtractorChain

end CallTracing
