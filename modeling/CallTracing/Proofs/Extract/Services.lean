/-
  CallTracing/Proofs/Extract/Services.lean
  ========================================
  **Which names of services mean which category.**

  The name of a service is put into lower case, reduced to letters and digits (`compactText`), and
  loses one vendor in front.  Seen from outside: a category is given to exactly those services whose
  compact name is one of its names, alone or behind `amazon` or `aws` (`Named`).  No listed name
  begins with a vendor itself, and no name is listed twice, so neither the order of the vendors nor
  that of the table matters.  For the agent-building service the type of the payload must be in the
  table of exactly one resource.

  The extractor of the facts that every call has compares names of services on its own, to find
  the one whose responses count tokens in their headers.  It finds the same services
  (`SdkFacts.readsHeaders_iff`).
-/
import CallTracing.Proofs.Extract.TokenCounts

namespace CallTracing

/-! ### Names -/

/-- The letters and digits of the name of a service, in lower case. -/
def compactText (service : String) : String :=
  String.ofList
    ((Text.lower service).toList.filter fun c => ('a' ≤ c && c ≤ 'z') || ('0' ≤ c && c ≤ '9'))

/-- One of some names, alone or with a vendor in front. -/
def Named (names : List String) (compact : String) : Prop :=
  ∃ name ∈ names, compact = name ∨ compact = "amazon" ++ name ∨ compact = "aws" ++ name

/-- Whether a name begins with that of a vendor. -/
def hasVendor (name : String) : Bool :=
  "amazon".toList.isPrefixOf name.toList || "aws".toList.isPrefixOf name.toList

theorem toList_compactText (service : String) :
    (compactText service).toList = compactName service := by
  unfold compactText compactName Text.lower
  rw [String.toList_ofList, String.toList_ofList]
  refine List.filter_congr fun c _ => ?_
  exact Bool.or_comm c.isLower c.isDigit

theorem dropPrefix?_eq_none {front text : List Char} (h : front.isPrefixOf text = false) :
    dropPrefix? front text = none := by
  rw [Option.eq_none_iff_forall_ne_some]
  intro rest hdrop
  have hprefix : front <+: text := ⟨rest, (dropPrefix?_eq_some_iff.mp hdrop).symm⟩
  rw [List.isPrefixOf_iff_prefix.mpr hprefix] at h
  cases h

theorem withoutVendor_eq_iff {name : String} (h : hasVendor name = false) {compact : List Char} :
    withoutVendor compact = name.toList ↔
      compact = name.toList ∨ compact = "amazon".toList ++ name.toList ∨
        compact = "aws".toList ++ name.toList := by
  obtain ⟨hamazon, haws⟩ := Bool.or_eq_false_iff.mp h
  unfold withoutVendor
  constructor
  · intro hname
    split at hname
    · next rest hdrop =>
      rw [← hname]
      exact Or.inr (Or.inl (dropPrefix?_eq_some_iff.mp hdrop))
    · next =>
      cases hdrop : dropPrefix? "aws".toList compact with
      | none =>
        rw [hdrop] at hname
        exact Or.inl hname
      | some rest =>
        rw [hdrop] at hname
        rw [← hname]
        exact Or.inr (Or.inr (dropPrefix?_eq_some_iff.mp hdrop))
  · rintro (rfl | rfl | rfl)
    · rw [dropPrefix?_eq_none hamazon, dropPrefix?_eq_none haws]
      rfl
    · rw [dropPrefix?_append]
    · -- what begins with the second vendor does not begin with the first
      have hother : dropPrefix? "amazon".toList ("aws".toList ++ name.toList) = none := rfl
      rw [hother, dropPrefix?_append]
      rfl

theorem normalizedName_mem_iff {names : List String} (h : ∀ name ∈ names, hasVendor name = false)
    (service : String) : normalizedName service ∈ names ↔ Named names (compactText service) := by
  have hname : ∀ name ∈ names, normalizedName service = name ↔
      compactText service = name ∨ compactText service = "amazon" ++ name ∨
        compactText service = "aws" ++ name := by
    intro name hmem
    unfold normalizedName
    rw [← String.toList_inj, String.toList_ofList, withoutVendor_eq_iff (h name hmem),
      ← toList_compactText, ← String.toList_append, ← String.toList_append, String.toList_inj,
      String.toList_inj, String.toList_inj]
  constructor
  · intro hmem
    exact ⟨_, hmem, (hname _ hmem).mp rfl⟩
  · rintro ⟨name, hmem, hcompact⟩
    rw [(hname name hmem).mpr hcompact]
    exact hmem

/-! ### The tables -/

theorem categoryNames_apart : ∀ row ∈ categoryNames, ∀ other ∈ categoryNames,
    (row.1 = other.1 → row = other) ∧ ∀ name ∈ row.2, name ∈ other.2 → row = other := by decide

theorem categoryNames_plain : ∀ row ∈ categoryNames,
    (∀ name ∈ row.2, hasVendor name = false ∧ name ≠ agentServiceName) := by decide

theorem exists_row (category : Category) (h : ∀ resource, category ≠ .bedrockAgent resource) :
    ∃ names ∈ categoryNames.map (·.2), (category, names) ∈ categoryNames := by
  cases category with
  | bedrockAgent resource => exact absurd rfl (h resource)
  | _ => decide

theorem agent_unlisted : ∀ row ∈ categoryNames, ∀ resource, row.1 ≠ .bedrockAgent resource := by
  have hrows : ∀ row ∈ categoryNames,
      ∀ resource ∈ [AgentResource.agent, .dataSource, .knowledgeBase],
        row.1 ≠ .bedrockAgent resource := by decide
  intro row hrow resource
  exact hrows row hrow resource (by cases resource <;> decide)

theorem AgentResource.eq_of_mem_typeNames (direction : Direction) (a b : AgentResource) :
    ∀ type ∈ a.typeNames direction, type ∈ b.typeNames direction → a = b := by
  cases direction <;> cases a <;> cases b <;> decide

/-! ### Classification -/

section

variable {service : String} {typeName : Option String} {direction : Direction}

theorem classify_of_row {category : Category} {names : List String}
    (h : (category, names) ∈ categoryNames) :
    classify service typeName direction = some category ↔ normalizedName service ∈ names := by
  unfold classify
  dsimp only
  split
  · next hagent =>
    have hname : normalizedName service ∉ names := fun hmem =>
      (categoryNames_plain _ h _ hmem).2 hagent
    refine iff_of_false ?_ hname
    rw [Option.map_eq_some_iff]
    rintro ⟨resource, -, heq⟩
    exact agent_unlisted _ h resource heq.symm
  · cases hfound : categoryNames.find? fun row => row.2.contains (normalizedName service) with
    | none =>
      have hnone := List.find?_eq_none.mp hfound _ h
      rw [List.contains_iff_mem] at hnone
      exact iff_of_false (by simp) hnone
    | some row =>
      have hrow := List.mem_of_find?_eq_some hfound
      have hmem := List.find?_some hfound
      rw [List.contains_iff_mem] at hmem
      rw [Option.map_some, Option.some.injEq]
      constructor
      · intro heq
        rw [(categoryNames_apart row hrow _ h).1 heq] at hmem
        exact hmem
      · intro hname
        rw [(categoryNames_apart row hrow _ h).2 _ hmem hname]

theorem classify_agent {resource : AgentResource} :
    classify service typeName direction = some (.bedrockAgent resource) ↔
      normalizedName service = agentServiceName ∧
        ∃ type, typeName = some type ∧
          AgentResource.ofTypeName? direction type = some resource := by
  unfold classify
  dsimp only
  split
  · next hagent =>
    rw [and_iff_right hagent, Option.map_eq_some_iff]
    simp only [Category.bedrockAgent.injEq, exists_eq_right, Option.bind_eq_some_iff]
  · next hagent =>
    refine iff_of_false ?_ fun h => hagent h.1
    rw [Option.map_eq_some_iff]
    rintro ⟨row, hfound, heq⟩
    exact agent_unlisted row (List.mem_of_find?_eq_some hfound) resource heq

end

/-- The tables of two resources have no type in common, so the first that holds a type is the only
one. -/
theorem AgentResource.ofTypeName?_eq_some_iff {direction : Direction} {type : String}
    {resource : AgentResource} :
    ofTypeName? direction type = some resource ↔
      ∀ other : AgentResource, type ∈ other.typeNames direction ↔ other = resource := by
  unfold ofTypeName?
  constructor
  · intro h other
    have hmem := List.find?_some h
    rw [List.contains_iff_mem] at hmem
    constructor
    · intro hother
      exact eq_of_mem_typeNames direction other resource type hother hmem
    · rintro rfl
      exact hmem
  · intro h
    cases hfound : [AgentResource.agent, .dataSource, .knowledgeBase].find? fun resource =>
        (resource.typeNames direction).contains type with
    | none =>
      have hnone := List.find?_eq_none.mp hfound resource (by cases resource <;> decide)
      rw [List.contains_iff_mem] at hnone
      exact absurd ((h resource).mpr rfl) hnone
    | some other =>
      have hmem := List.find?_some hfound
      rw [List.contains_iff_mem] at hmem
      rw [(h other).mp hmem]

/-! ### Headers with token counts -/

namespace SdkFacts

/-- Whether the headers of a response matter to the extractor: two responses that differ in nothing
else are not read alike. -/
def ReadsHeaders (tokenHeaders : Bool) (request : Request) : Prop :=
  ∃ (response : Response) (headers : Headers) (failure : Option CallFailure),
    endAttributes tokenHeaders request ⟨some response, failure⟩ ≠
      endAttributes tokenHeaders request ⟨some { response with headers := headers }, failure⟩

theorem readsHeaders_iff {tokenHeaders : Bool} {request : Request} :
    ReadsHeaders tokenHeaders request ↔
      tokenHeaders = true ∧ normalizedName request.service = modelServiceName := by
  constructor
  · rintro ⟨response, headers, failure, hne⟩
    refine Decidable.byContradiction fun hother => hne ?_
    have hplain : ¬(tokenHeaders && normalizedName request.service == modelServiceName) = true := by
      rwa [Bool.and_eq_true, beq_iff_eq]
    unfold endAttributes
    dsimp only
    rw [if_neg hplain, if_neg hplain]
  · rintro ⟨rfl, hservice⟩
    let counting : Response := { headers := [(Names.inputTokenHeader, "1")] }
    refine ⟨{}, counting.headers, none, fun heq => ?_⟩
    have hnone := (@get?_endAttributes request ⟨some {}, none⟩ {} hservice rfl {}).1
    have hcount := (@get?_endAttributes request ⟨some counting, none⟩ counting hservice rfl {}).1
    rw [heq, hcount] at hnone
    revert hnone
    decide

end SdkFacts

/-! ### Services by name -/

/-- **A service is recognised exactly by its names.**  For every category but that of the
agent-building service these are the names in its one row of the table; there the type of the
payload decides as well, by being in the table of one resource and of no other.  The headers with
token counts are read for the calls of one category and for no others. -/
theorem recognised_by_name (service : String) (typeName : Option String) (direction : Direction) :
    (∀ category, (∀ resource, category ≠ .bedrockAgent resource) →
      ∃ names, (∀ other, (category, other) ∈ categoryNames ↔ other = names) ∧
        (classify service typeName direction = some category ↔
          Named names (compactText service))) ∧
    (∀ resource, classify service typeName direction = some (.bedrockAgent resource) ↔
      Named ["bedrockagent"] (compactText service) ∧
        ∃ type, typeName = some type ∧
          ∀ other : AgentResource, type ∈ other.typeNames direction ↔ other = resource) ∧
    (∀ tokenHeaders (request : Request), request.service = service →
      (SdkFacts.ReadsHeaders tokenHeaders request ↔
        tokenHeaders = true ∧ classify service typeName direction = some .bedrockRuntime)) := by
  refine ⟨?_, ?_, ?_⟩
  · intro category hcategory
    obtain ⟨names, -, hrow⟩ := exists_row category hcategory
    refine ⟨names, fun other => ⟨fun hother => ?_, fun heq => heq ▸ hrow⟩, ?_⟩
    · exact (Prod.mk.inj ((categoryNames_apart _ hother _ hrow).1 rfl)).2
    · rw [classify_of_row hrow]
      exact normalizedName_mem_iff (fun name hname => (categoryNames_plain _ hrow name hname).1) _
  · intro resource
    have hplain : ∀ name ∈ [agentServiceName], hasVendor name = false := by decide
    have hagent := normalizedName_mem_iff hplain service
    rw [List.mem_singleton] at hagent
    rw [classify_agent, hagent]
    simp only [AgentResource.ofTypeName?_eq_some_iff]
    rfl
  · rintro tokenHeaders request rfl
    have hrow : (Category.bedrockRuntime, [modelServiceName]) ∈ categoryNames := by decide
    rw [SdkFacts.readsHeaders_iff, classify_of_row hrow, List.mem_singleton]

/-- A call of the service that invokes models, whose name is spelled with the vendor. -/
def vendorCall : Request where
  service := "AWS Bedrock-Runtime"
  payload :=
    { identity := 0
      typeName := "ConverseRequest"
      profileKey := "ConverseRequest"
      probe := fun _ => .absent
      answer := fun _ _ => .unset
      marshalled := none }

theorem vendorCall_recognised :
    (∀ resource, Category.bedrockRuntime ≠ .bedrockAgent resource) ∧
    vendorCall.service = "AWS Bedrock-Runtime" ∧
    Named ["bedrockruntime"] (compactText "AWS Bedrock-Runtime") ∧
    classify "AWS Bedrock-Runtime" none .response = some .bedrockRuntime ∧
    SdkFacts.ReadsHeaders true vendorCall ∧ ¬SdkFacts.ReadsHeaders false vendorCall := by
  have hplain : ∀ resource, Category.bedrockRuntime ≠ .bedrockAgent resource := by
    rintro resource ⟨⟩
  have hnamed : Named ["bedrockruntime"] (compactText "AWS Bedrock-Runtime") :=
    ⟨"bedrockruntime", List.mem_cons_self, Or.inr (Or.inr (by decide +kernel))⟩
  obtain ⟨hcategory, -, hheaders⟩ := recognised_by_name "AWS Bedrock-Runtime" none .response
  obtain ⟨names, hrow, hclassify⟩ := hcategory .bedrockRuntime hplain
  obtain rfl := (hrow ["bedrockruntime"]).mp (by decide)
  have hfound := hclassify.mpr hnamed
  refine ⟨hplain, rfl, hnamed, hfound, (hheaders true vendorCall rfl).mpr ⟨rfl, hfound⟩, ?_⟩
  intro hreads
  cases ((hheaders false vendorCall rfl).mp hreads).1

end CallTracing
