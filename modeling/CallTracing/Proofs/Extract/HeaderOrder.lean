/-
  CallTracing/Proofs/Extract/HeaderOrder.lean
  ===========================================
  **When the order of the headers of a response shows.**

  A header replaces another one only where the two names are spelled alike, and it is found whatever
  the case of its letters.  So several headers may stand under one name, and which of them is found
  depends on the order in which they are gone through: every one of them is found in some order
  (`exists_perm_find?_iff`).  The order makes no difference exactly where all of them are read alike
  (`forall_perm_find?_iff`), which is a condition on what the host supplied (`Settled`).
-/
import CallTracing.Proofs.Extract.TokenCounts
import Mathlib.Data.List.Induction

namespace CallTracing

open AttributeSet Names

/-! ### What stands under a name -/

namespace Headers

variable {headers order : Headers} {name value key other : String}

/-- Whether a value stands under some spelling of a name. -/
def Holds (headers : Headers) (name value : String) : Prop :=
  ∃ key, (key, value) ∈ headers ∧ Text.sameIgnoringAsciiCase key.toList name.toList = true

theorem holds_of_find? (h : headers.find? name = some value) : headers.Holds name value := by
  obtain ⟨⟨key, known⟩, hfound, hvalue⟩ := Option.map_eq_some_iff.mp h
  subst hvalue
  have hkey := @List.find?_some _ _ (key, known) headers hfound
  exact ⟨key, List.mem_of_find?_eq_some hfound, hkey⟩

theorem find?_eq_none_iff : headers.find? name = none ↔ ∀ value, ¬headers.Holds name value := by
  unfold find?
  rw [Option.map_eq_none_iff, List.find?_eq_none]
  constructor
  · rintro h value ⟨key, hmem, hkey⟩
    exact h (key, value) hmem hkey
  · rintro h ⟨key, value⟩ hmem hkey
    exact h value ⟨key, hmem, hkey⟩

theorem holds_perm (h : order.Perm headers) : order.Holds name value ↔ headers.Holds name value :=
  exists_congr fun _ => and_congr_left fun _ => h.mem_iff

/-- Every value that stands under a name is found in some order, and no other one. -/
theorem exists_perm_find?_iff :
    (∃ order : Headers, order.Perm headers ∧ order.find? name = some value) ↔
      headers.Holds name value := by
  constructor
  · rintro ⟨order, horder, hfound⟩
    exact (holds_perm horder).mp (holds_of_find? hfound)
  · rintro ⟨key, hmem, hkey⟩
    refine ⟨(key, value) :: headers.erase (key, value), (List.perm_cons_erase hmem).symm, ?_⟩
    unfold find?
    simp [hkey]

/-- What is read off a header is the same in every order just where it is the same for all values
that stand under the name. -/
theorem forall_perm_find?_iff {α : Type} (read : String → Option α) :
    (∀ order : Headers, order.Perm headers →
        (order.find? name).bind read = (headers.find? name).bind read) ↔
      ∀ a b, headers.Holds name a → headers.Holds name b → read a = read b := by
  constructor
  · intro h a b ha hb
    obtain ⟨first, hfirst, hfirstFound⟩ := exists_perm_find?_iff.mpr ha
    obtain ⟨second, hsecond, hsecondFound⟩ := exists_perm_find?_iff.mpr hb
    have hsame := (h first hfirst).trans (h second hsecond).symm
    rw [hfirstFound, hsecondFound] at hsame
    exact hsame
  · intro h order horder
    cases hfound : order.find? name with
    | none =>
      have hnone : headers.find? name = none := by
        refine find?_eq_none_iff.mpr fun value hvalue => ?_
        exact find?_eq_none_iff.mp hfound value ((holds_perm horder).mpr hvalue)
      rw [hnone]
    | some a =>
      have ha := (holds_perm horder).mp (holds_of_find? hfound)
      cases hother : headers.find? name with
      | none => exact absurd ha (find?_eq_none_iff.mp hother a)
      | some b => exact h a b ha (holds_of_find? hother)

/-! ### Setting headers -/

theorem names_set (headers : Headers) (name value : String) :
    (set name value headers).map (·.1) =
      if name ∈ headers.map (·.1) then headers.map (·.1) else headers.map (·.1) ++ [name] := by
  induction headers with
  | nil => rfl
  | cons header rest ih =>
    obtain ⟨first, old⟩ := header
    by_cases hfirst : first = name
    · simp [set, hfirst]
    · have hname : ¬name = first := fun h => hfirst h.symm
      by_cases hmem : name ∈ rest.map (·.1) <;> simp_all [set]

theorem nodup_set (h : (headers.map (·.1)).Nodup) (name value : String) :
    ((set name value headers).map (·.1)).Nodup := by
  rw [names_set]
  split
  · exact h
  · next hname =>
    refine List.nodup_append.mpr ⟨h, List.pairwise_singleton _ name, ?_⟩
    rintro key hkey _ hmem rfl
    exact hname (List.mem_singleton.mp hmem ▸ hkey)

theorem mem_set (h : (headers.map (·.1)).Nodup) :
    (key, other) ∈ set name value headers ↔
      if key = name then other = value else (key, other) ∈ headers := by
  induction headers with
  | nil => by_cases hkey : key = name <;> simp [set, hkey]
  | cons header rest ih =>
    obtain ⟨first, old⟩ := header
    obtain ⟨hfirst, hrest⟩ := List.nodup_cons.mp h
    unfold set
    by_cases hname : first = name
    · subst hname
      rw [if_pos rfl, List.mem_cons, List.mem_cons]
      by_cases hkey : key = first
      · subst hkey
        have hother : (key, other) ∉ rest :=
          fun hmem => hfirst (List.mem_map.mpr ⟨(key, other), hmem, rfl⟩)
        simp [hother]
      · simp [hkey]
    · rw [if_neg hname, List.mem_cons, ih hrest, List.mem_cons]
      by_cases hkey : key = name
      · subst hkey
        simp [Ne.symm hname]
      · simp [hkey]

end Headers

/-! ### What a host supplies -/

namespace Response

/-- The response once headers were supplied one after the other, there being none before. -/
def supplied (base : Response) (headers : List (String × String)) : Response :=
  headers.foldl (fun response header => response.withHeader header.1 header.2)
    { base with headers := [] }

/-- The value that a header was last given, by exactly this name. -/
def lastValue? (headers : List (String × String)) (name : String) : Option String :=
  headers.reverse.lookup name

variable {base : Response} {headers : List (String × String)} {name value : String}

theorem supplied_concat (base : Response) (headers : List (String × String))
    (header : String × String) :
    base.supplied (headers ++ [header]) =
      (base.supplied headers).withHeader header.1 header.2 := by
  unfold supplied
  rw [List.foldl_append]
  rfl

theorem nodup_supplied (base : Response) (headers : List (String × String)) :
    ((base.supplied headers).headers.map (·.1)).Nodup := by
  induction headers using List.reverseRecOn with
  | nil => exact List.nodup_nil
  | append_singleton headers header ih =>
    rw [supplied_concat]
    exact Headers.nodup_set ih header.1 header.2

theorem mem_supplied_iff :
    (name, value) ∈ (base.supplied headers).headers ↔ lastValue? headers name = some value := by
  induction headers using List.reverseRecOn with
  | nil => simp [supplied, lastValue?]
  | append_singleton headers header ih =>
    have hnodup := nodup_supplied base headers
    rw [supplied_concat]
    refine (Headers.mem_set hnodup).trans ?_
    unfold lastValue? at ih ⊢
    rw [List.reverse_append, List.reverse_singleton, List.singleton_append, lookup_entry]
    by_cases hname : name = header.1
    · simp [hname, eq_comm]
    · rw [if_neg hname, if_neg hname, ih]

/-- The response with its headers gone through in some order. -/
def inOrder (response : Response) (order : Headers) : Response := { response with headers := order }

/-- Whether all headers that a host supplied under one name, however each is spelled, were last given
values that are read alike. -/
def Settled {α : Type} (headers : List (String × String)) (name : String)
    (read : String → Option α) : Prop :=
  ∀ first second a b, Text.sameIgnoringAsciiCase first.toList name.toList = true →
    Text.sameIgnoringAsciiCase second.toList name.toList = true →
    lastValue? headers first = some a → lastValue? headers second = some b → read a = read b

theorem holds_supplied_iff :
    (base.supplied headers).headers.Holds name value ↔
      ∃ key, Text.sameIgnoringAsciiCase key.toList name.toList = true ∧
        lastValue? headers key = some value :=
  exists_congr fun _ => (and_congr_left fun _ => mem_supplied_iff).trans and_comm

theorem forall_order_iff {α : Type} (base : Response) (headers : List (String × String))
    (name : String) (read : String → Option α) :
    (∀ order, order.Perm (base.supplied headers).headers →
        (((base.supplied headers).inOrder order).header? name).bind read =
          ((base.supplied headers).header? name).bind read) ↔
      Settled headers name read := by
  refine (Headers.forall_perm_find?_iff read).trans ?_
  simp only [holds_supplied_iff]
  constructor
  · intro h first second a b hfirst hsecond ha hb
    exact h a b ⟨first, hfirst, ha⟩ ⟨second, hsecond, hb⟩
  · rintro h a b ⟨first, hfirst, ha⟩ ⟨second, hsecond, hb⟩
    exact h first second a b hfirst hsecond ha hb

end Response

/-! ### The token counts -/

namespace SdkFacts

variable {response : Response} {request : Request} {failure : Option CallFailure}
  {session : Session}

/-- What is written for the value of a header: the count that it holds, if it holds one. -/
def countFact? (value : String) : Option AttributeValue :=
  (parseInt64 (Text.trimmed value.toList)).toOption.map countValue

theorem count?_map (headers : Headers) (name : String) :
    (headers.count? name).map countValue = (headers.find? name).bind countFact? := by
  unfold Headers.count?
  rw [Option.map_bind]
  rfl

/-- What is written depends on the count alone. -/
theorem run_putTokenHeader (response : Response) (set : AttributeSet) (header target : String)
    (session : Session) :
    ((putTokenHeader response set header target).run session).1 =
      ((response.header? header).bind countFact?).elim set (set.put target) := by
  unfold putTokenHeader
  cases response.header? header with
  | none => rfl
  | some raw =>
    dsimp only
    rw [Option.bind_some]
    unfold countFact?
    cases parseInt64 (Text.trimmed raw.toList) <;> rfl

/-- Both counts are written, one after the other. -/
theorem run_endAttributes (response : Response) (request : Request)
    (failure : Option CallFailure) (session : Session)
    (hservice : normalizedName request.service = modelServiceName) :
    let known := RpcFacts.putKnown .empty (requestId, response.requestId)
    let read := ((response.header? inputTokenHeader).bind countFact?).elim known
      (known.put GenAi.usagePromptTokens)
    ((endAttributes true request ⟨some response, failure⟩).run session).1 =
      ((response.header? outputTokenHeader).bind countFact?).elim read
        (read.put GenAi.usageCompletionTokens) := by
  intro known read
  let prompt :=
    (putTokenHeader response known inputTokenHeader GenAi.usagePromptTokens).run session
  have hrun : ((endAttributes true request ⟨some response, failure⟩).run session).1 =
      ((putTokenHeader response prompt.1 outputTokenHeader
        GenAi.usageCompletionTokens).run prompt.2).1 := by
    unfold endAttributes
    dsimp only
    rw [if_pos (by rw [hservice]; decide)]
    rfl
  have hprompt : prompt.1 = read := run_putTokenHeader _ _ _ _ _
  rw [hrun, run_putTokenHeader, hprompt]

theorem forall_order_endAttributes_iff (base : Response) (headers : List (String × String))
    (hservice : normalizedName request.service = modelServiceName) :
    (∀ order, order.Perm (base.supplied headers).headers →
      ((endAttributes true request
        ⟨some ((base.supplied headers).inOrder order), failure⟩).run session).1 =
      ((endAttributes true request ⟨some (base.supplied headers), failure⟩).run session).1) ↔
    Response.Settled headers inputTokenHeader countFact? ∧
      Response.Settled headers outputTokenHeader countFact? := by
  rw [← Response.forall_order_iff base headers inputTokenHeader,
    ← Response.forall_order_iff base headers outputTokenHeader]
  constructor
  · -- the two attributes show what was read off the two headers
    intro h
    have hcounts := fun response : Response =>
      @get?_endAttributes request ⟨some response, failure⟩ response hservice rfl session
    constructor
    · intro order horder
      have hprompt := (hcounts ((base.supplied headers).inOrder order)).1
      rw [h order horder, (hcounts (base.supplied headers)).1, count?_map, count?_map] at hprompt
      exact hprompt.symm
    · intro order horder
      have hcompletion := (hcounts ((base.supplied headers).inOrder order)).2
      rw [h order horder, (hcounts (base.supplied headers)).2, count?_map, count?_map] at hcompletion
      exact hcompletion.symm
  · rintro ⟨hin, hout⟩ order horder
    rw [run_endAttributes _ request failure session hservice,
      run_endAttributes _ request failure session hservice, hin order horder, hout order horder]
    rfl

/-- Elsewhere no header is looked at. -/
theorem endAttributes_inOrder_of_ne {tokenHeaders : Bool} (order : Headers)
    (h : ¬(tokenHeaders = true ∧ normalizedName request.service = modelServiceName)) :
    endAttributes tokenHeaders request ⟨some (response.inOrder order), failure⟩ =
      endAttributes tokenHeaders request ⟨some response, failure⟩ := by
  have hcondition : ¬(tokenHeaders && normalizedName request.service == modelServiceName) = true := by
    simpa using h
  unfold endAttributes
  dsimp only
  rw [if_neg hcondition, if_neg hcondition]
  rfl

end SdkFacts

/-! ### The main result -/

namespace Response

/-- **When the order of the headers does not show.**  Whatever a host supplied: the values found under
a name, in one order or another, are those that its spellings were last given.  So a header is found
with one value in all orders just where all spellings of its name were last given that value.  And
what is written after the call is the same in all orders just where no header is read, or where all
spellings of each of the two names were last given the same count, or all of them none. -/
theorem orderFree_iff (base : Response) (headers : List (String × String)) :
    let response := base.supplied headers
    (∀ name value,
      (∃ order, order.Perm response.headers ∧
        (response.inOrder order).header? name = some value) ↔
      ∃ key, Text.sameIgnoringAsciiCase key.toList name.toList = true ∧
        lastValue? headers key = some value) ∧
    (∀ name,
      (∀ order, order.Perm response.headers →
        (response.inOrder order).header? name = response.header? name) ↔
      Settled headers name some) ∧
    (∀ (tokenHeaders : Bool) (request : Request) (failure : Option CallFailure)
        (session : Session),
      (∀ order, order.Perm response.headers →
        (((SdkFacts.extractor tokenHeaders).onEnd request
          ⟨some (response.inOrder order), failure⟩).run session).1.attributes =
        (((SdkFacts.extractor tokenHeaders).onEnd request
          ⟨some response, failure⟩).run session).1.attributes) ↔
      (tokenHeaders = true ∧ normalizedName request.service = modelServiceName →
        Settled headers inputTokenHeader SdkFacts.countFact? ∧
          Settled headers outputTokenHeader SdkFacts.countFact?)) := by
  intro response
  refine ⟨?_, ?_, ?_⟩
  · intro name value
    exact Headers.exists_perm_find?_iff.trans holds_supplied_iff
  · intro name
    have hread := forall_order_iff base headers name some
    simp only [Option.bind_fun_some] at hread
    exact hread
  · intro tokenHeaders request failure session
    show (∀ order, order.Perm response.headers →
      ((SdkFacts.endAttributes tokenHeaders request
        ⟨some (response.inOrder order), failure⟩).run session).1 =
      ((SdkFacts.endAttributes tokenHeaders request
        ⟨some response, failure⟩).run session).1) ↔ _
    by_cases hread : tokenHeaders = true ∧ normalizedName request.service = modelServiceName
    · obtain ⟨rfl, hservice⟩ := hread
      rw [SdkFacts.forall_order_endAttributes_iff base headers hservice]
      exact ⟨fun h _ => h, fun h => h ⟨rfl, hservice⟩⟩
    · refine iff_of_true ?_ fun h => absurd h hread
      intro order _
      rw [SdkFacts.endAttributes_inOrder_of_ne order hread]

/-- A header that is given a second value under the same spelling. -/
def overwritten : List (String × String) :=
  [("x-amzn-bedrock-input-token-count", "7"), ("x-amzn-bedrock-input-token-count", "9")]

theorem overwritten_settled :
    Settled overwritten inputTokenHeader some ∧
      ∀ order, order.Perm (({} : Response).supplied overwritten).headers →
        ((({} : Response).supplied overwritten).inOrder order).header? inputTokenHeader =
          some "9" := by
  have hlast : ∀ name value, lastValue? overwritten name = some value → value = "9" := by
    intro name value hvalue
    unfold lastValue? overwritten at hvalue
    by_cases hname : name = "x-amzn-bedrock-input-token-count"
    · subst hname
      exact (Option.some.inj hvalue).symm
    · simp [List.lookup_cons, beq_false_of_ne hname] at hvalue
  have hsettled : Settled overwritten inputTokenHeader some := by
    intro first second a b _ _ ha hb
    rw [hlast first a ha, hlast second b hb]
  refine ⟨hsettled, fun order horder => ?_⟩
  rw [((orderFree_iff {} overwritten).2.1 inputTokenHeader).mpr hsettled order horder]
  decide +kernel

/-- A header that is given a second value under another spelling. -/
def respelled : List (String × String) :=
  [("X-Amzn-Bedrock-Input-Token-Count", "7"), ("x-amzn-bedrock-input-token-count", "9")]

/-- Either value is found and written, in one order or the other. -/
theorem respelled_differs :
    let response := ({} : Response).supplied respelled
    let order := response.headers.reverse
    let written := fun response : Response =>
      (((SdkFacts.extractor true).onEnd FieldMappings.invocation
        ⟨some response, none⟩).run {}).1.attributes.get? GenAi.usagePromptTokens
    order.Perm response.headers ∧
      response.header? inputTokenHeader = some "7" ∧
      (response.inOrder order).header? inputTokenHeader = some "9" ∧
      written response = some (.text "7") ∧
      written (response.inOrder order) = some (.text "9") := by
  intro response order written
  refine ⟨List.reverse_perm _, ?_, ?_, ?_, ?_⟩ <;> decide +kernel

end Response

end CallTracing
