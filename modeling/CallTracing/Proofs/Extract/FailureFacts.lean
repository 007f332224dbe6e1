/-
  CallTracing/Proofs/Extract/FailureFacts.lean
  ============================================
  **The status of a span and the attributes of a failed call tell the same story.**

  The cause of a failure is looked for in two places, one after the other: what the host says, and
  what the response carries (`Outcome.Blames`).  The status of the span and the attributes are derived
  from it independently, and one of them leaves out empty texts and the other does not.  Each is
  described by the cause and the HTTP status alone (`spanStatus_eq_error_iff`,
  `RpcFacts.get?_exceptionMessage`, `RpcFacts.get?_httpResponseStatusCode`), and so they agree.
-/
import CallTracing.Proofs.Extract.LastWrite

namespace CallTracing

open AttributeSet Names

/-! ### What came of a call -/

/-- What a call failed of: the host comes first. -/
inductive Outcome.Blames : Outcome → CallFailure → Prop where
  | host (response : Option Response) (cause : CallFailure) : Blames ⟨response, some cause⟩ cause
  | carried {response : Response} {cause : CallFailure} (herror : response.error = some cause) :
      Blames ⟨some response, none⟩ cause

/-- The HTTP status of a response. -/
def Outcome.HasStatus (outcome : Outcome) (n : UInt16) : Prop :=
  ∃ response, outcome.response = some response ∧ response.status = some n

/-- An outcome whose response says what the call failed of, and the host does not. -/
def Outcome.carrying (response : Option Response) (cause : CallFailure) : Outcome where
  response := some { response.getD {} with error := some cause }

variable {outcome : Outcome} {cause : CallFailure} {n : UInt16}

theorem failureCause_eq_some_iff :
    failureCause outcome.response outcome.failure = some cause ↔ outcome.Blames cause := by
  obtain ⟨response, failure⟩ := outcome
  constructor
  · intro h
    cases failure with
    | some known =>
      obtain rfl := Option.some.inj h
      exact .host response known
    | none =>
      obtain ⟨carrier, rfl, herror⟩ := Option.bind_eq_some_iff.mp h
      exact .carried herror
  · intro h
    cases h with
    | host => rfl
    | carried herror => exact herror

theorem failureCause_eq_none_iff :
    failureCause outcome.response outcome.failure = none ↔ ∀ cause, ¬outcome.Blames cause := by
  rw [Option.eq_none_iff_forall_ne_some]
  exact forall_congr' fun cause => not_congr failureCause_eq_some_iff

theorem hasStatus_iff :
    outcome.HasStatus n ↔ outcome.response.bind (·.status) = some n :=
  Option.bind_eq_some_iff.symm

theorem isAcceptedStatus_iff : isAcceptedStatus n = true ↔ 100 ≤ n ∧ n < 500 := by
  unfold isAcceptedStatus
  rw [Bool.and_eq_true, decide_eq_true_eq, decide_eq_true_eq]

/-! ### The status of the span -/

theorem spanStatus_eq_error_iff {message : String} :
    spanStatus outcome.response outcome.failure = .error message ↔
      (∃ cause, outcome.Blames cause ∧ message = cause.message) ∨
        (∀ cause, ¬outcome.Blames cause) ∧ ∃ n, outcome.HasStatus n ∧ ¬(100 ≤ n ∧ n < 500) ∧
          message = "HTTP " ++ toString n.toNat := by
  unfold spanStatus
  simp only [hasStatus_iff, ← isAcceptedStatus_iff]
  cases hcause : failureCause outcome.response outcome.failure with
  | some cause =>
    have hblames := failureCause_eq_some_iff.mp hcause
    dsimp only
    rw [SpanStatus.error.injEq]
    constructor
    · rintro rfl
      exact Or.inl ⟨cause, hblames, rfl⟩
    · rintro (⟨other, hother, rfl⟩ | ⟨hnone, -⟩)
      · rw [failureCause_eq_some_iff.mpr hother] at hcause
        rw [Option.some.inj hcause]
      · exact absurd hblames (hnone cause)
  | none =>
    have hnone := failureCause_eq_none_iff.mp hcause
    have hother : ¬∃ cause, outcome.Blames cause ∧ message = cause.message :=
      fun ⟨cause, hblames, _⟩ => hnone cause hblames
    rw [or_iff_right hother, and_iff_right hnone]
    cases outcome.response.bind (·.status) with
    | none => simp
    | some n =>
      dsimp only
      by_cases haccepted : isAcceptedStatus n = true
      · rw [if_pos haccepted]
        simp [haccepted]
      · rw [if_neg haccepted]
        constructor
        · intro h
          exact ⟨n, rfl, haccepted, (SpanStatus.error.inj h).symm⟩
        · rintro ⟨_, ⟨⟩, -, rfl⟩
          rfl

theorem spanStatus_eq_unset_iff :
    spanStatus outcome.response outcome.failure = .unset ↔
      (∀ cause, ¬outcome.Blames cause) ∧ ∀ n, outcome.HasStatus n → 100 ≤ n ∧ n < 500 := by
  unfold spanStatus
  simp only [hasStatus_iff, ← isAcceptedStatus_iff]
  cases hcause : failureCause outcome.response outcome.failure with
  | some cause =>
    refine iff_of_false (by simp) fun h => ?_
    exact h.1 cause (failureCause_eq_some_iff.mp hcause)
  | none =>
    rw [and_iff_right (failureCause_eq_none_iff.mp hcause)]
    cases outcome.response.bind (·.status) with
    | none => simp
    | some n =>
      dsimp only
      by_cases haccepted : isAcceptedStatus n = true
      · simp [haccepted]
      · simp [haccepted]

/-! ### The attributes -/

namespace RpcFacts

theorem get?_exceptionMessage (outcome : Outcome) :
    (endAttributes outcome).get? exceptionMessage =
      ((failureCause outcome.response outcome.failure).filter (·.message ≠ "")).map
        fun cause => .text cause.message := by
  have hstatus : httpResponseStatusCode ≠ exceptionMessage := by decide
  have htype : errorType ≠ exceptionMessage := by decide
  unfold endAttributes
  cases failureCause outcome.response outcome.failure with
  | some cause =>
    by_cases hmessage : cause.message = "" <;> cases outcome.response.bind (·.status) <;>
      simp [get?_putNonEmpty, get?_put, get?_empty, Option.filter_some, hstatus, htype, hmessage]
  | none =>
    cases outcome.response.bind (·.status) <;> simp [get?_put, get?_empty, hstatus]

theorem get?_httpResponseStatusCode (outcome : Outcome) :
    (endAttributes outcome).get? httpResponseStatusCode =
      (outcome.response.bind (·.status)).map fun n => .int n.toNat := by
  have hmessage : exceptionMessage ≠ httpResponseStatusCode := by decide
  have htype : errorType ≠ httpResponseStatusCode := by decide
  unfold endAttributes
  cases failureCause outcome.response outcome.failure <;>
    cases outcome.response.bind (·.status) <;>
      simp [get?_putNonEmpty, get?_put, get?_empty, hmessage, htype]

/-- Who says what the call failed of makes no difference. -/
theorem endAttributes_carrying (response : Option Response) (cause : CallFailure) :
    endAttributes (.carrying response cause) = endAttributes ⟨response, some cause⟩ := by
  cases response <;> rfl

end RpcFacts

theorem spanStatus_carrying (response : Option Response) (cause : CallFailure) :
    spanStatus (Outcome.carrying response cause).response none =
      spanStatus response (some cause) := by
  cases response <;> rfl

/-! ### Their agreement -/

/-- **The status of a span agrees with the attributes of the failure.**  A message that was recorded
is that of the status.  A status of error without a cause names the recorded HTTP status, which is none
of 100 to 499.  No status is set where there is no cause and the HTTP status is one of these, or none
is known.  And it makes no difference whether the host or the response says what the call failed
of. -/
theorem status_agrees (request : Request) (outcome : Outcome) (session : Session) :
    let written := ((RpcFacts.extractor.onEnd request outcome).run session).1.attributes
    let status := spanStatus outcome.response outcome.failure
    (∀ value, written.get? exceptionMessage = some value →
      ∃ message, value = .text message ∧ status = .error message) ∧
    (∀ message, (∀ cause, ¬outcome.Blames cause) → status = .error message →
      ∃ n : UInt16, written.get? httpResponseStatusCode = some (.int n.toNat) ∧
        message = "HTTP " ++ toString n.toNat ∧ (n < 100 ∨ 500 ≤ n)) ∧
    (status = .unset ↔
      (∀ cause, ¬outcome.Blames cause) ∧ ∀ n, outcome.HasStatus n → 100 ≤ n ∧ n < 500) ∧
    (∀ (response : Option Response) (cause : CallFailure),
      spanStatus (Outcome.carrying response cause).response none =
          spanStatus response (some cause) ∧
        RpcFacts.extractor.onEnd request (.carrying response cause) =
          RpcFacts.extractor.onEnd request ⟨response, some cause⟩) := by
  intro written status
  have hwritten : written = RpcFacts.endAttributes outcome := rfl
  refine ⟨?_, ?_, spanStatus_eq_unset_iff, ?_⟩
  · intro value hvalue
    rw [hwritten, RpcFacts.get?_exceptionMessage, Option.map_eq_some_iff] at hvalue
    obtain ⟨cause, hcause, rfl⟩ := hvalue
    have hblames := failureCause_eq_some_iff.mp (Option.mem_filter_iff.mp hcause).1
    exact ⟨cause.message, rfl, spanStatus_eq_error_iff.mpr (Or.inl ⟨cause, hblames, rfl⟩)⟩
  · intro message hnone hstatus
    rcases spanStatus_eq_error_iff.mp hstatus with ⟨cause, hblames, -⟩ | ⟨-, n, hn, hrange, rfl⟩
    · exact absurd hblames (hnone cause)
    · refine ⟨n, ?_, rfl, ?_⟩
      · rw [hwritten, RpcFacts.get?_httpResponseStatusCode, hasStatus_iff.mp hn]
        rfl
      · exact (Decidable.not_and_iff_or_not.mp hrange).imp UInt16.not_le.mp UInt16.not_lt.mp
  · intro response cause
    refine ⟨spanStatus_carrying response cause, ?_⟩
    unfold RpcFacts.extractor
    dsimp only
    rw [RpcFacts.endAttributes_carrying]

/-- A response of status 503 that says nothing more. -/
def unavailable : Outcome where
  response := some { status := some 503 }

/-- A refused call, whose response says why. -/
def throttled : Outcome :=
  .carrying (some { status := some 400 })
    { kind := "ThrottlingException", message := "Too many requests" }

/-- The call that is refused. -/
def refusedCall : Request where
  service := "BedrockRuntime"
  operation := some "InvokeModel"
  payload :=
    { identity := 0, typeName := "InvokeModelRequest", profileKey := "InvokeModelRequest",
      probe := fun _ => .absent, answer := fun _ _ => .unset, marshalled := none }

theorem unavailable_blameless : ∀ cause, ¬unavailable.Blames cause :=
  failureCause_eq_none_iff.mp rfl

theorem unavailable_throttled_agree :
    (∃ n : UInt16,
      ((RpcFacts.extractor.onEnd refusedCall unavailable).run {}).1.attributes.get?
          httpResponseStatusCode = some (.int n.toNat) ∧
        "HTTP 503" = "HTTP " ++ toString n.toNat ∧ (n < 100 ∨ 500 ≤ n)) ∧
    (∃ message, AttributeValue.text "Too many requests" = .text message ∧
      spanStatus throttled.response throttled.failure = .error message) ∧
    spanStatus (some { status := some 499 }) none = .unset := by
  have hmessage : spanStatus unavailable.response unavailable.failure = .error "HTTP 503" := by
    decide +kernel
  have hrecorded : ((RpcFacts.extractor.onEnd refusedCall throttled).run {}).1.attributes.get?
      exceptionMessage = some (.text "Too many requests") := by
    decide +kernel
  obtain ⟨-, hstatus, -, -⟩ := status_agrees refusedCall unavailable {}
  obtain ⟨hcause, -, -, -⟩ := status_agrees refusedCall throttled {}
  obtain ⟨-, -, hunset, -⟩ := status_agrees refusedCall ⟨some { status := some 499 }, none⟩ {}
  refine ⟨hstatus "HTTP 503" unavailable_blameless hmessage, hcause _ hrecorded, hunset.mpr ?_⟩
  refine ⟨failureCause_eq_none_iff.mp rfl, ?_⟩
  rintro n ⟨response, ⟨⟩, hn⟩
  obtain rfl : 499 = n := Option.some.inj hn
  decide

end CallTracing
