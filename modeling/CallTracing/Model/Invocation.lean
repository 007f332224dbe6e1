/-
  CallTracing/Model/Invocation.lean
  =================================
  **From a body field to a JSON value.**  The body of a model invocation is a field value: a text,
  or bytes that hold one.  Any other shape is no body, and a text that is no JSON is a malformed
  one; both are reported and then count as an absent body.
-/
import CallTracing.Json.Reader
import CallTracing.Payload.Accessor
import CallTracing.Payload.Display

namespace CallTracing

/-- Why a body was not decoded. -/
inductive BodyFault where
  /-- The value is neither a text nor bytes. -/
  | notText
  /-- The text is no JSON. -/
  | malformed
deriving DecidableEq, Repr

/-- The fault as trouble of the tracing layer. -/
def BodyFault.toTraceError : BodyFault → TraceError
  | .notText => ⟨.decode, "model invocation body is not text"⟩
  | .malformed => JsonFault.data.toTraceError "malformed JSON"

/-- The JSON value of a body. -/
def decodeBody (raw : FieldValue) : Except BodyFault Json :=
  match raw.decodeText? with
  | none => .error .notText
  | some text =>
    match Json.parse? text with
    | some body => .ok body
    | none => .error .malformed

/-- The JSON value of a body; a fault is reported. -/
def Session.parseBody (raw : FieldValue) : Reading (Option Json) :=
  match decodeBody raw with
  | .ok body => return some body
  | .error fault => do
    report ⟨.debug, .bodyDecoding, "model invocation body not decoded",
      [("error", fault.toTraceError.text)]⟩
    return none

/-- Only the text of a value matters for its body. -/
theorem decodeBody_congr {a b : FieldValue} (h : a.decodeText? = b.decodeText?) :
    decodeBody a = decodeBody b := by
  simp [decodeBody, h]

end CallTracing
