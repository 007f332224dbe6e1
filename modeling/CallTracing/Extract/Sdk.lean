/-
  CallTracing/Extract/Sdk.lean
  ============================
  **Facts that every service call has**: the mark of the tracing agent, the endpoint, and the
  identifier that the service gave the request.  The service that invokes models also says in two
  response headers how many tokens were read and written; where that is captured, each header that
  holds a whole number of 64 bits becomes an attribute, and one that does not is reported.
-/
import CallTracing.Attribute.Names
import CallTracing.Extract.Extractor
import CallTracing.Mapping.Category
import CallTracing.Text.Blank

namespace CallTracing

/-! ### Whole numbers in text -/

/-- Why a text is no whole number of 64 bits. -/
inductive IntegerFault where
  | empty
  | invalidDigit
  | tooLarge
  | tooSmall
deriving DecidableEq, Repr

/-- The fault in words. -/
def IntegerFault.message : IntegerFault → String
  | .empty => "cannot parse integer from empty string"
  | .invalidDigit => "invalid digit found in string"
  | .tooLarge => "number too large to fit in target type"
  | .tooSmall => "number too small to fit in target type"

/-- Read decimal digits onto a value.  The first digit that is none, or that leads out of the range
of 64 bits signed, ends the reading. -/
def readDigits (negative : Bool) (value : Int) : List Char → Except IntegerFault Int
  | [] => .ok value
  | c :: rest =>
    if !c.isDigit then .error .invalidDigit
    else
      let digit : Int := c.toNat - '0'.toNat
      let next := if negative then value * 10 - digit else value * 10 + digit
      if next < -(Int.pow 2 63) then .error .tooSmall
      else if Int.pow 2 63 ≤ next then .error .tooLarge
      else readDigits negative next rest

/-- A whole number of 64 bits: digits, with a sign of either kind in front if there is one. -/
def parseInt64 (text : List Char) : Except IntegerFault Int :=
  match text with
  | [] => .error .empty
  | ['+'] => .error .invalidDigit
  | ['-'] => .error .invalidDigit
  | '+' :: digits => readDigits false 0 digits
  | '-' :: digits => readDigits true 0 digits
  | digits => readDigits false 0 digits

/-! ### The extractor -/

namespace SdkFacts

open Names

/-- What is written before the call. -/
def startAttributes (request : Request) : AttributeSet :=
  (AttributeSet.empty.put agent (.text agentValue)).putNonEmpty endpoint request.endpoint

/-- Write a token count out of a response header. -/
def putTokenHeader (response : Response) (set : AttributeSet) (header target : String) :
    Reading AttributeSet :=
  match response.header? header with
  | none => return set
  | some raw =>
    match parseInt64 (Text.trimmed raw.toList) with
    | .ok count => return set.put target (.text (toString count))
    | .error fault => do
      Session.report ⟨.debug, .tokenHeaders, "unparseable token count header",
        [("header", header), ("value", raw), ("error", fault.message)]⟩
      return set

/-- What is written after the call. -/
def endAttributes (tokenHeaders : Bool) (request : Request) (outcome : Outcome) :
    Reading AttributeSet :=
  match outcome.response with
  | none => return .empty
  | some response => do
    let set :=
      match response.requestId with
      | some id => AttributeSet.empty.putNonEmpty requestId id
      | none => .empty
    if tokenHeaders && normalizedName request.service == modelServiceName then
      let set ← putTokenHeader response set inputTokenHeader GenAi.usagePromptTokens
      putTokenHeader response set outputTokenHeader GenAi.usageCompletionTokens
    else return set

/-- The extractor of these facts. -/
def extractor (tokenHeaders : Bool) : Extractor where
  name := "aws_sdk"
  onStart := fun request => return { attributes := startAttributes request }
  onEnd := fun request outcome => do
    return { attributes := ← endAttributes tokenHeaders request outcome }

end SdkFacts

end CallTracing
