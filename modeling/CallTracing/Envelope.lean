/-
  CallTracing/Envelope.lean
  =========================
  **What a host says about a call.**  A `Request` is handed in before the call, a `Response` after
  it.  A request without an operation is not traced.  The headers of a response are a list in which
  a name stands once, spelled as the host spelled it; a header is looked up without regard to the
  case of ASCII letters, and the first name that matches counts.
-/
import CallTracing.Payload.Assembled
import CallTracing.Span.Key

namespace CallTracing

/-- The facts of the HTTP request that carries a call. -/
structure HttpFacts where
  host : Option String := none
  target : Option String := none
  method : Option String := none
  userAgent : Option String := none
  scheme : Option String := none
  clientAddress : Option String := none
  peerAddress : Option String := none
deriving DecidableEq, Repr

/-- A text that may be absent, as diagnostics show it. -/
def shownText? (value : Option String) : String := Text.shownOption (value.map Text.quoted)

/-- The facts as diagnostics show them. -/
def HttpFacts.shown (http : HttpFacts) : String :=
  Text.shownRecord "HttpRequestInfo"
    [("host", shownText? http.host), ("target", shownText? http.target),
      ("method", shownText? http.method), ("user_agent", shownText? http.userAgent),
      ("scheme", shownText? http.scheme), ("client_address", shownText? http.clientAddress),
      ("peer_address", shownText? http.peerAddress)]

/-- A call before it is made. -/
structure Request where
  service : String
  operation : Option String := none
  payload : Payload
  endpoint : String := ""
  spanKey : SpanKey := .rpcClient
  http : Option HttpFacts := none

namespace Request

/-- The name of the span of a call, if the call is traced. -/
def spanName? (request : Request) : Option String :=
  request.operation.map fun operation => request.service ++ "." ++ operation

/-- The request as diagnostics show it. -/
def shown (request : Request) : String :=
  Text.shownRecord "RequestEnvelope"
    [("service_name", Text.quoted request.service),
      ("operation_name", shownText? request.operation),
      ("payload", Text.quoted request.payload.typeName),
      ("endpoint", Text.quoted request.endpoint),
      ("span_key", request.spanKey.shown)]

end Request

/-! ### Headers -/

/-- Headers by name, as they were first put in. -/
abbrev Headers := List (String × String)

namespace Headers

/-- Set a header; one of exactly this name is replaced. -/
def set (name value : String) : Headers → Headers
  | [] => [(name, value)]
  | (key, old) :: rest =>
    if key = name then (name, value) :: rest else (key, old) :: set name value rest

/-- The value of the first header whose name matches, whatever the case of its ASCII letters. -/
def find? (headers : Headers) (name : String) : Option String :=
  (List.find? (fun header => Text.sameIgnoringAsciiCase header.1.toList name.toList)
    headers).map (·.2)

end Headers

/-- What came of a call. -/
structure Response where
  payload : Option Payload := none
  status : Option UInt16 := none
  headers : Headers := []
  error : Option CallFailure := none
  requestId : Option String := none

namespace Response

/-- The value of a header. -/
def header? (response : Response) (name : String) : Option String := response.headers.find? name

/-- The response with a header set. -/
def withHeader (response : Response) (name value : String) : Response :=
  { response with headers := Headers.set name value response.headers }

/-- A failure as diagnostics show it. -/
def shownFailure (failure : CallFailure) : String :=
  Text.shownRecord "CallFailure"
    [("kind", Text.quoted failure.kind), ("message", Text.quoted failure.message)]

/-- The response as diagnostics show it. -/
def shown (response : Response) : String :=
  Text.shownRecord "ResponseEnvelope"
    [("payload", shownText? (response.payload.map (·.typeName))),
      ("http_status", Text.shownOption (response.status.map fun status => toString status.toNat)),
      ("headers", toString response.headers.length),
      ("error", Text.shownOption (response.error.map shownFailure)),
      ("request_id", shownText? response.requestId)]

end Response

theorem spanName?_isSome (request : Request) :
    request.spanName?.isSome = request.operation.isSome := by
  cases h : request.operation <;> simp [Request.spanName?, h]

end CallTracing
