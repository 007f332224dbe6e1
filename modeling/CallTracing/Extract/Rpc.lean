/-
  CallTracing/Extract/Rpc.lean
  ============================
  **Facts about the call itself**: which operation of which service it is, the HTTP request that
  carries it, and at its end the HTTP status and the cause of a failure.  Nothing is written for a
  fact that is not known or is an empty text.
-/
import CallTracing.Attribute.Names
import CallTracing.Extract.Extractor
import CallTracing.Span.Status

namespace CallTracing.RpcFacts

open Names

/-- Write a text that may be absent. -/
def putKnown (set : AttributeSet) (fact : String × Option String) : AttributeSet :=
  match fact.2 with
  | some value => set.putNonEmpty fact.1 value
  | none => set

/-- The facts of an HTTP request by attribute. -/
def httpFacts (http : HttpFacts) : List (String × Option String) :=
  [(serverAddress, http.host), (urlPath, http.target), (clientAddress, http.clientAddress),
    (httpRequestMethod, http.method), (userAgentHeader, http.userAgent),
    (urlScheme, http.scheme), (networkPeerAddress, http.peerAddress)]

/-- The facts of a request by attribute. -/
def requestFacts (request : Request) : List (String × Option String) :=
  [(rpcService, some request.service), (rpcMethod, request.operation),
    (codeFunction, request.operation), (codeNamespace, some request.payload.typeName)] ++
    match request.http with
    | some http => httpFacts http
    | none => []

/-- What is written before the call. -/
def startAttributes (request : Request) : AttributeSet :=
  (requestFacts request).foldl putKnown (AttributeSet.empty.put rpcSystem (.text rpcSystemValue))

/-- What is written after the call. -/
def endAttributes (outcome : Outcome) : AttributeSet :=
  let set :=
    match outcome.response.bind (·.status) with
    | some status => AttributeSet.empty.put httpResponseStatusCode (.int status.toNat)
    | none => .empty
  match failureCause outcome.response outcome.failure with
  | some cause =>
    (set.putNonEmpty errorType cause.kind).putNonEmpty exceptionMessage cause.message
  | none => set

/-- The extractor of these facts. -/
def extractor : Extractor where
  name := "rpc"
  onStart := fun request => return { attributes := startAttributes request }
  onEnd := fun _ outcome => return { attributes := endAttributes outcome }

end CallTracing.RpcFacts
