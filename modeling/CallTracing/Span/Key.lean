/-
  CallTracing/Span/Key.lean
  =========================
  **What a span stands for.**  A span key says which kind of exchange a span represents; the
  suppression of spans inside spans is decided on these keys.  Each key has a name, used in
  settings and in logs, and a kind that is told to the tracer.
-/
import CallTracing.Text.Blank
import CallTracing.Text.Casing

namespace CallTracing

/-- The kind of exchange a span represents. -/
inductive SpanKey where
  | rpcClient
  | httpClient
  | rpcServer
  | httpServer
  | producer
  | consumer
deriving DecidableEq, Repr

/-- The kind of a span, as tracers know it. -/
inductive SpanKind where
  | internal
  | client
  | server
  | producer
  | consumer
deriving DecidableEq, Repr

/-- The kind as it is shown. -/
def SpanKind.text : SpanKind → String
  | .internal => "Internal"
  | .client => "Client"
  | .server => "Server"
  | .producer => "Producer"
  | .consumer => "Consumer"

namespace SpanKey

/-- All keys. -/
def all : List SpanKey := [.rpcClient, .httpClient, .rpcServer, .httpServer, .producer, .consumer]

/-- The name of a key. -/
def name : SpanKey → String
  | .rpcClient => "rpc_client"
  | .httpClient => "http_client"
  | .rpcServer => "rpc_server"
  | .httpServer => "http_server"
  | .producer => "producer"
  | .consumer => "consumer"

/-- The key as diagnostics show it. -/
def shown : SpanKey → String
  | .rpcClient => "RpcClient"
  | .httpClient => "HttpClient"
  | .rpcServer => "RpcServer"
  | .httpServer => "HttpServer"
  | .producer => "Producer"
  | .consumer => "Consumer"

/-- The kind of the spans of a key. -/
def kind : SpanKey → SpanKind
  | .rpcClient => .client
  | .httpClient => .client
  | .rpcServer => .server
  | .httpServer => .server
  | .producer => .producer
  | .consumer => .consumer

/-- The key of exactly this name. -/
def ofName? (text : String) : Option SpanKey := all.find? (·.name == text)

/-- The key that a text names, whatever its case and the blanks around it; a text that names none
is reported in lower case. -/
def parse (text : String) : Except String SpanKey :=
  let wanted := Text.lower (Text.trim text)
  match ofName? wanted with
  | some key => .ok key
  | none => .error ("unknown span key '" ++ wanted ++ "'")

theorem ofName?_name (key : SpanKey) : ofName? key.name = some key := by cases key <;> decide

end SpanKey

end CallTracing
