/-
  CallTracing/Sink/Basic.lean
  ===========================
  **Where spans go.**  A `Sink` creates spans, keeps the current context, and decides on
  suppression.  It is somebody else's code: each of its operations may panic, two of them may
  report an error, and it may report events of its own.

  A sink is a record of operations on its state `σ`.  Its contexts `κ` are handed back to it; a
  scope `ς` stands for an activation, until it is released.  Releasing a scope and giving up a
  context are operations too, because a sink may do something then.
-/
import CallTracing.Attribute.Set
import CallTracing.Envelope
import CallTracing.Event
import CallTracing.Extract.Extractor

namespace CallTracing

/-- How foreign code came back. -/
inductive Reply (α : Type) where
  | returned (value : α)
  /-- The code panicked, with a message unless that was no text. -/
  | panicked (message : Option String)
deriving Repr

/-- What running an operation left behind. -/
structure Performed (σ α : Type) where
  reply : Reply α
  state : σ
  events : List Event := []

/-- An operation on a state. -/
abbrev Operation (σ α : Type) := σ → Performed σ α

/-- An operation that returns a value and does nothing else. -/
def Operation.pure {σ α : Type} (value : α) : Operation σ α :=
  fun state => ⟨.returned value, state, []⟩

/-- The operations of a sink that can fail. -/
inductive SinkOperation where
  | currentContext
  | shouldStart
  | start
  | activate
  | inject
  | correlationIds
  | finish
deriving DecidableEq, Repr

/-- The name of an operation in diagnostics. -/
def SinkOperation.name : SinkOperation → String
  | .currentContext => "current_context"
  | .shouldStart => "should_start"
  | .start => "start"
  | .activate => "activate"
  | .inject => "inject"
  | .correlationIds => "correlation_ids"
  | .finish => "end"

/-- Where spans go. -/
structure Sink (σ κ ς : Type) where
  /-- The context that code runs in now. -/
  currentContext : Operation σ κ
  /-- Whether a call in a context gets a span. -/
  shouldStart : κ → Request → Operation σ Bool
  /-- Start a span in a context; what is given back is the context inside it. -/
  start : κ → Request → AttributeSet → Operation σ (Except TraceError κ)
  /-- Make a context the current one. -/
  activate : κ → Operation σ ς
  /-- Write the headers that pass a context on; what was written stays even if this panics. -/
  inject : κ → Headers → σ → Headers × Performed σ Unit
  /-- The ids by which the span of a context is found elsewhere. -/
  correlationIds : κ → Operation σ (Option (String × String))
  /-- End the span of a context. -/
  finish : κ → Request → Outcome → AttributeSet → Operation σ (Except TraceError Unit)
  /-- Take an activation back. -/
  release : ς → σ → σ
  /-- Give up a context. -/
  discard : κ → σ → σ

end CallTracing
