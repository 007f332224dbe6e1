/-
  CallTracing/Proofs/Sink/Watched.lean
  ====================================
  **What is asked of a sink, and a sink that keeps a record of it.**

  A `SinkCall` is one call of an operation of a sink: what the operation was given, and how it came
  back.  `Sink.Performs` says which state a call leads to, and `Sink.PerformsAll` the same of calls
  one after the other.  Nothing is assumed of the sink: every operation may return, report an error
  or panic each time that it is called.

  A sink is watched by keeping the calls beside its state (`Sink.watched`).  The record is exact: a
  watched sink performs calls if and only if the sink itself does and just these calls are added to
  the record (`performsAll_watched`).
-/
import CallTracing.Sink.Basic

namespace CallTracing

variable {σ κ ς α : Type}

/-- The value that came back, if the code did not panic. -/
def Reply.value? : Reply α → Option α
  | .returned value => some value
  | .panicked _ => none

/-! ### Calls -/

/-- A call of an operation of a sink: what it was given, and how it came back. -/
inductive SinkCall (κ ς : Type) where
  | currentContext (reply : Reply κ)
  | shouldStart (parent : κ) (request : Request) (reply : Reply Bool)
  | start (parent : κ) (request : Request) (attributes : AttributeSet)
      (reply : Reply (Except TraceError κ))
  | activate (context : κ) (reply : Reply ς)
  | inject (context : κ) (given written : Headers) (reply : Reply Unit)
  | correlationIds (context : κ) (reply : Reply (Option (String × String)))
  | finish (context : κ) (request : Request) (outcome : Outcome) (attributes : AttributeSet)
      (reply : Reply (Except TraceError Unit))
  | release (scope : ς)
  | discard (context : κ)

/-- Whether an operation comes back so, and leaves this state behind. -/
def Operation.Gives (act : Operation σ α) (before : σ) (reply : Reply α) (after : σ) : Prop :=
  (act before).reply = reply ∧ (act before).state = after

namespace Sink

/-- Whether a sink performs a call and goes from one state to another by it. -/
def Performs (sink : Sink σ κ ς) (before after : σ) : SinkCall κ ς → Prop
  | .currentContext reply => sink.currentContext.Gives before reply after
  | .shouldStart parent request reply => (sink.shouldStart parent request).Gives before reply after
  | .start parent request attributes reply =>
      (sink.start parent request attributes).Gives before reply after
  | .activate context reply => (sink.activate context).Gives before reply after
  | .inject context given written reply =>
      (sink.inject context given before).1 = written ∧
        Operation.Gives (fun state => (sink.inject context given state).2) before reply after
  | .correlationIds context reply => (sink.correlationIds context).Gives before reply after
  | .finish context request outcome attributes reply =>
      (sink.finish context request outcome attributes).Gives before reply after
  | .release scope => sink.release scope before = after
  | .discard context => sink.discard context before = after

/-- Whether a sink performs calls one after the other. -/
def PerformsAll (sink : Sink σ κ ς) (before after : σ) : List (SinkCall κ ς) → Prop
  | [] => before = after
  | call :: rest =>
      ∃ between, sink.Performs before between call ∧ PerformsAll sink between after rest

theorem performsAll_append (sink : Sink σ κ ς) (first rest : List (SinkCall κ ς))
    (before after : σ) :
    sink.PerformsAll before after (first ++ rest) ↔
      ∃ between, sink.PerformsAll before between first ∧ sink.PerformsAll between after rest := by
  induction first generalizing before with
  | nil => simp [PerformsAll]
  | cons call first ih =>
    simp only [List.cons_append, PerformsAll, ih]
    constructor
    · rintro ⟨next, hcall, between, hfirst, hrest⟩
      exact ⟨between, ⟨next, hcall, hfirst⟩, hrest⟩
    · rintro ⟨between, ⟨next, hcall, hfirst⟩, hrest⟩
      exact ⟨next, hcall, between, hfirst, hrest⟩

end Sink

/-! ### Watching -/

/-- The state of a sink with the calls made so far, oldest first. -/
structure Watched (σ κ ς : Type) where
  state : σ
  calls : List (SinkCall κ ς) := []

/-- An operation with a record of its call. -/
def Operation.watched (act : Operation σ α) (call : Reply α → SinkCall κ ς) :
    Operation (Watched σ κ ς) α := fun watched =>
  let performed := act watched.state
  ⟨performed.reply, ⟨performed.state, watched.calls ++ [call performed.reply]⟩, performed.events⟩

namespace Sink

/-- A sink that keeps a record of its calls and is the same otherwise. -/
def watched (sink : Sink σ κ ς) : Sink (Watched σ κ ς) κ ς where
  currentContext := sink.currentContext.watched .currentContext
  shouldStart := fun parent request =>
    (sink.shouldStart parent request).watched (.shouldStart parent request)
  start := fun parent request attributes =>
    (sink.start parent request attributes).watched (.start parent request attributes)
  activate := fun context => (sink.activate context).watched (.activate context)
  inject := fun context given watched =>
    let written := (sink.inject context given watched.state).1
    (written, Operation.watched (fun state => (sink.inject context given state).2)
      (.inject context given written) watched)
  correlationIds := fun context => (sink.correlationIds context).watched (.correlationIds context)
  finish := fun context request outcome attributes =>
    (sink.finish context request outcome attributes).watched
      (.finish context request outcome attributes)
  release := fun scope watched =>
    ⟨sink.release scope watched.state, watched.calls ++ [.release scope]⟩
  discard := fun context watched =>
    ⟨sink.discard context watched.state, watched.calls ++ [.discard context]⟩

theorem performs_watched (sink : Sink σ κ ς) (before after : Watched σ κ ς)
    (call : SinkCall κ ς) :
    sink.watched.Performs before after call ↔
      sink.Performs before.state after.state call ∧ after.calls = before.calls ++ [call] := by
  obtain ⟨state, calls⟩ := after
  cases call <;>
    simp only [Performs, watched, Operation.Gives, Operation.watched, Watched.mk.injEq] <;>
    grind

/-- **The record of a watched sink is exact.** -/
theorem performsAll_watched (sink : Sink σ κ ς) (before after : Watched σ κ ς)
    (calls : List (SinkCall κ ς)) :
    sink.watched.PerformsAll before after calls ↔
      sink.PerformsAll before.state after.state calls ∧ after.calls = before.calls ++ calls := by
  induction calls generalizing before with
  | nil =>
    obtain ⟨state, calls⟩ := before
    obtain ⟨state', calls'⟩ := after
    simp [PerformsAll, eq_comm]
  | cons call rest ih =>
    simp only [PerformsAll, ih, performs_watched]
    constructor
    · rintro ⟨between, ⟨hcall, hcalls⟩, hrest, hafter⟩
      exact ⟨⟨between.state, hcall, hrest⟩, by rw [hafter, hcalls]; simp⟩
    · rintro ⟨⟨between, hcall, hrest⟩, hafter⟩
      exact ⟨⟨between, before.calls ++ [call]⟩, ⟨hcall, rfl⟩, hrest, by simp [hafter]⟩

end Sink

end CallTracing
