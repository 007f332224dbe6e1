/-
  CallTracing/Proofs/Call/Interception.lean
  =========================================
  **What an intercepted call asks of the sink around its body.**

  An intercepted call is what is done before its body, the body, and what is left then
  (`run_intercept`).  The hooks after the body, and giving the slot up at the end, start no span and
  make no context current.  They take the activation of the slot back, if there is one, or leave it
  to what comes after them (`ClosesTo`).
-/
import CallTracing.Proofs.Call.Conduct

namespace CallTracing

variable {σ κ ς η : Type}

namespace SinkCall

/-- Whether a call starts a span or makes a context current. -/
def opens : SinkCall κ ς → Bool
  | .start .. => true
  | .activate .. => true
  | _ => false

/-- The activation that a call takes back. -/
def released? : SinkCall κ ς → Option ς
  | .release scope => some scope
  | _ => none

end SinkCall

/-! ### Closing -/

/-- Calls that open nothing and take the activation of a slot back, unless it stays. -/
structure ClosesTo (scope rest : Option ς) (calls : List (SinkCall κ ς)) : Prop where
  opens_nothing : ∀ call ∈ calls, call.opens = false
  released : calls.filterMap SinkCall.released? ++ rest.toList = scope.toList

theorem ClosesTo.nil (scope : Option ς) : ClosesTo scope scope ([] : List (SinkCall κ ς)) :=
  ⟨by simp, rfl⟩

theorem ClosesTo.append {scope between rest : Option ς} {first later : List (SinkCall κ ς)}
    (hfirst : ClosesTo scope between first) (hlater : ClosesTo between rest later) :
    ClosesTo scope rest (first ++ later) where
  opens_nothing := by
    intro call hcall
    rcases List.mem_append.mp hcall with hcall | hcall
    · exact hfirst.opens_nothing call hcall
    · exact hlater.opens_nothing call hcall
  released := by
    rw [List.filterMap_append, List.append_assoc, hlater.released, hfirst.released]

/-- A call that has nothing to do with activations. -/
theorem ClosesTo.cons {scope rest : Option ς} {call : SinkCall κ ς}
    {calls : List (SinkCall κ ς)} (hopens : call.opens = false) (hreleased : call.released? = none)
    (h : ClosesTo scope rest calls) : ClosesTo scope rest (call :: calls) where
  opens_nothing := by
    intro other hother
    rcases List.mem_cons.mp hother with rfl | hother
    · exact hopens
    · exact h.opens_nothing other hother
  released := by
    rw [List.filterMap_cons_none hreleased]
    exact h.released

theorem closesTo_release (scope : ς) :
    ClosesTo (some scope) none ([.release scope] : List (SinkCall κ ς)) := by
  refine ⟨?_, rfl⟩
  intro call hcall
  rw [List.mem_singleton.mp hcall]
  rfl

theorem closesTo_releases (slot : Slot κ ς) : ClosesTo slot.scope none slot.releases := by
  rw [Slot.releases]
  cases slot.scope with
  | none => exact .nil none
  | some scope => exact closesTo_release scope

/-- What the sink is asked when a slot is given up. -/
def Slot.givenUp (slot : Slot κ ς) : List (SinkCall κ ς) :=
  (slot.context.map .discard).toList ++ slot.releases

theorem closesTo_givenUp (slot : Slot κ ς) : ClosesTo slot.scope none slot.givenUp := by
  rw [Slot.givenUp]
  cases slot.context with
  | none => exact closesTo_releases slot
  | some context => exact .cons rfl rfl (closesTo_releases slot)

theorem HookStep.closesTo {slot slot' : Slot κ ς} {hook : HookCall} {calls : List (SinkCall κ ς)}
    (hstep : HookStep slot hook calls slot') (hhook : hook ≠ .beforeExit) :
    ClosesTo slot.scope slot'.scope calls := by
  cases hstep with
  | notActive => exact .nil _
  | answered hphase context hcontext response attributes reply =>
    refine .cons rfl rfl ((closesTo_releases slot).append ?_)
    exact .cons rfl rfl (.nil none)
  | orphaned => exact closesTo_releases slot
  | exited hphase context hcontext failure attributes reply =>
    exact .cons rfl rfl (.cons rfl rfl (closesTo_releases slot))
  | closed => exact closesTo_releases slot
  | _ => exact absurd rfl hhook

namespace Controller

open Hook

variable {controller : Controller σ κ ς}

theorem asks_givenUp {slot : Slot κ ς} {post : Unit → List (SinkCall κ ς) → Prop}
    (h : post () slot.givenUp) :
    Asks controller.sink (controller.drop slot : Hook σ η Unit) post := by
  obtain ⟨request, phase, context, scope, started, ids, headers⟩ := slot
  cases context with
  | none =>
    cases scope with
    | none => exact asks_pure h
    | some scope => exact asks_onSink (.release scope) (fun _ => rfl) h
  | some context =>
    refine asks_bind (asks_onSink (.discard context) (fun _ => rfl) ?_)
    cases scope with
    | none => exact asks_pure h
    | some scope => exact asks_onSink (.release scope) (fun _ => rfl) h

theorem asks_drop (slot : Slot κ ς) :
    Asks controller.sink (controller.drop slot : Hook σ η Unit)
      fun _ calls => ClosesTo slot.scope none calls :=
  asks_givenUp (closesTo_givenUp slot)

/-! ### Around the body -/

/-- What an intercepted call does before its body. -/
def prepare (controller : Controller σ κ ς) (request : Request) : Hook σ η (Slot κ ς) := do
  let slot ← controller.beforeEnter request
  controller.beforeExit slot

theorem asks_prepare (controller : Controller σ κ ς) (request : Request) :
    Asks controller.sink (controller.prepare request : Hook σ η (Slot κ ς))
      fun slot calls => HookStep
        { request := request
          phase := if controller.enabled && request.operation.isSome then .pendingStart else .idle }
        .beforeExit calls slot :=
  asks_bind (asks_beforeEnter controller (asks_beforeExit _))

/-- What is left of an intercepted call once its body came back. -/
def settle (controller : Controller σ κ ς) (slot : Slot κ ς) :
    Reply (Except CallFailure Response) → Hook σ η Unit
  | .returned (.ok response) => do
    let slot ← controller.afterEnter slot response
    let slot ← controller.afterExit slot response.error
    controller.drop slot
  | .returned (.error failure) => do
    let slot ← controller.afterExit slot (some failure)
    controller.drop slot
  | .panicked _ => controller.drop slot

/-- An intercepted call is what is done before its body, the body, and what is left then. -/
theorem run_intercept (controller : Controller σ κ ς) (request : Request)
    (body : Headers → Hook σ η (Reply (Except CallFailure Response))) (scene : Scene σ η) :
    (controller.intercept request body).run scene =
      (let opened := (controller.prepare request).run scene
       let called := (body opened.1.headers).run opened.2
       (called.1, ((controller.settle opened.1 called.1).run called.2).2)) := by
  have hbody : ∀ (slot : Slot κ ς) (reply : Reply (Except CallFailure Response))
      (scene : Scene σ η),
      (match reply with
        | .returned (.ok response) => do
          let slot ← controller.afterEnter slot response
          let slot ← controller.afterExit slot response.error
          controller.drop slot
          pure reply
        | .returned (.error failure) => do
          let slot ← controller.afterExit slot (some failure)
          controller.drop slot
          pure reply
        | .panicked _ => do
          controller.drop slot
          pure reply : Hook σ η _).run scene =
        (reply, ((controller.settle slot reply).run scene).2) := by
    intro slot reply scene
    rcases reply with (failure | response) | message <;> rfl
  exact hbody _ _ _

end Controller

end CallTracing
