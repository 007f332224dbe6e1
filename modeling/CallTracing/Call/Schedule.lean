/-
  CallTracing/Call/Schedule.lean
  ==============================
  **Hooks in any order.**

  A host with several calls under way runs their hooks interleaved, leaves some out, repeats some,
  or gives a call up.  A schedule is a list of such steps over numbered slots; whole calls that are
  intercepted contain the steps that run inside them.  Running a schedule leaves one report for
  each step, with the slot, the sink and the log as they were then.

  A step at a slot that is not open does nothing.  A new call at an open slot gives up the old one
  first.  At the end the open slots are given up, the newest first.
-/
import CallTracing.Call.Controller

namespace CallTracing

/-- A step of a schedule. -/
inductive Step where
  | beforeEnter (slot : Nat) (request : Request)
  | beforeExit (slot : Nat)
  | afterEnter (slot : Nat) (response : Response)
  | afterExit (slot : Nat) (failure : Option CallFailure)
  | drop (slot : Nat)
  /-- A whole call, with the steps that run inside it and its result. -/
  | intercept (request : Request) (inner : List Step) (result : Except CallFailure Response)

/-- What a report is about. -/
inductive ReportPoint where
  | beforeEnter
  | beforeExit
  | afterEnter
  | afterExit
  | drop
  /-- An intercepted call has begun. -/
  | call
  /-- An intercepted call is over. -/
  | intercept
  /-- All is over. -/
  | finale
deriving DecidableEq, Repr

/-- How things stand after a step. -/
structure Report (σ κ ς : Type) where
  point : ReportPoint
  /-- The number of the slot, and the slot if it is open. -/
  slot : Option (Nat × Option (Slot κ ς)) := none
  /-- The headers that an intercepted call saw, and what came of it. -/
  result : Option (Headers × Except CallFailure Response) := none
  sink : σ
  /-- All events so far. -/
  log : List Event

/-- What the host of several calls keeps. -/
structure Desk (σ κ ς : Type) where
  /-- The open slots, the newest first. -/
  slots : List (Nat × Slot κ ς) := []
  reports : List (Report σ κ ς) := []
  /-- The headers that the last finished call saw. -/
  seen : Headers := []

namespace Schedule

variable {σ κ ς : Type}

/-- A computation at the desk. -/
abbrev Work (σ κ ς : Type) := Hook σ (Desk σ κ ς)

/-- Change what is at the desk. -/
def onDesk (change : Desk σ κ ς → Desk σ κ ς) : Work σ κ ς Unit :=
  modify fun scene => { scene with host := change scene.host }

/-- The slot of a number, if it is open. -/
def slot? (n : Nat) : Work σ κ ς (Option (Slot κ ς)) := do return (← get).host.slots.lookup n

/-- Put a slot in the place of the old one of its number. -/
def setSlot (n : Nat) (slot : Slot κ ς) : Work σ κ ς Unit :=
  onDesk fun desk =>
    { desk with slots := desk.slots.map fun entry => if entry.1 = n then (n, slot) else entry }

/-- Report how things stand. -/
def report (point : ReportPoint) (slot : Option (Nat × Option (Slot κ ς)) := none)
    (result : Option (Headers × Except CallFailure Response) := none) : Work σ κ ς Unit := do
  let scene ← get
  onDesk fun desk =>
    { desk with
      reports := desk.reports ++ [⟨point, slot, result, scene.sink, scene.session.log⟩] }

/-- Report about a slot. -/
def reportSlot (point : ReportPoint) (n : Nat) : Work σ κ ς Unit := do
  report point (some (n, ← slot? n))

/-- Give up a slot, if it is open. -/
def close (controller : Controller σ κ ς) (n : Nat) : Work σ κ ς Unit := do
  if let some slot ← slot? n then
    onDesk fun desk => { desk with slots := desk.slots.filter (·.1 != n) }
    controller.drop slot

/-- Run a hook on a slot, if it is open. -/
def hookAt (n : Nat) (hook : Slot κ ς → Work σ κ ς (Slot κ ς)) : Work σ κ ς Unit := do
  if let some slot ← slot? n then setSlot n (← hook slot)

/-- Open a slot for a new call. -/
def «open» (controller : Controller σ κ ς) (n : Nat) (request : Request) : Work σ κ ς Unit := do
  close controller n
  let slot ← controller.beforeEnter request
  onDesk fun desk => { desk with slots := (n, slot) :: desk.slots }

mutual

/-- Run one step. -/
def runStep (controller : Controller σ κ ς) : Step → Work σ κ ς Unit
  | .beforeEnter n request => do
    «open» controller n request
    reportSlot .beforeEnter n
  | .beforeExit n => do
    hookAt n controller.beforeExit
    reportSlot .beforeExit n
  | .afterEnter n response => do
    hookAt n fun slot => controller.afterEnter slot response
    reportSlot .afterEnter n
  | .afterExit n failure => do
    hookAt n fun slot => controller.afterExit slot failure
    reportSlot .afterExit n
  | .drop n => do
    close controller n
    reportSlot .drop n
  | .intercept request inner result => do
    let _ ← controller.intercept request fun headers => do
      report .call
      runSteps controller inner
      onDesk fun desk => { desk with seen := headers }
      return .returned result
    report .intercept none (some ((← get).host.seen, result))

/-- Run steps one after the other. -/
def runSteps (controller : Controller σ κ ς) : List Step → Work σ κ ς Unit
  | [] => return ()
  | step :: rest => do
    runStep controller step
    runSteps controller rest

end

/-- Give up every open slot, the newest first. -/
def closeAll (controller : Controller σ κ ς) : Work σ κ ς Unit := do
  for entry in (← get).host.slots do close controller entry.1

/-- Run a whole schedule. -/
def run (controller : Controller σ κ ς) (steps : List Step) : Work σ κ ς Unit := do
  runSteps controller steps
  closeAll controller
  report .finale

/-- The reports of a schedule that starts with a sink in some state. -/
def reports (controller : Controller σ κ ς) (sink : σ) (steps : List Step) :
    List (Report σ κ ς) :=
  ((run controller steps).run ⟨{}, sink, {}⟩).2.host.reports

end Schedule

end CallTracing
