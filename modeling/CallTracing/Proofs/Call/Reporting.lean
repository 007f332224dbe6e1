/-
  CallTracing/Proofs/Call/Reporting.lean
  ======================================
  **What hooks report.**

  `Hook.Upholds` says of a computation in a scene that it keeps an invariant of the session and that
  its value meets a condition.  Where the invariant is one of the cache and of every event of the
  log (`Session.Within`), the rules ask for nothing but that what is reported is allowed.  The sink
  takes part only by the events of its operations and by what they return.
-/
import CallTracing.Proofs.Call.Conduct
import CallTracing.Proofs.Payload.Readings

namespace CallTracing

open Reading

namespace Hook

variable {σ η α β : Type} {inv : Session → Prop} {m : Hook σ η α} {post post' : α → Prop}

/-- A computation that keeps an invariant of the session and gives what meets a condition. -/
def Upholds (inv : Session → Prop) (m : Hook σ η α) (post : α → Prop) : Prop :=
  ∀ scene, inv scene.session → inv (m.run scene).2.session ∧ post (m.run scene).1

theorem upholds_pure {a : α} (h : post a) : Upholds inv (pure a : Hook σ η α) post :=
  fun _ hscene => ⟨hscene, h⟩

theorem Upholds.bind {next : α → Hook σ η β} {last : β → Prop} (h : Upholds inv m post)
    (hnext : ∀ a, post a → Upholds inv (next a) last) : Upholds inv (m >>= next) last := by
  intro scene hscene
  obtain ⟨hkept, hpost⟩ := h scene hscene
  exact hnext _ hpost _ hkept

theorem upholds_reading {r : Reading α} (h : Maintains inv r post) :
    Upholds inv (reading r : Hook σ η α) post :=
  fun scene hscene => h scene.session hscene

theorem upholds_onSink (change : σ → σ) :
    Upholds inv (onSink change : Hook σ η Unit) fun _ => True :=
  fun _ hscene => ⟨hscene, trivial⟩

theorem run_bind (m : Hook σ η α) (next : α → Hook σ η β) (scene : Scene σ η) :
    (m >>= next).run scene = (next (m.run scene).1).run (m.run scene).2 := rfl

/-! ### Reports -/

variable {shape : AccessorCache → Prop} {allowed : Event → Prop}

theorem upholds_report {event : Event} (h : allowed event) :
    Upholds (Session.Within shape allowed) (report event : Hook σ η Unit) fun _ => True :=
  upholds_reading (maintains_report h)

theorem upholds_reportAll {events : List Event} (h : ∀ event ∈ events, allowed event) :
    Upholds (Session.Within shape allowed) (reportAll events : Hook σ η Unit) fun _ => True := by
  induction events with
  | nil => exact upholds_pure trivial
  | cons event events ih =>
    have hfirst : Upholds (Session.Within shape allowed) (report event : Hook σ η Unit) fun _ => True :=
      upholds_report (h event List.mem_cons_self)
    exact hfirst.bind fun _ _ => ih fun later hlater => h later (List.mem_cons_of_mem _ hlater)

/-- An operation that returns reports what it reports, and no more. -/
theorem upholds_guarded {operation : SinkOperation} {act : Operation σ α}
    {post : Option α → Prop} (hevents : ∀ state, ∀ event ∈ (act state).events, allowed event)
    (hreply : ∀ state, ∃ value, (act state).reply = .returned value ∧ post (some value)) :
    Upholds (Session.Within shape allowed) (guarded operation act : Hook σ η (Option α)) post := by
  intro scene hscene
  obtain ⟨value, hvalue, hpost⟩ := hreply scene.sink
  rw [run_guarded, hvalue]
  have hsettled : Upholds (Session.Within shape allowed)
      (settled operation (act scene.sink).events (.returned value) : Hook σ η (Option α)) post :=
    (upholds_reportAll (hevents scene.sink)).bind fun _ _ => upholds_pure hpost
  exact hsettled { scene with sink := (act scene.sink).state } hscene

end Hook

end CallTracing
