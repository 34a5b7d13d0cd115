import VulnOpsHub.Workers.Effects
import VulnOpsHub.Workers.Outbox

set_option autoImplicit false

/-! # Processing with the handlers of the orchestrator

`OutboxOrchestrator` as a worker over its own handlers: what the processing of an event leaves is
what the rounds of its findings lead through, up to the outbox. -/

namespace VulnOpsHub

/-! ## The orchestrator -/

/-- An orchestrator over all the events it will handle: what its `tick`-th handling finds outside,
    and what its queries and its clock answer. -/
structure Orchestrator where
  settings : OrchestratorSettings
  sources : ℕ → Sources
  clock : ℕ → ℕ → ℕ → Instant
  uuid : ℕ → ℕ → ℕ → String
  order : ℕ → ClaimOrder
  now : ℕ → Instant

/-- What its `tick`-th handling takes from outside. -/
def Orchestrator.handling (o : Orchestrator) (tick : ℕ) : Handling where
  settings := o.settings
  sources := o.sources tick
  clock := o.clock tick
  uuid := o.uuid tick

/-- The rows are the same but for the outbox. -/
def Hub.SameButOutbox (h h' : Hub) : Prop := ∃ t, h' = { h with outboxEvents := t }

theorem Hub.SameButOutbox.refl (h : Hub) : h.SameButOutbox h := ⟨h.outboxEvents, rfl⟩

theorem failEvent_frame (event : OutboxEvent) (h : Hub) :
    h.SameButOutbox ((failEvent event).run (Session.fresh h)).2.db := by
  unfold failEvent
  rw [Program.run_rollbackAll_bind]
  cases hevent : h.event? event.id with
  | none =>
      rw [Program.run_lookup_bind_none hevent]
      exact .refl h
  | some stored =>
      rw [Program.run_lookup_bind hevent, Program.run_add_bind, Program.run_commitAll rfl]
      exact ⟨_, rfl⟩

/-- Completing or failing an event writes the outbox only. -/
theorem Worker.processEvent_frame {w : Worker} {tick : ℕ} {event : OutboxEvent} {h h₁ : Hub}
    (hfresh : (w.handle tick event h).2 = Session.fresh h₁) :
    h₁.SameButOutbox (w.processEvent tick event h).after := by
  by_cases hreturned : (w.handle tick event h).1.all Outcome.isReturned = true
  · have hflush : Store.flush (transactionWrites (w.handle tick event h).2.executed
        (w.handle tick event h).2.staged) (w.handle tick event h).2.db = some h₁ := by
      rw [hfresh]
      rfl
    rw [Worker.processEvent_of_returned hreturned hflush]
    exact ⟨_, rfl⟩
  · unfold Worker.processEvent
    rw [if_neg hreturned, hfresh]
    exact failEvent_frame event h₁

section Processing

variable [Python] [Packaging]

/-- The worker it is, with `_HANDLERS`. -/
def Orchestrator.worker (o : Orchestrator) : Worker where
  batchSize := o.settings.batchSize
  maxAttempts := o.settings.maxAttempts
  handler := fun type => (handlerOf type).map fun handler tick event =>
    handler (o.handling tick) event
  order := o.order
  now := o.now

namespace Orchestrator

variable {o : Orchestrator} {tick : ℕ} {event : OutboxEvent} {h : Hub}

/-- The rows that handling an event can lead to, if its process may die on the way. -/
def Leads (o : Orchestrator) (tick : ℕ) (event : OutboxEvent) (h h' : Hub) : Prop :=
  h' = h ∨ ∃ fs, findingsOf (o.handling tick) event h = .ok fs ∧
    Passes (o.handling tick) event.id 0 fs h h'

theorem handle_of_handler {handler : Handling → OutboxEvent → HubProg String}
    (hhandler : handlerOf event.eventType = some handler) :
    o.worker.handle tick event h =
      (some ((handler (o.handling tick) event).run (Session.fresh h)).1,
        ((handler (o.handling tick) event).run (Session.fresh h)).2) := by
  unfold Worker.handle worker
  simp only [hhandler, Option.map_some]

theorem handle_of_none (hnone : handlerOf event.eventType = none) :
    o.worker.handle tick event h = (none, Session.fresh h) :=
  Worker.handle_of_none (by simp [worker, hnone])

/-- **Processing an event leads where its findings lead**, and marks the event. -/
theorem processEvent_leads (o : Orchestrator) (tick : ℕ) (event : OutboxEvent) (h : Hub) :
    ∃ h₁, o.Leads tick event h h₁ ∧
      h₁.SameButOutbox (o.worker.processEvent tick event h).after := by
  cases hhandler : handlerOf event.eventType with
  | none =>
      exact ⟨h, Or.inl rfl, Worker.processEvent_frame (by rw [handle_of_none hhandler])⟩
  | some handler =>
      generalize hrun : (handler (o.handling tick) event).run (Session.fresh h) = answer
      obtain ⟨out, s⟩ := answer
      obtain ⟨hfresh, hleads⟩ := passes_of_run hhandler hrun
      refine ⟨s.db, hleads, Worker.processEvent_frame ?_⟩
      rw [handle_of_handler hhandler, hrun]
      exact hfresh

/-- A process that dies while it handles an event has led there too. -/
theorem crashed_leads {handler : Handling → OutboxEvent → HubProg String}
    (hhandler : handlerOf event.eventType = some handler) {h' : Hub}
    (hcrashed : (handler (o.handling tick) event).Crashed h h') : o.Leads tick event h h' :=
  passes_of_crashed hhandler hcrashed

/-- An event is only marked delivered when all rounds of its findings have been gone through. -/
theorem rounds_of_completed {handler : Handling → OutboxEvent → HubProg String}
    (hhandler : handlerOf event.eventType = some handler)
    (hcompleted : (o.worker.processEvent tick event h).completed = true) :
    ∃ fs h₁, findingsOf (o.handling tick) event h = .ok fs ∧
      Rounds (o.handling tick) event.id 0 fs h h₁ ∧
      h₁.SameButOutbox (o.worker.processEvent tick event h).after := by
  generalize hrun : (handler (o.handling tick) event).run (Session.fresh h) = answer
  obtain ⟨out, s⟩ := answer
  have hhandle : o.worker.handle tick event h = (some out, s) := by
    rw [handle_of_handler hhandler, hrun]
  have hreturned : out.isReturned = true := by
    by_contra hnot
    unfold Worker.processEvent at hcompleted
    rw [hhandle] at hcompleted
    simp [hnot] at hcompleted
  cases out with
  | returned summary =>
      obtain ⟨fs, h₁, hfs, rfl, hrounds⟩ := rounds_of_returned hhandler hrun
      exact ⟨fs, h₁, hfs, hrounds, Worker.processEvent_frame (by rw [hhandle])⟩
  | raised e => cases hreturned
  | failed => cases hreturned

end Orchestrator

end Processing

/-- An orchestrator whose sources confirm the vulnerability of a package. -/
def sampleOrchestrator : Orchestrator where
  settings := (sampleHandling sampleConfirming).settings
  sources := fun _ => sampleConfirming
  clock := fun tick i j => 10000 * tick + 100 * i + j
  uuid := fun tick i j => toString (10000 * tick + 100 * i + j)
  order := fun _ => sampleOrder
  now := fun tick => 10000 * tick

end VulnOpsHub
