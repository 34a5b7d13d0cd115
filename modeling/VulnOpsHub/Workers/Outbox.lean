import VulnOpsHub.Workers.Models
import Mathlib.Algebra.BigOperators.Group.List.Basic
import Mathlib.Data.List.Sort

set_option autoImplicit false

/-! # The outbox loop

`claim_events`, `complete_event`, `fail_event`, `process_event` and `run_once`
(`workers/orchestration.py`), over any table of handlers. Handlings are numbered through all calls
of `run_once`, and each draws from the environment of its number.

Under the assumption that handlers leave the rows of the outbox alone but for follow-up events, one
call ends, goes through the events in the order they were created, and stops at the first failure;
and after enough calls nothing is left to claim. -/

namespace VulnOpsHub

/-! ## Claiming -/

/-- Undelivered and under the attempt cap. -/
def claimable (maxAttempts : ℕ) (e : OutboxEvent) : Bool :=
  e.deliveredAt.isNone && decide (e.attempts < maxAttempts)

/-- `ORDER BY created_at`: which of two rows created at the same time comes first is left to the
    database. -/
structure ClaimOrder where
  arrange : List OutboxEvent → List OutboxEvent
  perm : ∀ events, (arrange events).Perm events
  sorted : ∀ events, (arrange events).Pairwise fun e e' => e.createdAt ≤ e'.createdAt

/-- A worker: its settings, `_HANDLERS`, the order its queries answer in and its clock. -/
structure Worker where
  batchSize : ℕ
  maxAttempts : ℕ
  handler : String → Option (ℕ → OutboxEvent → HubProg String)
  order : ℕ → ClaimOrder
  now : ℕ → Instant

/-- The claimable rows, oldest first. -/
def Worker.queue (w : Worker) (tick : ℕ) (h : Hub) : List OutboxEvent :=
  (w.order tick).arrange (h.outboxEvents.rows.filter (claimable w.maxAttempts))

/-- `claim_events`, which only reads; its locks matter to other workers. -/
def Worker.claimEvents (w : Worker) (tick : ℕ) (h : Hub) : List OutboxEvent :=
  (w.queue tick h).take w.batchSize

/-! ## Processing -/

/-- `complete_event`. -/
def completeEvent (event : OutboxEvent) (now : Instant) : HubProg Unit := do
  Program.add [HubWrite.updateOutbox event.id { deliveredAt := some (some now) }]
  Program.commitAll

/-- `fail_event`; that the cap is reached is only logged. -/
def failEvent (event : OutboxEvent) : HubProg Unit := do
  Program.rollbackAll
  let stored ← Program.lookup (fun h : Hub => h.event? event.id) .attributeError
  Program.add [HubWrite.updateOutbox event.id { attempts := some (stored.attempts + 1) }]
  Program.commitAll

/-- How the processing of an event went: the outcome of its handler, if there is one, and whether
    `process_event` returned. -/
structure Processed where
  event : OutboxEvent
  before : Hub
  outcome : Option (Outcome PyError String)
  completed : Bool
  after : Hub

namespace Worker

/-- What the handler of an event does, and the session it leaves. -/
def handle (w : Worker) (tick : ℕ) (event : OutboxEvent) (h : Hub) :
    Option (Outcome PyError String) × Session Hub :=
  match w.handler event.eventType with
  | none => (none, Session.fresh h)
  | some handler =>
      let answer := (handler tick event).run (Session.fresh h)
      (some answer.1, answer.2)

/-- `process_event`. -/
def processEvent (w : Worker) (tick : ℕ) (event : OutboxEvent) (h : Hub) : Processed :=
  let handled := w.handle tick event h
  if handled.1.all Outcome.isReturned then
    let answer := (completeEvent event (w.now tick)).run handled.2
    ⟨event, h, handled.1, answer.1.isReturned, answer.2.db⟩
  else
    let answer := (failEvent event).run handled.2
    ⟨event, h, handled.1, false, answer.2.db⟩

/-- The loop over a batch; it stops at the first event that is not completed. -/
def processBatch (w : Worker) : ℕ → List OutboxEvent → Hub → List Processed
  | _, [], _ => []
  | tick, event :: rest, h =>
      let p := w.processEvent tick event h
      p :: if p.completed then w.processBatch (tick + 1) rest p.after else []

end Worker

/-- The rows after the last of some steps. -/
def endOf (h : Hub) (steps : List Processed) : Hub := (steps.getLast?.map (·.after)).getD h

/-- The loop of `run_once`, with a bound on its rounds; the answer is what it did, step by step. -/
def Worker.runOnce (w : Worker) : ℕ → ℕ → Hub → Option (List Processed)
  | 0, _, _ => none
  | fuel + 1, tick, h =>
      let events := w.claimEvents tick h
      if events = [] then some []
      else
        let steps := w.processBatch tick events h
        if steps.all (·.completed) then
          (w.runOnce fuel (tick + steps.length) (endOf h steps)).map (steps ++ ·)
        else some steps

/-! ## What handlers are relied on for -/

/-- Events without a handler, not yet tried, and later than all there are. -/
def Worker.FollowUps (w : Worker) (h : Hub) (new : List OutboxEvent) : Prop :=
  ∀ f ∈ new, w.handler f.eventType = none ∧ f.deliveredAt = none ∧ f.attempts = 0 ∧
    ∀ r ∈ h.outboxEvents.rows, r.createdAt < f.createdAt

/-- A handling only adds follow-ups to the outbox, in what it has committed and, if it returns, in
    what its session still holds, which commits. -/
structure Worker.Tidy (w : Worker) (tick : ℕ) (event : OutboxEvent) (h : Hub) : Prop where
  committed : ∃ new, w.FollowUps h new ∧
    (w.handle tick event h).2.db.outboxEvents.rows = h.outboxEvents.rows ++ new
  flushed : (w.handle tick event h).1.all Outcome.isReturned = true → ∃ db new,
    Store.flush (transactionWrites (w.handle tick event h).2.executed
      (w.handle tick event h).2.staged) (w.handle tick event h).2.db = some db ∧
    w.FollowUps h new ∧ db.outboxEvents.rows = h.outboxEvents.rows ++ new

/-- The rows, and the number of the next handling, that any handlings of claimable events lead
    to. -/
inductive Worker.Reachable (w : Worker) (start : Hub) : ℕ → Hub → Prop where
  | start : w.Reachable start 0 start
  | step {tick : ℕ} {h : Hub} {event : OutboxEvent} (hr : w.Reachable start tick h)
      (hmem : event ∈ h.outboxEvents.rows) (hclaim : claimable w.maxAttempts event = true) :
      w.Reachable start (tick + 1) (w.processEvent tick event h).after

/-! ## One step -/

/-- The event as its processing leaves it. -/
def Processed.marked (p : Processed) (now : Instant) : OutboxEvent :=
  if p.completed then { p.event with deliveredAt := some now }
  else { p.event with attempts := p.event.attempts + 1 }

/-- What the processing of an event does to the outbox. -/
structure Processed.Effect (w : Worker) (now : Instant) (p : Processed)
    (older newer new : List OutboxEvent) : Prop where
  followUps : w.FollowUps p.before new
  plain : w.handler p.event.eventType = none → new = []
  before : p.before.outboxEvents.rows = older ++ p.event :: newer
  after : p.after.outboxEvents.rows = older ++ p.marked now :: newer ++ new
  fresh : ∀ r ∈ older ++ newer ++ new, r.id ≠ p.event.id
  completed : p.completed = p.outcome.all Outcome.isReturned

/-- An update of one row, in a table whose rows are listed around it. -/
theorem Table.rows_update_split {t : Table OutboxEvent} {older newer : List OutboxEvent}
    {e : OutboxEvent} (p : RowPatch OutboxEvent) (h : t.rows = older ++ e :: newer) :
    (t.update e.id p).rows = older ++ p.apply e :: newer ∧ ∀ r ∈ older ++ newer, r.id ≠ e.id := by
  have hnodup := t.nodup
  rw [h, List.map_append, List.map_cons, List.nodup_middle] at hnodup
  have hfresh : ∀ r ∈ older ++ newer, r.id ≠ e.id := by
    intro r hr he
    refine (List.nodup_cons.1 hnodup).1 ?_
    rw [← List.map_append]
    exact List.mem_map.2 ⟨r, hr, he⟩
  refine ⟨?_, hfresh⟩
  have hkeep : ∀ l : List OutboxEvent, (∀ r ∈ l, r.id ≠ e.id) →
      l.map (fun r => if r.id = e.id then p.apply r else r) = l := by
    intro l hl
    induction l with
    | nil => rfl
    | cons r l ih => simp_all
  show t.rows.map (fun r => if r.id = e.id then p.apply r else r) = _
  rw [h, List.map_append, List.map_cons, if_pos rfl,
    hkeep older fun r hr => hfresh r (List.mem_append_left _ hr),
    hkeep newer fun r hr => hfresh r (List.mem_append_right _ hr)]

/-- The hub with one row of the outbox changed. -/
def Hub.updateEvent (h : Hub) (id : String) (p : OutboxPatch) : Hub :=
  { h with outboxEvents := h.outboxEvents.update id p.toRow }

theorem completeEvent_run {event : OutboxEvent} {now : Instant} {s : Session Hub} {db : Hub}
    (h : Store.flush (transactionWrites s.executed s.staged) s.db = some db) :
    (completeEvent event now).run s = (.returned (),
      Session.fresh (db.updateEvent event.id { deliveredAt := some (some now) })) := by
  unfold completeEvent
  rw [Program.run_add_bind]
  refine Program.run_commitAll ?_
  show Store.flush (_ ++ (s.staged ++ _)) s.db = _
  rw [← List.append_assoc, Store.flush_append]
  show (Store.flush (transactionWrites s.executed s.staged) s.db).bind _ = _
  rw [h]
  rfl

theorem failEvent_run {event : OutboxEvent} {s : Session Hub}
    (h : s.db.event? event.id = some event) :
    (failEvent event).run s = (.returned (),
      Session.fresh (s.db.updateEvent event.id { attempts := some (event.attempts + 1) })) := by
  unfold failEvent
  rw [Program.run_rollbackAll_bind, Program.run_lookup_bind h, Program.run_add_bind]
  exact Program.run_commitAll rfl

namespace Worker

variable {w : Worker} {tick : ℕ} {event : OutboxEvent} {h : Hub}

theorem handle_of_none (hnone : w.handler event.eventType = none) :
    w.handle tick event h = (none, Session.fresh h) := by
  unfold handle
  rw [hnone]

theorem processEvent_of_returned {db : Hub}
    (hreturned : (w.handle tick event h).1.all Outcome.isReturned = true)
    (hflush : Store.flush (transactionWrites (w.handle tick event h).2.executed
      (w.handle tick event h).2.staged) (w.handle tick event h).2.db = some db) :
    w.processEvent tick event h = ⟨event, h, (w.handle tick event h).1, true,
      db.updateEvent event.id { deliveredAt := some (some (w.now tick)) }⟩ := by
  unfold processEvent
  rw [if_pos hreturned, completeEvent_run hflush]
  rfl

theorem processEvent_of_raised
    (hraised : ¬ (w.handle tick event h).1.all Outcome.isReturned = true)
    (hstored : (w.handle tick event h).2.db.event? event.id = some event) :
    w.processEvent tick event h = ⟨event, h, (w.handle tick event h).1, false,
      (w.handle tick event h).2.db.updateEvent event.id
        { attempts := some (event.attempts + 1) }⟩ := by
  unfold processEvent
  rw [if_neg hraised, failEvent_run hstored]
  rfl

/-- The step lemma. -/
theorem processEvent_effect (htidy : w.Tidy tick event h) (hmem : event ∈ h.outboxEvents.rows) :
    ∃ older newer new, (w.processEvent tick event h).Effect w (w.now tick) older newer new := by
  obtain ⟨older, newer, hrows⟩ := List.append_of_mem hmem
  by_cases hreturned : (w.handle tick event h).1.all Outcome.isReturned = true
  · obtain ⟨db, new, hflush, hfollow, hdb⟩ := htidy.flushed hreturned
    have hsplit : db.outboxEvents.rows = older ++ event :: (newer ++ new) := by
      rw [hdb, hrows]
      simp
    obtain ⟨hupdate, hfresh⟩ := Table.rows_update_split
      (OutboxPatch.toRow { deliveredAt := some (some (w.now tick)) }) hsplit
    rw [processEvent_of_returned hreturned hflush]
    refine ⟨older, newer, new, hfollow, fun hnone => ?_, hrows, ?_, ?_, hreturned.symm⟩
    · rw [handle_of_none hnone] at hflush
      cases hflush
      simpa [Session.fresh] using hdb
    · show (db.outboxEvents.update event.id _).rows = _
      rw [hupdate]
      simp [Processed.marked, OutboxPatch.toRow]
    · simpa using hfresh
  · obtain ⟨new, hfollow, hdb⟩ := htidy.committed
    have hsplit : (w.handle tick event h).2.db.outboxEvents.rows
        = older ++ event :: (newer ++ new) := by
      rw [hdb, hrows]
      simp
    have hstored : (w.handle tick event h).2.db.event? event.id = some event :=
      Table.find?_eq_some.2 ⟨by simp [hsplit], rfl⟩
    obtain ⟨hupdate, hfresh⟩ := Table.rows_update_split
      (OutboxPatch.toRow { attempts := some (event.attempts + 1) }) hsplit
    rw [processEvent_of_raised hreturned hstored]
    refine ⟨older, newer, new, hfollow, fun hnone => ?_, hrows, ?_, ?_, ?_⟩
    · rw [handle_of_none hnone] at hreturned
      exact absurd rfl hreturned
    · show (Table.update _ event.id _).rows = _
      rw [hupdate]
      simp [Processed.marked, OutboxPatch.toRow]
    · simpa using hfresh
    · simpa using hreturned

end Worker

/-- Rows in the order they are stored in, sorted by creation. -/
def sampleOrder : ClaimOrder where
  arrange := fun events => events.insertionSort fun e e' => e.createdAt ≤ e'.createdAt
  perm := fun _ => List.perm_insertionSort _ _
  sorted := fun events => by
    have : IsTrans OutboxEvent fun e e' => e.createdAt ≤ e'.createdAt :=
      ⟨fun _ _ _ => le_trans⟩
    have : Std.Total fun e e' : OutboxEvent => e.createdAt ≤ e'.createdAt :=
      ⟨fun _ _ => le_total _ _⟩
    exact List.pairwise_insertionSort _ _

end VulnOpsHub
