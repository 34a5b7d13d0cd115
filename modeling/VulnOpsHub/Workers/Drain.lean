import VulnOpsHub.Workers.Outbox
import Mathlib.Algebra.Ring.Nat
import Mathlib.Data.Prod.Lex

set_option autoImplicit false

/-! # Draining the outbox

What `run_once` does, call by call, when handlers only add follow-up events: a call ends, goes
through the claimable events oldest first and stops at a failure. If each event's handler always
succeeds or always fails, failing calls use up the attempts of the failing events, and the first
call that does not fail leaves nothing to claim. -/

namespace VulnOpsHub

/-! ## Claimed batches -/

namespace Worker

/-- An event that may be handled now: no older one is claimable. -/
structure Due (w : Worker) (h : Hub) (event : OutboxEvent) : Prop where
  mem : event ∈ h.outboxEvents.rows
  claim : claimable w.maxAttempts event = true
  oldest : ∀ r ∈ h.outboxEvents.rows, claimable w.maxAttempts r = true →
    event.createdAt ≤ r.createdAt

/-- The oldest claimable events, in order. -/
structure Front (w : Worker) (h : Hub) (batch : List OutboxEvent) : Prop where
  mem : ∀ e ∈ batch, e ∈ h.outboxEvents.rows
  claim : ∀ e ∈ batch, claimable w.maxAttempts e = true
  sorted : batch.Pairwise fun e e' => e.createdAt ≤ e'.createdAt
  nodup : (batch.map (·.id)).Nodup
  oldest : ∀ r ∈ h.outboxEvents.rows, claimable w.maxAttempts r = true → r ∉ batch →
    ∀ e ∈ batch, e.createdAt ≤ r.createdAt

variable {w : Worker} {tick : ℕ} {h : Hub}

theorem mem_queue {r : OutboxEvent} : r ∈ w.queue tick h ↔
    r ∈ h.outboxEvents.rows ∧ claimable w.maxAttempts r = true := by
  unfold queue
  rw [((w.order tick).perm _).mem_iff, List.mem_filter]

theorem nodup_queue (w : Worker) (tick : ℕ) (h : Hub) : ((w.queue tick h).map (·.id)).Nodup := by
  refine (((w.order tick).perm _).map _).nodup_iff.2 ?_
  exact h.outboxEvents.nodup.sublist (List.filter_sublist.map _)

theorem claimEvents_front (w : Worker) (tick : ℕ) (h : Hub) : w.Front h (w.claimEvents tick h) := by
  have hsorted : (w.queue tick h).Pairwise fun e e' => e.createdAt ≤ e'.createdAt :=
    (w.order tick).sorted _
  refine ⟨fun e he => ?_, fun e he => ?_, ?_, ?_, ?_⟩
  · exact (mem_queue.1 (List.mem_of_mem_take he)).1
  · exact (mem_queue.1 (List.mem_of_mem_take he)).2
  · exact hsorted.sublist (List.take_sublist _ _)
  · exact (nodup_queue w tick h).sublist ((List.take_sublist _ _).map _)
  · intro r hr hclaim hnot e he
    have hmem : r ∈ w.queue tick h := mem_queue.2 ⟨hr, hclaim⟩
    -- what is not taken comes after what is
    rw [← List.take_append_drop w.batchSize (w.queue tick h)] at hmem hsorted
    rcases List.mem_append.1 hmem with hmem | hmem
    · exact absurd hmem hnot
    · exact (List.pairwise_append.1 hsorted).2.2 e he r hmem

/-- Nothing is claimed only when nothing is claimable. -/
theorem not_claimable_of_claimEvents (hbatch : 1 ≤ w.batchSize) (hnil : w.claimEvents tick h = []) :
    ∀ r ∈ h.outboxEvents.rows, claimable w.maxAttempts r = false := by
  intro r hr
  by_contra hclaim
  have hmem : r ∈ w.queue tick h := mem_queue.2 ⟨hr, by simpa using hclaim⟩
  rcases List.take_eq_nil_iff.1 hnil with hzero | hempty
  · omega
  · rw [hempty] at hmem
    cases hmem

theorem Front.due {event : OutboxEvent} {rest : List OutboxEvent}
    (hfront : w.Front h (event :: rest)) : w.Due h event := by
  refine ⟨hfront.mem _ List.mem_cons_self, hfront.claim _ List.mem_cons_self, ?_⟩
  intro r hr hclaim
  by_cases hmem : r ∈ event :: rest
  · rcases List.mem_cons.1 hmem with rfl | hrest
    · exact le_refl _
    · exact List.rel_of_pairwise_cons hfront.sorted hrest
  · exact hfront.oldest r hr hclaim hmem _ List.mem_cons_self

end Worker

/-! ## What a step leaves -/

namespace Processed.Effect

variable {w : Worker} {now : Instant} {p : Processed} {older newer new : List OutboxEvent}
  {r : OutboxEvent}

theorem mem_after (he : p.Effect w now older newer new) :
    r ∈ p.after.outboxEvents.rows ↔ r ∈ older ++ newer ∨ r = p.marked now ∨ r ∈ new := by
  rw [he.after]
  simp only [List.mem_append, List.mem_cons]
  tauto

theorem mem_before (he : p.Effect w now older newer new) :
    r ∈ p.before.outboxEvents.rows ↔ r ∈ older ++ newer ∨ r = p.event := by
  rw [he.before]
  simp only [List.mem_append, List.mem_cons]
  tauto

/-- Other events keep their rows. -/
theorem mem_after_of_ne (he : p.Effect w now older newer new)
    (hr : r ∈ p.before.outboxEvents.rows) (hne : r.id ≠ p.event.id) :
    r ∈ p.after.outboxEvents.rows := by
  rcases he.mem_before.1 hr with hr | rfl
  · exact he.mem_after.2 (Or.inl hr)
  · exact absurd rfl hne

theorem marked_mem (he : p.Effect w now older newer new) :
    p.marked now ∈ p.after.outboxEvents.rows :=
  he.mem_after.2 (Or.inr (Or.inl rfl))

/-- The row of an event stays, under its id and type and its creation time. -/
theorem kept (he : p.Effect w now older newer new) (hr : r ∈ p.before.outboxEvents.rows) :
    ∃ r' ∈ p.after.outboxEvents.rows, r'.id = r.id ∧ r'.createdAt = r.createdAt ∧
      r'.eventType = r.eventType ∧ r' = if r.id = p.event.id then p.marked now else r := by
  by_cases hid : r.id = p.event.id
  · have hevent : r = p.event := by
      rcases he.mem_before.1 hr with hother | hevent
      · exact absurd hid (he.fresh r (List.mem_append_left _ hother))
      · exact hevent
    refine ⟨p.marked now, he.marked_mem, ?_, ?_, ?_, by rw [if_pos hid]⟩ <;>
      unfold marked <;> rw [hevent] <;> split <;> rfl
  · exact ⟨r, he.mem_after_of_ne hr hid, rfl, rfl, rfl, by rw [if_neg hid]⟩

/-- What is claimable after a completed step was so before, or is a follow-up. -/
theorem claimable_after (he : p.Effect w now older newer new) (hcompleted : p.completed = true)
    (hr : r ∈ p.after.outboxEvents.rows) (hclaim : claimable w.maxAttempts r = true) :
    (r ∈ p.before.outboxEvents.rows ∧ r.id ≠ p.event.id) ∨ r ∈ new := by
  rcases he.mem_after.1 hr with hr | rfl | hr
  · exact Or.inl ⟨he.mem_before.2 (Or.inl hr), he.fresh r (List.mem_append_left _ hr)⟩
  · simp [Processed.marked, hcompleted, claimable] at hclaim
  · exact Or.inr hr

end Processed.Effect

/-- A completed step leaves the rest of its batch in front. -/
theorem Worker.Front.rest {w : Worker} {now : Instant} {p : Processed}
    {older newer new batch : List OutboxEvent} (hfront : w.Front p.before (p.event :: batch))
    (he : p.Effect w now older newer new) (hcompleted : p.completed = true) :
    w.Front p.after batch := by
  have hnodup := List.nodup_cons.1 hfront.nodup
  refine ⟨fun e hmem => ?_, fun e hmem => hfront.claim e (List.mem_cons_of_mem _ hmem),
    (List.pairwise_cons.1 hfront.sorted).2, hnodup.2, ?_⟩
  · refine he.mem_after_of_ne (hfront.mem e (List.mem_cons_of_mem _ hmem)) fun hid => ?_
    exact hnodup.1 (List.mem_map.2 ⟨e, hmem, hid⟩)
  · intro r hr hclaim hnot e hmem
    have hebefore := hfront.mem e (List.mem_cons_of_mem _ hmem)
    rcases he.claimable_after hcompleted hr hclaim with ⟨hbefore, hne⟩ | hnew
    · refine hfront.oldest r hbefore hclaim (fun hcons => ?_) e (List.mem_cons_of_mem _ hmem)
      rcases List.mem_cons.1 hcons with rfl | hbatch
      · exact hne rfl
      · exact hnot hbatch
    · exact le_of_lt ((he.followUps r hnew).2.2.2 e hebefore)

/-! ## Runs of steps -/

/-- Some handlings, one after the other, each of an event that is due; only the last may fail. -/
inductive Worker.Steps (w : Worker) : ℕ → Hub → List Processed → Prop where
  | nil (tick : ℕ) (h : Hub) : w.Steps tick h []
  | cons {tick : ℕ} {h : Hub} {event : OutboxEvent} {rest : List Processed} (due : w.Due h event)
      (go : (w.processEvent tick event h).completed = true ∨ rest = [])
      (next : w.Steps (tick + 1) (w.processEvent tick event h).after rest) :
      w.Steps tick h (w.processEvent tick event h :: rest)

/-- Handlings of claimable events only add follow-ups to the outbox, from `start` on. -/
def Worker.TidyFrom (w : Worker) (start : Hub) : Prop :=
  ∀ tick h, w.Reachable start tick h → ∀ event ∈ h.outboxEvents.rows,
    claimable w.maxAttempts event = true → w.Tidy tick event h

/-- Each step begins where the one before it ended. -/
def Follows : Hub → List Processed → Prop
  | _, [] => True
  | h, p :: rest => p.before = h ∧ Follows p.after rest

@[simp] theorem endOf_nil (h : Hub) : endOf h [] = h := rfl

@[simp] theorem endOf_cons (h : Hub) (p : Processed) (rest : List Processed) :
    endOf h (p :: rest) = endOf p.after rest := by
  unfold endOf
  rw [List.getLast?_cons]
  cases rest.getLast? <;> rfl

theorem endOf_append (h : Hub) (steps more : List Processed) :
    endOf h (steps ++ more) = endOf (endOf h steps) more := by
  induction steps generalizing h with
  | nil => rfl
  | cons p rest ih => simp [ih]

namespace Worker

variable {w : Worker} {start : Hub} {tick : ℕ} {h : Hub} {event : OutboxEvent}
  {steps : List Processed}

@[simp] theorem processEvent_event (w : Worker) (tick : ℕ) (event : OutboxEvent) (h : Hub) :
    (w.processEvent tick event h).event = event := by
  unfold processEvent
  dsimp only
  split <;> rfl

@[simp] theorem processEvent_before (w : Worker) (tick : ℕ) (event : OutboxEvent) (h : Hub) :
    (w.processEvent tick event h).before = h := by
  unfold processEvent
  dsimp only
  split <;> rfl

/-- The step lemma, where it applies in a run. -/
theorem Due.effect (hdue : w.Due h event) (htidy : w.TidyFrom start)
    (hreach : w.Reachable start tick h) :
    ∃ older newer new, (w.processEvent tick event h).Effect w (w.now tick) older newer new :=
  processEvent_effect (htidy tick h hreach event hdue.mem hdue.claim) hdue.mem

theorem Due.reach (hdue : w.Due h event) (hreach : w.Reachable start tick h) :
    w.Reachable start (tick + 1) (w.processEvent tick event h).after :=
  hreach.step hdue.mem hdue.claim

/-- The end of a run is reachable. -/
theorem Steps.reach (hsteps : w.Steps tick h steps) (hreach : w.Reachable start tick h) :
    w.Reachable start (tick + steps.length) (endOf h steps) := by
  induction hsteps with
  | nil => exact hreach
  | cons due _ _ ih =>
      rw [endOf_cons, List.length_cons, Nat.add_comm _ 1, ← Nat.add_assoc]
      exact ih (due.reach hreach)

theorem Steps.append {more : List Processed} (hsteps : w.Steps tick h steps)
    (hcompleted : ∀ p ∈ steps, p.completed = true)
    (hmore : w.Steps (tick + steps.length) (endOf h steps) more) :
    w.Steps tick h (steps ++ more) := by
  induction hsteps with
  | nil => exact hmore
  | cons due go _ ih =>
      rw [endOf_cons, List.length_cons, Nat.add_comm _ 1, ← Nat.add_assoc] at hmore
      refine .cons due (Or.inl (hcompleted _ List.mem_cons_self)) ?_
      exact ih (fun p hp => hcompleted p (List.mem_cons_of_mem _ hp)) hmore

/-- A claimed batch is gone through oldest first. -/
theorem processBatch_steps (htidy : w.TidyFrom start) {batch : List OutboxEvent}
    (hfront : w.Front h batch) (hreach : w.Reachable start tick h) :
    w.Steps tick h (w.processBatch tick batch h) := by
  induction batch generalizing tick h with
  | nil => exact .nil tick h
  | cons event rest ih =>
      have hdue := hfront.due
      obtain ⟨older, newer, new, heffect⟩ := hdue.effect htidy hreach
      unfold processBatch
      dsimp only
      by_cases hcompleted : (w.processEvent tick event h).completed = true
      · rw [if_pos hcompleted]
        refine .cons hdue (Or.inl hcompleted) (ih ?_ (hdue.reach hreach))
        refine Front.rest ?_ heffect hcompleted
        simpa using hfront
      · rw [if_neg hcompleted]
        exact .cons hdue (Or.inr rfl) (.nil _ _)

/-- Every handled event was due. -/
theorem Steps.due (hsteps : w.Steps tick h steps) : ∀ p ∈ steps, w.Due p.before p.event := by
  induction hsteps with
  | nil => simp
  | cons due _ _ ih =>
      intro p hp
      rcases List.mem_cons.1 hp with rfl | hp
      · simpa using due
      · exact ih p hp

theorem Steps.follows (hsteps : w.Steps tick h steps) : Follows h steps := by
  induction hsteps with
  | nil => exact trivial
  | cons _ _ _ ih => exact ⟨processEvent_before _ _ _ _, ih⟩

/-- Only the last step may fail. -/
theorem Steps.stops (hsteps : w.Steps tick h steps) :
    ∀ p ∈ steps, p.completed = false → steps.getLast? = some p := by
  induction hsteps with
  | nil => simp
  | cons _ go _ ih =>
      intro p hp hfailed
      rcases List.mem_cons.1 hp with rfl | hp
      · rcases go with hgo | rfl
        · rw [hgo] at hfailed
          cases hfailed
        · rfl
      · rw [List.getLast?_cons, ih p hp hfailed]
        rfl

/-- An event handled in a run was there at its beginning, or was created later than all that
    were. -/
theorem Steps.present_or_later (htidy : w.TidyFrom start) (hsteps : w.Steps tick h steps)
    (hreach : w.Reachable start tick h) : ∀ p ∈ steps, p.event ∈ h.outboxEvents.rows ∨
      ∀ r ∈ h.outboxEvents.rows, r.createdAt < p.event.createdAt := by
  induction hsteps with
  | nil => simp
  | @cons tick h event rest due go next ih =>
      obtain ⟨older, newer, new, heffect⟩ := due.effect htidy hreach
      intro p hp
      rcases List.mem_cons.1 hp with rfl | hp
      · rw [processEvent_event]
        exact Or.inl due.mem
      have hcompleted : (w.processEvent tick event h).completed = true := by
        rcases go with hgo | rfl
        · exact hgo
        · cases hp
      rcases ih (due.reach hreach) p hp with hmem | hlater
      · rcases heffect.claimable_after hcompleted hmem (next.due p hp).claim with ⟨hmem, -⟩ | hnew
        · rw [processEvent_before] at hmem
          exact Or.inl hmem
        · have hlater := (heffect.followUps _ hnew).2.2.2
          rw [processEvent_before] at hlater
          exact Or.inr hlater
      · refine Or.inr fun r hr => ?_
        obtain ⟨r', hr', -, hcreated, -⟩ := heffect.kept (r := r) (by simpa using hr)
        rw [← hcreated]
        exact hlater r' hr'

/-- Events are handled in the order they were created. -/
theorem Steps.sorted (htidy : w.TidyFrom start) (hsteps : w.Steps tick h steps)
    (hreach : w.Reachable start tick h) :
    steps.Pairwise fun p q => p.event.createdAt ≤ q.event.createdAt := by
  induction hsteps with
  | nil => exact List.Pairwise.nil
  | @cons tick h event rest due go next ih =>
      refine List.pairwise_cons.2 ⟨fun q hq => ?_, ih (due.reach hreach)⟩
      have hmem : q ∈ w.processEvent tick event h :: rest := List.mem_cons_of_mem _ hq
      have hwhole := Steps.cons due go next
      rw [processEvent_event]
      rcases hwhole.present_or_later htidy hreach q hmem with hpresent | hlater
      · exact due.oldest _ hpresent (hwhole.due q hmem).claim
      · exact le_of_lt (hlater _ due.mem)

end Worker

/-! ## What a step does to delivery and attempts -/

/-- A step delivers no event but its own, and that one after its handler returned; it counts an
    attempt of no event but its own, and that one when its handler did not. No row is lost. -/
structure Processed.Accounts (p : Processed) : Prop where
  kept : ∀ r ∈ p.before.outboxEvents.rows, ∃ r' ∈ p.after.outboxEvents.rows, r'.id = r.id
  delivered : ∀ r' ∈ p.after.outboxEvents.rows, r'.deliveredAt.isSome →
    (∃ r ∈ p.before.outboxEvents.rows, r.id = r'.id ∧ r.deliveredAt.isSome) ∨
      (r'.id = p.event.id ∧ p.outcome.all Outcome.isReturned = true)
  attempts : ∀ r ∈ p.before.outboxEvents.rows, ∀ r' ∈ p.after.outboxEvents.rows, r'.id = r.id →
    r'.attempts = r.attempts +
      if r.id = p.event.id ∧ p.outcome.all Outcome.isReturned = false then 1 else 0

theorem Table.eq_of_id {t : Table OutboxEvent} {r r' : OutboxEvent} (hr : r ∈ t.rows)
    (hr' : r' ∈ t.rows) (hid : r.id = r'.id) : r = r' :=
  List.inj_on_of_nodup_map t.nodup hr hr' hid

theorem Processed.Effect.accounts {w : Worker} {now : Instant} {p : Processed}
    {older newer new : List OutboxEvent} (he : p.Effect w now older newer new) : p.Accounts := by
  refine ⟨fun r hr => ?_, fun r' hr' hdelivered => ?_, fun r hr r' hr' hid => ?_⟩
  · obtain ⟨r', hr', hid, -⟩ := he.kept hr
    exact ⟨r', hr', hid⟩
  · rcases he.mem_after.1 hr' with hother | rfl | hnew
    · exact Or.inl ⟨r', he.mem_before.2 (Or.inl hother), rfl, hdelivered⟩
    · cases hcompleted : p.completed with
      | true => exact Or.inr ⟨by simp [Processed.marked, hcompleted], he.completed ▸ hcompleted⟩
      | false =>
          simp only [Processed.marked, hcompleted] at hdelivered
          exact Or.inl ⟨p.event, he.mem_before.2 (Or.inr rfl), by simp [Processed.marked, hcompleted],
            hdelivered⟩
    · simp [(he.followUps r' hnew).2.1] at hdelivered
  · obtain ⟨r'', hr'', hid'', -, -, heq⟩ := he.kept hr
    obtain rfl : r' = r'' := Table.eq_of_id hr' hr'' (hid.trans hid''.symm)
    by_cases hevent : r.id = p.event.id
    · have hrow : r = p.event := by
        rcases he.mem_before.1 hr with hother | hrow
        · exact absurd hevent (he.fresh r (List.mem_append_left _ hother))
        · exact hrow
      rw [heq, if_pos hevent, ← he.completed]
      cases hcompleted : p.completed <;> simp [Processed.marked, hcompleted, hrow]
    · rw [heq, if_neg hevent, if_neg fun h => hevent h.1]
      rfl

/-! ## A call ends -/

namespace Worker

variable {w : Worker} {start : Hub} {tick : ℕ} {h : Hub} {event : OutboxEvent}
  {steps : List Processed}

/-- The claimable events with a handler, and those without. -/
def pending (w : Worker) (h : Hub) : Lex (ℕ × ℕ) :=
  toLex (h.outboxEvents.rows.countP fun r =>
      claimable w.maxAttempts r && (w.handler r.eventType).isSome,
    h.outboxEvents.rows.countP fun r =>
      claimable w.maxAttempts r && (w.handler r.eventType).isNone)

/-- A completed step takes its event off; the follow-ups it may add need no handler. -/
theorem pending_lt {now : Instant} {p : Processed} {older newer new : List OutboxEvent}
    (he : p.Effect w now older newer new) (hclaim : claimable w.maxAttempts p.event = true)
    (hcompleted : p.completed = true) : w.pending p.after < w.pending p.before := by
  have hmarked : claimable w.maxAttempts (p.marked now) = false := by
    simp [Processed.marked, hcompleted, claimable]
  have hnew : new.countP (fun r =>
      claimable w.maxAttempts r && (w.handler r.eventType).isSome) = 0 := by
    rw [List.countP_eq_zero]
    intro r hr
    simp [(he.followUps r hr).1]
  unfold pending
  rw [he.before, he.after, Prod.Lex.toLex_lt_toLex]
  simp only [List.countP_append, List.countP_cons, hmarked, hclaim, hnew, Bool.true_and,
    Bool.false_and]
  cases hhandler : w.handler p.event.eventType with
  | none => simp [he.plain hhandler]
  | some handler => simp

/-- The steps of a run that does not fail come down in a well-founded order. -/
theorem Steps.pending_lt (htidy : w.TidyFrom start) (hsteps : w.Steps tick h steps)
    (hreach : w.Reachable start tick h) (hcompleted : ∀ p ∈ steps, p.completed = true)
    (hne : steps ≠ []) : w.pending (endOf h steps) < w.pending h := by
  induction hsteps with
  | nil => exact absurd rfl hne
  | @cons tick h event rest due go next ih =>
      obtain ⟨older, newer, new, heffect⟩ := due.effect htidy hreach
      have hlt := Worker.pending_lt heffect (by simpa using due.claim)
        (hcompleted _ List.mem_cons_self)
      rw [processEvent_before] at hlt
      rw [endOf_cons]
      by_cases hrest : rest = []
      · simpa [hrest] using hlt
      · exact lt_trans (ih (due.reach hreach)
          (fun p hp => hcompleted p (List.mem_cons_of_mem _ hp)) hrest) hlt

/-- What one call of `run_once` does, whatever bound on its rounds is given, if it is enough. -/
def RunsOnce (w : Worker) (tick : ℕ) (h : Hub) (steps : List Processed) : Prop :=
  ∃ rounds, ∀ fuel, rounds ≤ fuel → w.runOnce fuel tick h = some steps

/-- A call is a run of steps that ends in a failure or when nothing is claimable. -/
structure Call (w : Worker) (tick : ℕ) (h : Hub) (steps : List Processed) : Prop where
  runs : w.RunsOnce tick h steps
  run : w.Steps tick h steps
  drained : (∀ p ∈ steps, p.completed = true) →
    ∀ r ∈ (endOf h steps).outboxEvents.rows, claimable w.maxAttempts r = false

/-- **One call ends.** -/
theorem exists_call (hbatch : 1 ≤ w.batchSize) (htidy : w.TidyFrom start)
    (hreach : w.Reachable start tick h) : ∃ steps, w.Call tick h steps := by
  -- by induction on what is pending, which every round without a failure brings down
  induction hn : w.pending h using WellFoundedLT.induction generalizing tick h with
  | ind n ih =>
      subst hn
      by_cases hnil : w.claimEvents tick h = []
      · refine ⟨[], ⟨1, fun fuel hfuel => ?_⟩, .nil tick h, fun _ => ?_⟩
        · obtain ⟨fuel, rfl⟩ := Nat.exists_eq_add_of_le' hfuel
          simp [runOnce, hnil]
        · exact not_claimable_of_claimEvents hbatch hnil
      have hsteps := processBatch_steps htidy (claimEvents_front w tick h) hreach
      by_cases hcompleted : ∀ p ∈ w.processBatch tick (w.claimEvents tick h) h, p.completed = true
      · have hne : w.processBatch tick (w.claimEvents tick h) h ≠ [] := by
          cases hevents : w.claimEvents tick h with
          | nil => exact absurd hevents hnil
          | cons e rest => simp [processBatch]
        obtain ⟨more, ⟨rounds, hruns⟩, hmore, hdrained⟩ :=
          ih _ (hsteps.pending_lt htidy hreach hcompleted hne) (hsteps.reach hreach) rfl
        refine ⟨_ ++ more, ⟨rounds + 1, fun fuel hfuel => ?_⟩, hsteps.append hcompleted hmore, ?_⟩
        · obtain ⟨fuel, rfl⟩ := Nat.exists_eq_add_of_le' (Nat.le_of_add_left_le hfuel)
          have hrest := hruns fuel (by omega)
          simp only [runOnce]
          rw [if_neg hnil, if_pos (List.all_eq_true.2 hcompleted), hrest]
          rfl
        · intro hall
          rw [endOf_append]
          exact hdrained fun p hp => hall p (List.mem_append_right _ hp)
      · refine ⟨_, ⟨1, fun fuel hfuel => ?_⟩, hsteps, fun hall => absurd hall hcompleted⟩
        obtain ⟨fuel, rfl⟩ := Nat.exists_eq_add_of_le' hfuel
        simp only [runOnce]
        rw [if_neg hnil, if_neg fun hall => hcompleted (List.all_eq_true.1 hall)]

/-! ## Enough calls -/

/-- Some calls of `run_once`, one after the other. -/
inductive Calls (w : Worker) : ℕ → ℕ → Hub → Hub → Prop where
  | zero (tick : ℕ) (h : Hub) : w.Calls 0 tick h h
  | next {calls tick : ℕ} {h h' : Hub} {steps : List Processed} (run : w.RunsOnce tick h steps)
      (rest : w.Calls calls (tick + steps.length) (endOf h steps) h') :
      w.Calls (calls + 1) tick h h'

/-- Each event's handler always succeeds, or always fails. -/
def Predictable (w : Worker) (start : Hub) (succeeds : String → Bool) : Prop :=
  ∀ tick h, w.Reachable start tick h → ∀ event ∈ h.outboxEvents.rows,
    claimable w.maxAttempts event = true →
      (w.handle tick event h).1.all Outcome.isReturned = succeeds event.id

/-- An event that is not delivered, and never will be. -/
def stuck (succeeds : String → Bool) (r : OutboxEvent) : Bool :=
  !succeeds r.id && r.deliveredAt.isNone

/-- The attempts failing events have left. -/
def remaining (w : Worker) (succeeds : String → Bool) (h : Hub) : ℕ :=
  (h.outboxEvents.rows.map fun r =>
    if stuck succeeds r then w.maxAttempts - r.attempts else 0).sum

variable {succeeds : String → Bool}

theorem remaining_le (w : Worker) (succeeds : String → Bool) (h : Hub) :
    w.remaining succeeds h ≤ h.outboxEvents.rows.countP (stuck succeeds) * w.maxAttempts := by
  unfold remaining
  induction h.outboxEvents.rows with
  | nil => simp
  | cons r rows ih =>
      simp only [List.map_cons, List.sum_cons, List.countP_cons, Nat.add_mul]
      by_cases hr : stuck succeeds r = true
      · simp only [hr, if_true, one_mul]
        omega
      · simp only [hr]
        simpa using ih

@[simp] theorem processEvent_outcome (w : Worker) (tick : ℕ) (event : OutboxEvent) (h : Hub) :
    (w.processEvent tick event h).outcome = (w.handle tick event h).1 := by
  unfold processEvent
  dsimp only
  split <;> rfl

theorem Due.completed (hdue : w.Due h event) (htidy : w.TidyFrom start)
    (hpredictable : w.Predictable start succeeds) (hreach : w.Reachable start tick h) :
    (w.processEvent tick event h).completed = succeeds event.id := by
  obtain ⟨older, newer, new, heffect⟩ := hdue.effect htidy hreach
  rw [heffect.completed, processEvent_outcome]
  exact hpredictable tick h hreach event hdue.mem hdue.claim

/-- A failing step uses up one attempt, and no other step any. -/
theorem Due.remaining (hdue : w.Due h event) (hmax : 1 ≤ w.maxAttempts) (htidy : w.TidyFrom start)
    (hpredictable : w.Predictable start succeeds) (hreach : w.Reachable start tick h) :
    w.remaining succeeds (w.processEvent tick event h).after
      + (if succeeds event.id then 0 else 1) = w.remaining succeeds h := by
  obtain ⟨older, newer, new, heffect⟩ := hdue.effect htidy hreach
  have hcompleted := hdue.completed htidy hpredictable hreach
  have hclaim := hdue.claim
  -- follow-ups have no handler, so they cannot fail
  have hnew : (new.map fun r =>
      if stuck succeeds r then w.maxAttempts - r.attempts else 0).sum = 0 := by
    refine List.sum_eq_zero fun n hn => ?_
    obtain ⟨r, hr, rfl⟩ := List.mem_map.1 hn
    obtain ⟨hhandler, hdelivered, hattempts, -⟩ := heffect.followUps r hr
    have hsucceeds := hpredictable _ _ (hdue.reach hreach) r (heffect.mem_after.2 (Or.inr (Or.inr hr)))
      (by simp [claimable, hdelivered, hattempts]; omega)
    rw [handle_of_none hhandler] at hsucceeds
    simp [stuck, ← hsucceeds]
  have hbefore := heffect.before
  rw [processEvent_before, processEvent_event] at hbefore
  unfold Worker.remaining
  rw [heffect.after, hbefore]
  simp only [List.map_append, List.map_cons, List.sum_append, List.sum_cons, hnew]
  unfold Processed.marked
  rw [hcompleted, processEvent_event]
  simp only [claimable, Bool.and_eq_true, Option.isNone_iff_eq_none, decide_eq_true_eq] at hclaim
  cases hsucceeds : succeeds event.id with
  | true => simp [stuck, hsucceeds]
  | false =>
      simp [stuck, hsucceeds, hclaim.1]
      omega

theorem Steps.remaining (hmax : 1 ≤ w.maxAttempts) (htidy : w.TidyFrom start)
    (hpredictable : w.Predictable start succeeds) (hsteps : w.Steps tick h steps)
    (hreach : w.Reachable start tick h) (hfailed : ¬ ∀ p ∈ steps, p.completed = true) :
    w.remaining succeeds (endOf h steps) + 1 = w.remaining succeeds h := by
  induction hsteps with
  | nil => simp at hfailed
  | @cons tick h event rest due go next ih =>
      have hstep := due.remaining hmax htidy hpredictable hreach
      have hcompleted := due.completed htidy hpredictable hreach
      rw [endOf_cons]
      cases hsucceeds : succeeds event.id with
      | true =>
          rw [hsucceeds] at hstep hcompleted
          rw [ih (due.reach hreach) fun hall => hfailed fun p hp => ?_]
          · simpa using hstep
          · rcases List.mem_cons.1 hp with rfl | hp
            · exact hcompleted
            · exact hall p hp
      | false =>
          rw [hsucceeds] at hstep hcompleted
          rcases go with hgo | rfl
          · rw [hgo] at hcompleted
            cases hcompleted
          · simpa using hstep

/-- What a call does is a call's run. -/
theorem RunsOnce.call (hbatch : 1 ≤ w.batchSize) (htidy : w.TidyFrom start)
    (hreach : w.Reachable start tick h) (hrun : w.RunsOnce tick h steps) : w.Call tick h steps := by
  obtain ⟨steps', hcall⟩ := exists_call hbatch htidy hreach
  obtain ⟨rounds, hrounds⟩ := hrun
  obtain ⟨rounds', hrounds'⟩ := hcall.runs
  have heq := (hrounds _ (Nat.le_max_left rounds rounds')).symm.trans
    (hrounds' _ (Nat.le_max_right rounds rounds'))
  rw [Option.some.inj heq]
  exact hcall

theorem exists_calls (hbatch : 1 ≤ w.batchSize) (htidy : w.TidyFrom start)
    (hreach : w.Reachable start tick h) (calls : ℕ) : ∃ h', w.Calls calls tick h h' := by
  induction calls generalizing tick h with
  | zero => exact ⟨h, .zero tick h⟩
  | succ calls ih =>
      obtain ⟨steps, hcall⟩ := exists_call hbatch htidy hreach
      obtain ⟨h', hrest⟩ := ih (hcall.run.reach hreach)
      exact ⟨h', .next hcall.runs hrest⟩

theorem Calls.reach (hbatch : 1 ≤ w.batchSize) (htidy : w.TidyFrom start) {calls : ℕ} {h' : Hub}
    (hcalls : w.Calls calls tick h h') (hreach : w.Reachable start tick h) :
    ∃ tick', w.Reachable start tick' h' := by
  induction hcalls with
  | zero tick h => exact ⟨tick, hreach⟩
  | next run _ ih => exact ih ((run.call hbatch htidy hreach).run.reach hreach)

/-- Once nothing is claimable, calls do nothing. -/
theorem Calls.idle (hbatch : 1 ≤ w.batchSize) (htidy : w.TidyFrom start) {calls : ℕ} {h' : Hub}
    (hcalls : w.Calls calls tick h h') (hreach : w.Reachable start tick h)
    (hidle : ∀ r ∈ h.outboxEvents.rows, claimable w.maxAttempts r = false) : h' = h := by
  induction hcalls with
  | zero => rfl
  | @next calls tick h h' steps run _ ih =>
      have hsteps := (run.call hbatch htidy hreach).run
      have hnil : steps = [] := by
        cases hsteps with
        | nil => rfl
        | cons due _ _ =>
            have hclaim := due.claim
            rw [hidle _ due.mem] at hclaim
            cases hclaim
      subst hnil
      exact ih hreach hidle

/-- After some calls nothing is claimable, or each of them has used up an attempt. -/
theorem Calls.drained (hbatch : 1 ≤ w.batchSize) (hmax : 1 ≤ w.maxAttempts)
    (htidy : w.TidyFrom start) (hpredictable : w.Predictable start succeeds) {calls : ℕ} {h' : Hub}
    (hcalls : w.Calls calls tick h h') (hreach : w.Reachable start tick h) :
    (∀ r ∈ h'.outboxEvents.rows, claimable w.maxAttempts r = false) ∨
      w.remaining succeeds h' + calls ≤ w.remaining succeeds h := by
  induction hcalls with
  | zero => exact Or.inr (le_refl _)
  | @next calls tick h h' steps run rest ih =>
      have hcall := run.call hbatch htidy hreach
      have hreach' := hcall.run.reach hreach
      by_cases hcompleted : ∀ p ∈ steps, p.completed = true
      · rw [rest.idle hbatch htidy hreach' (hcall.drained hcompleted)]
        exact Or.inl (hcall.drained hcompleted)
      · have hused := hcall.run.remaining hmax htidy hpredictable hreach hcompleted
        rcases ih hreach' with hidle | hle
        · exact Or.inl hidle
        · refine Or.inr ?_
          omega

/-! ## Reachable states -/

/-- Attempts stay under the cap. -/
theorem Reachable.cap (htidy : w.TidyFrom start)
    (hcap : ∀ e ∈ start.outboxEvents.rows, e.attempts ≤ w.maxAttempts)
    (hreach : w.Reachable start tick h) :
    ∀ r ∈ h.outboxEvents.rows, r.attempts ≤ w.maxAttempts := by
  induction hreach with
  | start => exact hcap
  | @step tick h event hr hmem hclaim ih =>
      obtain ⟨older, newer, new, heffect⟩ :=
        processEvent_effect (htidy tick h hr event hmem hclaim) hmem
      have hevent := ih event hmem
      intro r hr'
      rcases heffect.mem_after.1 hr' with hother | rfl | hnew
      · exact ih r (by simpa using heffect.mem_before.2 (Or.inl hother))
      · simp only [claimable, Bool.and_eq_true, decide_eq_true_eq] at hclaim
        unfold Processed.marked
        rw [processEvent_event]
        split
        · exact hevent
        · exact hclaim.2
      · rw [(heffect.followUps r hnew).2.2.1]
        exact Nat.zero_le _

/-- No event is lost. -/
theorem Reachable.kept (htidy : w.TidyFrom start) (hreach : w.Reachable start tick h) :
    ∀ e ∈ start.outboxEvents.rows, ∃ r ∈ h.outboxEvents.rows,
      r.id = e.id ∧ r.eventType = e.eventType := by
  induction hreach with
  | start => exact fun e he => ⟨e, he, rfl, rfl⟩
  | @step tick h event hr hmem hclaim ih =>
      obtain ⟨older, newer, new, heffect⟩ :=
        processEvent_effect (htidy tick h hr event hmem hclaim) hmem
      intro e he
      obtain ⟨r, hr', hid, htype⟩ := ih e he
      obtain ⟨r', hr'', hid', -, htype', -⟩ := heffect.kept (r := r) (by simpa using hr')
      exact ⟨r', hr'', hid'.trans hid, htype'.trans htype⟩

/-- What is there was there at the start, or is a follow-up. -/
theorem Reachable.origin (htidy : w.TidyFrom start) (hreach : w.Reachable start tick h) :
    ∀ r ∈ h.outboxEvents.rows, w.handler r.eventType = none ∨
      ∃ e ∈ start.outboxEvents.rows, e.id = r.id ∧ e.eventType = r.eventType := by
  induction hreach with
  | start => exact fun r hr => Or.inr ⟨r, hr, rfl, rfl⟩
  | @step tick h event hr hmem hclaim ih =>
      obtain ⟨older, newer, new, heffect⟩ :=
        processEvent_effect (htidy tick h hr event hmem hclaim) hmem
      intro r hr'
      rcases heffect.mem_after.1 hr' with hother | rfl | hnew
      · exact ih r (by simpa using heffect.mem_before.2 (Or.inl hother))
      · have hevent := ih event hmem
        unfold Processed.marked
        rw [processEvent_event]
        split <;> exact hevent
      · exact Or.inl (heffect.followUps r hnew).1

/-- An event that succeeds is never tried in vain, and one that fails never delivered. -/
theorem Reachable.undelivered (htidy : w.TidyFrom start)
    (huntried : ∀ e ∈ start.outboxEvents.rows, e.deliveredAt = none → e.attempts = 0)
    (hpredictable : w.Predictable start succeeds) (hreach : w.Reachable start tick h) :
    (∀ r ∈ h.outboxEvents.rows, succeeds r.id = true → r.deliveredAt = none → r.attempts = 0) ∧
      ∀ r ∈ h.outboxEvents.rows, succeeds r.id = false → r.deliveredAt.isSome →
        ∃ e ∈ start.outboxEvents.rows, e.id = r.id ∧ e.deliveredAt.isSome := by
  induction hreach with
  | start => exact ⟨fun e he _ => huntried e he, fun e he _ hdelivered => ⟨e, he, rfl, hdelivered⟩⟩
  | @step tick h event hr hmem hclaim ih =>
      obtain ⟨older, newer, new, heffect⟩ :=
        processEvent_effect (htidy tick h hr event hmem hclaim) hmem
      have hcompleted : (w.processEvent tick event h).completed = succeeds event.id := by
        rw [heffect.completed, processEvent_outcome]
        exact hpredictable tick h hr event hmem hclaim
      have hmarked : ((w.processEvent tick event h).marked (w.now tick)).id = event.id := by
        unfold Processed.marked
        split <;> simp
      refine ⟨fun r hr' hsucceeds hnone => ?_, fun r hr' hfails hdelivered => ?_⟩
      · rcases heffect.mem_after.1 hr' with hother | rfl | hnew
        · exact ih.1 r (by simpa using heffect.mem_before.2 (Or.inl hother)) hsucceeds hnone
        · rw [hmarked, ← hcompleted] at hsucceeds
          simp [Processed.marked, hsucceeds] at hnone
        · exact (heffect.followUps r hnew).2.2.1
      · rcases heffect.mem_after.1 hr' with hother | rfl | hnew
        · exact ih.2 r (by simpa using heffect.mem_before.2 (Or.inl hother)) hfails hdelivered
        · rw [hmarked, ← hcompleted] at hfails
          simp only [claimable, Bool.and_eq_true, Option.isNone_iff_eq_none] at hclaim
          simp [Processed.marked, hfails, hclaim.1] at hdelivered
        · simp [(heffect.followUps r hnew).2.1] at hdelivered

/-! ## The drain -/

/-- What one call does: it handles due events only, in the order they were created, accounts for
    each, stops where a handler fails, and otherwise leaves nothing to claim. -/
structure Orderly (w : Worker) (h : Hub) (steps : List Processed) : Prop where
  follows : Follows h steps
  due : ∀ p ∈ steps, w.Due p.before p.event
  sorted : steps.Pairwise fun p q => p.event.createdAt ≤ q.event.createdAt
  accounts : ∀ p ∈ steps, p.Accounts
  stops : ∀ p ∈ steps, p.outcome.all Outcome.isReturned = false → steps.getLast? = some p
  drained : (∀ p ∈ steps, p.outcome.all Outcome.isReturned = true) →
    ∀ r ∈ (endOf h steps).outboxEvents.rows, claimable w.maxAttempts r = false

/-- Events that succeed are delivered, events that fail have used up their attempts, and no event
    is lost. -/
structure Settled (w : Worker) (start : Hub) (succeeds : String → Bool) (h : Hub) : Prop where
  kept : ∀ e ∈ start.outboxEvents.rows, ∃ r ∈ h.outboxEvents.rows,
    r.id = e.id ∧ r.eventType = e.eventType
  delivered : ∀ r ∈ h.outboxEvents.rows, succeeds r.id = true → r.deliveredAt.isSome
  exhausted : ∀ e ∈ start.outboxEvents.rows, e.deliveredAt = none → succeeds e.id = false →
    ∀ r ∈ h.outboxEvents.rows, r.id = e.id → r.deliveredAt = none ∧ r.attempts = w.maxAttempts

theorem Steps.effect (htidy : w.TidyFrom start) (hsteps : w.Steps tick h steps)
    (hreach : w.Reachable start tick h) : ∀ p ∈ steps, ∃ now older newer new,
      p.Effect w now older newer new := by
  induction hsteps with
  | nil => simp
  | cons due _ _ ih =>
      intro p hp
      rcases List.mem_cons.1 hp with rfl | hp
      · exact ⟨_, due.effect htidy hreach⟩
      · exact ih (due.reach hreach) p hp

theorem Call.orderly (htidy : w.TidyFrom start) (hcall : w.Call tick h steps)
    (hreach : w.Reachable start tick h) : w.Orderly h steps := by
  have heffect := hcall.run.effect htidy hreach
  have hcompleted : ∀ p ∈ steps, p.completed = p.outcome.all Outcome.isReturned := by
    intro p hp
    obtain ⟨now, older, newer, new, he⟩ := heffect p hp
    exact he.completed
  refine ⟨hcall.run.follows, hcall.run.due, hcall.run.sorted htidy hreach, fun p hp => ?_,
    fun p hp hfailed => ?_, fun hall => ?_⟩
  · obtain ⟨now, older, newer, new, he⟩ := heffect p hp
    exact he.accounts
  · exact hcall.run.stops p hp ((hcompleted p hp).trans hfailed)
  · exact hcall.drained fun p hp => (hcompleted p hp).trans (hall p hp)

theorem Calls.settled (hbatch : 1 ≤ w.batchSize) (hmax : 1 ≤ w.maxAttempts)
    (hcap : ∀ e ∈ start.outboxEvents.rows, e.attempts ≤ w.maxAttempts)
    (huntried : ∀ e ∈ start.outboxEvents.rows, e.deliveredAt = none → e.attempts = 0)
    (htidy : w.TidyFrom start) (hpredictable : w.Predictable start succeeds)
    (hcalls : w.Calls (start.outboxEvents.rows.countP (stuck succeeds) * w.maxAttempts + 1) 0
      start h) : w.Settled start succeeds h := by
  have hidle : ∀ r ∈ h.outboxEvents.rows, claimable w.maxAttempts r = false := by
    rcases hcalls.drained hbatch hmax htidy hpredictable .start with hidle | hle
    · exact hidle
    · have hbound := remaining_le w succeeds start
      omega
  obtain ⟨tick', hreach⟩ := hcalls.reach hbatch htidy .start
  obtain ⟨hsucceeding, hfailing⟩ := hreach.undelivered htidy huntried hpredictable
  refine ⟨hreach.kept htidy, fun r hr hsucceeds => ?_, fun e he hnone hfails r hr hid => ?_⟩
  · cases hdelivered : r.deliveredAt with
    | some _ => rfl
    | none =>
        have hclaim := hidle r hr
        simp [claimable, hdelivered, hsucceeding r hr hsucceeds hdelivered] at hclaim
        omega
  · have hundelivered : r.deliveredAt = none := by
      by_contra hsome
      obtain ⟨e', he', hid', hdelivered⟩ :=
        hfailing r hr (hid ▸ hfails) (Option.isSome_iff_ne_none.2 hsome)
      rw [Table.eq_of_id he' he (hid'.trans hid), hnone] at hdelivered
      cases hdelivered
    refine ⟨hundelivered, le_antisymm (hreach.cap htidy hcap r hr) ?_⟩
    have hclaim := hidle r hr
    simpa [claimable, hundelivered] using hclaim

/-- **The outbox drains.** From wherever the worker has come, a call of `run_once` ends, in order,
    with no event tried more often than allowed; and if each event's handler always succeeds or
    always fails, as many calls as the failing events have attempts, and one more, settle all. -/
theorem outbox_drains (w : Worker) (start : Hub) (hbatch : 1 ≤ w.batchSize)
    (hmax : 1 ≤ w.maxAttempts)
    (hcap : ∀ e ∈ start.outboxEvents.rows, e.attempts ≤ w.maxAttempts)
    (huntried : ∀ e ∈ start.outboxEvents.rows, e.deliveredAt = none → e.attempts = 0)
    (htidy : w.TidyFrom start) :
    (∀ tick h, w.Reachable start tick h →
      (∀ r ∈ h.outboxEvents.rows, r.attempts ≤ w.maxAttempts) ∧
        ∃ steps, w.RunsOnce tick h steps ∧ w.Orderly h steps) ∧
    ∀ succeeds, w.Predictable start succeeds → ∀ calls,
      calls = start.outboxEvents.rows.countP (stuck succeeds) * w.maxAttempts + 1 →
        (∃ h, w.Calls calls 0 start h) ∧
          ∀ h, w.Calls calls 0 start h → w.Settled start succeeds h := by
  refine ⟨fun tick h hreach => ⟨hreach.cap htidy hcap, ?_⟩, fun succeeds hpredictable calls hn => ?_⟩
  · obtain ⟨steps, hcall⟩ := exists_call hbatch htidy hreach
    exact ⟨steps, hcall.runs, hcall.orderly htidy hreach⟩
  · subst hn
    exact ⟨exists_calls hbatch htidy .start _, fun h hcalls =>
      hcalls.settled hbatch hmax hcap huntried htidy hpredictable⟩

end Worker

/-! ## A worker with a poison event -/

/-- Events of type `good` succeed, events of type `poison` raise. -/
def sampleWorker : Worker where
  batchSize := 2
  maxAttempts := 3
  handler := fun type =>
    if type = "good" then some fun _ _ => pure "done"
    else if type = "poison" then some fun _ _ => Program.raise .typeError
    else none
  order := fun _ => sampleOrder
  now := fun tick => tick

def sampleOutboxEvent (id eventType : String) (createdAt : Instant) : OutboxEvent where
  id := id
  aggregateType := "evidence"
  aggregateId := id
  eventType := eventType
  payload := .null
  correlationId := id
  createdAt := createdAt
  deliveredAt := none
  attempts := 0

/-- A poison event in front of a good one. -/
def sampleOutbox : Hub :=
  { Hub.empty with
    outboxEvents := ⟨[sampleOutboxEvent "p" "poison" 0, sampleOutboxEvent "g" "good" 1], by decide⟩ }

/-- Its handlers add nothing. -/
theorem sampleWorker_handle (tick : ℕ) (event : OutboxEvent) (h : Hub) :
    (sampleWorker.handle tick event h).2 = Session.fresh h ∧
      (sampleWorker.handle tick event h).1.all Outcome.isReturned
        = decide (event.eventType ≠ "poison") := by
  unfold Worker.handle sampleWorker
  by_cases hgood : event.eventType = "good"
  · simp [hgood, Program.run, Outcome.isReturned]
  · by_cases hpoison : event.eventType = "poison"
    · simp [hpoison, Program.run, Program.raise, Outcome.isReturned]
    · simp [hgood, hpoison]

theorem sampleWorker_tidy (start : Hub) : sampleWorker.TidyFrom start := by
  intro tick h _ event _ _
  obtain ⟨hsession, -⟩ := sampleWorker_handle tick event h
  refine ⟨⟨[], by simp [Worker.FollowUps], ?_⟩, fun _ => ⟨h, [], ?_, by simp [Worker.FollowUps], ?_⟩⟩
  · rw [hsession]
    simp [Session.fresh]
  · rw [hsession]
    rfl
  · simp

theorem poison_iff : ∀ e ∈ sampleOutbox.outboxEvents.rows, e.eventType = "poison" → e.id = "p" := by
  simp [sampleOutbox, sampleOutboxEvent]

/-- Four calls settle both events. -/
theorem outbox_drains_poison :
    sampleWorker.Predictable sampleOutbox (fun id => id ≠ "p") ∧
    ∃ h, sampleWorker.Calls 4 0 sampleOutbox h ∧
      sampleWorker.Settled sampleOutbox (fun id => id ≠ "p") h := by
  have htidy := sampleWorker_tidy sampleOutbox
  have hpredictable : sampleWorker.Predictable sampleOutbox (fun id => id ≠ "p") := by
    intro tick h hreach event hmem hclaim
    rw [(sampleWorker_handle tick event h).2]
    refine decide_eq_decide.2 (not_congr ⟨fun htype => ?_, fun hid => ?_⟩)
    · rcases hreach.origin htidy event hmem with hnone | ⟨e, he, hid, htype'⟩
      · simp [sampleWorker, htype] at hnone
      · rw [← hid]
        exact poison_iff e he (htype'.trans htype)
    · obtain ⟨r, hr, hrid, hrtype⟩ := hreach.kept htidy _ (List.mem_cons_self :
        sampleOutboxEvent "p" "poison" 0 ∈ sampleOutbox.outboxEvents.rows)
      rw [Table.eq_of_id hmem hr (hid.trans hrid.symm)]
      exact hrtype
  obtain ⟨-, hsettles⟩ := Worker.outbox_drains sampleWorker sampleOutbox (by decide) (by decide)
    (by decide) (by decide) htidy
  obtain ⟨⟨h, hcalls⟩, hsettled⟩ := hsettles _ hpredictable 4 (by decide)
  exact ⟨hpredictable, h, hcalls, hsettled h hcalls⟩

end VulnOpsHub
