import VulnOpsHub.Lib.Turns
import VulnOpsHub.Workers.Drain
import VulnOpsHub.Workers.Processing
import VulnOpsHub.Workers.Staging

set_option autoImplicit false

/-! # Several orchestrators over one database

`run_once` of any number of workers, statement by statement, in any order, where a worker may die
between any two statements. The query of `claim_events` locks the rows it answers and passes over
those another session has locked (`FOR UPDATE SKIP LOCKED`). The locks of a session go with its next
commit or rollback, so that the first commit of a handler lets go of the whole batch. A commit that
writes to a row which another session has locked waits.

Whatever the interleaving and whoever dies, no row of the outbox is locked twice, and no event is
delivered that has a handler no worker has been through (`delivered_handled`). -/

namespace VulnOpsHub

/-! ## Workers -/

/-- What a worker is doing for the first event it holds. -/
inductive Member.Phase where
  | idle
  | handling
  | completing (handled : Bool)
  | failing
deriving DecidableEq

/-- A worker between two statements: the number of its next handling, the events of its batch that it
    is not done with, the rows its transaction has locked, and what is left of the program it is
    in. -/
structure Member where
  worker : Orchestrator
  tick : ℕ
  held : List OutboxEvent
  locked : List String
  phase : Member.Phase
  prog : HubProg Unit
  executed : List (CondUpdate Hub)
  staged : List HubWrite

namespace Member

/-- A worker that has claimed nothing. -/
def initial (worker : Orchestrator) : Member := ⟨worker, 0, [], [], .idle, pure (), [], []⟩

def session (m : Member) (db : Hub) : Session Hub := ⟨db, m.executed, m.staged⟩

/-- What the handling takes from outside. -/
def handling (m : Member) : Handling := m.worker.handling m.tick

/-- The batch a worker goes on with. -/
def claim (m : Member) (events : List OutboxEvent) : Member :=
  { m with held := events, locked := events.map (·.id) }

/-- `session.close()`. -/
def closed (m : Member) : Member :=
  { m with
    tick := m.tick + 1
    held := []
    locked := []
    phase := .idle
    executed := []
    staged := [] }

/-- The event whose handler the worker has been through, and which it has yet to mark. -/
def finished (m : Member) : Option String :=
  if m.phase = .completing true then m.held.head?.map (·.id) else none

/-- `complete_event` begins. -/
def complete (m : Member) (event : OutboxEvent) (handled : Bool) : Member :=
  { m with phase := .completing handled, prog := completeEvent event (m.worker.now m.tick) }

/-- `fail_event` begins. -/
def fail (m : Member) (event : OutboxEvent) : Member :=
  { m with phase := .failing, prog := failEvent event }

/-- What follows when the program a worker is in has ended: a worker whose event failed, or could not
    be marked, leaves its loop. -/
def afterEnd (m : Member) (event : OutboxEvent) (rest : List OutboxEvent)
    (out : Outcome PyError Unit) : Member :=
  match m.phase with
  | .handling => if out.isReturned then m.complete event true else m.fail event
  | .completing _ =>
      if out.isReturned then { m with tick := m.tick + 1, held := rest, phase := .idle }
      else m.closed
  | _ => m.closed

/-- `process_event` begins; the summary of a handler is only logged. -/
def begin [Python] [Packaging] (m : Member) (event : OutboxEvent) : Member :=
  match handlerOf event.eventType with
  | none => m.complete event false
  | some handler =>
      { m with phase := .handling, prog := (handler m.handling event).map fun _ => () }

end Member

/-- The transaction of a session is empty. -/
def Clean (s : Session Hub) : Prop := s.executed = [] ∧ s.staged = []

theorem Clean.session_eq {m : Member} {db : Hub} (hclean : Clean (m.session db)) :
    m.session db = Session.fresh db := by
  obtain ⟨hexecuted, hstaged⟩ := hclean
  unfold Member.session Session.fresh at *
  simp only at hexecuted hstaged
  rw [hexecuted, hstaged]

/-! ## The crew -/

/-- The committed rows, the workers, which handlers have run to completion (the worker, and the id of
    the event), and the events whose worker died between that and the mark. -/
structure Crew where
  db : Hub
  members : List Member
  done : List (ℕ × String)
  lost : List String

/-- What happens next: a worker claims a batch, begins with the first event it holds, goes on with the
    program it is in, by a statement, or dies and starts again. -/
inductive Act where
  | claim (i : ℕ)
  | take (i : ℕ)
  | run (i : ℕ)
  | crash (i : ℕ)
deriving DecidableEq, Repr

/-- The row of the outbox that a statement changes. -/
def HubWrite.outboxRow? : HubWrite → Option String
  | .updateOutbox id _ => some id
  | _ => none

namespace Crew

/-- Workers that have claimed nothing. -/
def start (workers : List Orchestrator) (db : Hub) : Crew := ⟨db, workers.map .initial, [], []⟩

/-- All workers but one. -/
def others (s : Crew) (i : ℕ) : List Member := s.members.eraseIdx i

/-- Another session holds the lock of the row. -/
def lockedByOther (s : Crew) (i : ℕ) (id : String) : Bool := (s.others i).any fun m => id ∈ m.locked

/-- What the query of `claim_events` answers to worker `i`. -/
def claimed (s : Crew) (i : ℕ) (m : Member) : List OutboxEvent :=
  ((m.worker.order m.tick).arrange (s.db.outboxEvents.rows.filter fun e =>
    claimable m.worker.settings.maxAttempts e && !s.lockedByOther i e.id)).take
      m.worker.settings.batchSize

/-- The next statement of worker `i` has to wait. -/
def blocked (s : Crew) (i : ℕ) (m : Member) : Bool :=
  m.prog.commitsNext && (m.staged.filterMap HubWrite.outboxRow?).any (s.lockedByOther i)

/-- The program worker `i` is in has ended. -/
def afterEnd (s : Crew) (i : ℕ) (m : Member) (event : OutboxEvent)
    (rest : List OutboxEvent) (out : Outcome PyError Unit) : Crew :=
  { s with
    members := s.members.set i (m.afterEnd event rest out)
    done := s.done ++ if m.phase = .handling ∧ out.isReturned then [(i, event.id)] else [] }

/-- Worker `i` has executed a statement. -/
def afterTurn (s : Crew) (i : ℕ) (m : Member) (t : Program.Turn Hub PyError Unit) : Crew :=
  { s with
    db := t.session.db
    members := s.members.set i
      { m with
        locked := if t.ended then [] else m.locked
        prog := t.prog
        executed := t.session.executed
        staged := t.session.staged } }

/-- Worker `i` has died: the database rolls back its open transaction and lets go of its locks. -/
def afterCrash (s : Crew) (i : ℕ) (m : Member) : Crew :=
  { s with
    members := s.members.set i m.closed
    lost := s.lost ++ m.finished.toList }

variable [Python] [Packaging]

/-- The step, if it can be taken. -/
def step (s : Crew) : Act → Option Crew
  | .claim i =>
      (s.members[i]?).bind fun m =>
        if m.phase = .idle ∧ m.held = [] then
          some { s with members := s.members.set i (m.claim (s.claimed i m)) }
        else none
  | .take i =>
      (s.members[i]?).bind fun m =>
        m.held.head?.bind fun event =>
          if m.phase = .idle then some { s with members := s.members.set i (m.begin event) } else none
  | .run i =>
      (s.members[i]?).bind fun m =>
        match m.held with
        | [] => none
        | event :: rest =>
            if m.phase = .idle then none
            else
              match m.prog.outcome? with
              | some out => some (s.afterEnd i m event rest out)
              | none =>
                  if s.blocked i m then none
                  else (m.prog.next (m.session s.db)).map (s.afterTurn i m)
  | .crash i => (s.members[i]?).map (s.afterCrash i)

/-- The states that steps within `allowed` lead to. -/
inductive Run (allowed : Crew → Act → Prop) (start : Crew) : Crew → Prop where
  | start : Run allowed start start
  | step {s s' : Crew} (run : Run allowed start s) (a : Act) (ok : allowed s a)
      (next : s.step a = some s') : Run allowed start s'

theorem Run.mono {allowed allowed' : Crew → Act → Prop} {start s : Crew}
    (h : ∀ s a, allowed s a → allowed' s a) (hrun : Run allowed start s) : Run allowed' start s := by
  induction hrun with
  | start => exact .start
  | step run a ok next ih => exact ih.step a (h _ a ok) next

/-- Several steps, all of them within `allowed`. -/
def runActs (allowed : Crew → Act → Bool) : Crew → List Act → Option Crew
  | s, [] => some s
  | s, a :: rest =>
      if allowed s a then (s.step a).bind fun s' => runActs allowed s' rest else none

theorem Run.of_acts {allowed : Crew → Act → Prop} [∀ s a, Decidable (allowed s a)]
    {start s s' : Crew} {acts : List Act} (hrun : Run allowed start s)
    (hacts : runActs (fun s a => decide (allowed s a)) s acts = some s') : Run allowed start s' := by
  induction acts generalizing s with
  | nil =>
      cases hacts
      exact hrun
  | cons a rest ih =>
      unfold runActs at hacts
      split_ifs at hacts with hok
      obtain ⟨s₁, hstep, hrest⟩ := Option.bind_eq_some_iff.1 hacts
      exact ih (hrun.step a (of_decide_eq_true hok) hstep) hrest

/-- What a step can do. -/
inductive Stepped (s : Crew) : Act → Crew → Prop where
  | claim {i : ℕ} {m : Member} (member : s.members[i]? = some m) (idle : m.phase = .idle)
      (held : m.held = []) :
      Stepped s (.claim i) { s with members := s.members.set i (m.claim (s.claimed i m)) }
  | take {i : ℕ} {m : Member} {event : OutboxEvent} {rest : List OutboxEvent}
      (member : s.members[i]? = some m) (idle : m.phase = .idle) (held : m.held = event :: rest) :
      Stepped s (.take i) { s with members := s.members.set i (m.begin event) }
  | ended {i : ℕ} {m : Member} {event : OutboxEvent} {rest : List OutboxEvent}
      {out : Outcome PyError Unit} (member : s.members[i]? = some m) (busy : m.phase ≠ .idle)
      (held : m.held = event :: rest) (ret : m.prog = .ret out) :
      Stepped s (.run i) (s.afterEnd i m event rest out)
  | turn {i : ℕ} {m : Member} {event : OutboxEvent} {rest : List OutboxEvent}
      {t : Program.Turn Hub PyError Unit} (member : s.members[i]? = some m) (busy : m.phase ≠ .idle)
      (held : m.held = event :: rest) (free : s.blocked i m = false)
      (next : m.prog.next (m.session s.db) = some t) : Stepped s (.run i) (s.afterTurn i m t)
  | crash {i : ℕ} {m : Member} (member : s.members[i]? = some m) :
      Stepped s (.crash i) (s.afterCrash i m)

theorem stepped {s s' : Crew} {a : Act} (h : s.step a = some s') : Stepped s a s' := by
  cases a with
  | claim i =>
      obtain ⟨m, hm, h⟩ := Option.bind_eq_some_iff.1 h
      split_ifs at h with hidle
      cases h
      exact .claim hm hidle.1 hidle.2
  | take i =>
      obtain ⟨m, hm, h⟩ := Option.bind_eq_some_iff.1 h
      obtain ⟨event, hevent, h⟩ := Option.bind_eq_some_iff.1 h
      split_ifs at h with hidle
      cases h
      obtain ⟨rest, hheld⟩ := List.head?_eq_some_iff.1 hevent
      exact .take hm hidle hheld
  | run i =>
      obtain ⟨m, hm, h⟩ := Option.bind_eq_some_iff.1 h
      split at h
      · cases h
      · next event rest hheld =>
          split at h
          · cases h
          · next hbusy =>
              split at h
              · next out hout =>
                  cases h
                  exact .ended hm hbusy hheld (Program.outcome?_eq_some.1 hout)
              · split_ifs at h with hblocked
                obtain ⟨t, ht, rfl⟩ := Option.map_eq_some_iff.1 h
                exact .turn hm hbusy hheld (by simpa using hblocked) ht
  | crash i =>
      obtain ⟨m, hm, rfl⟩ := Option.map_eq_some_iff.1 h
      exact .crash hm

/-! ### One worker moves -/

/-- What holds of any two workers. -/
def Apart (R : Member → Member → Prop) (members : List Member) : Prop :=
  ∀ (i j : ℕ) (m m' : Member), i ≠ j → members[i]? = some m → members[j]? = some m' → R m m'

/-- What holds of every worker. -/
def Each (P : ℕ → Member → Prop) (members : List Member) : Prop :=
  ∀ (i : ℕ) (m : Member), members[i]? = some m → P i m

section Moves

variable {members : List Member} {i : ℕ} {m m' : Member}

omit [Python] [Packaging] in
theorem Each.set {P P' : ℕ → Member → Prop} (h : Each P members) (hi : members[i]? = some m)
    (hmoved : P' i m') (hothers : ∀ j m, j ≠ i → members[j]? = some m → P j m → P' j m) :
    Each P' (members.set i m') := by
  intro j n hj
  have hlt : i < members.length := (List.getElem?_eq_some_iff.1 hi).1
  rw [List.getElem?_set, if_pos hlt] at hj
  split_ifs at hj with hij
  · subst hij
    cases hj
    exact hmoved
  · exact hothers j n (fun h => hij h.symm) hj (h j n hj)

omit [Python] [Packaging] in
theorem Apart.set {R : Member → Member → Prop} (hsymm : ∀ m m', R m m' → R m' m)
    (h : Apart R members) (hi : members[i]? = some m)
    (hmoved : ∀ j n, j ≠ i → members[j]? = some n → R m' n) : Apart R (members.set i m') := by
  have hlt : i < members.length := (List.getElem?_eq_some_iff.1 hi).1
  intro j k a b hne ha hb
  rw [List.getElem?_set, if_pos hlt] at ha hb
  split_ifs at ha hb with hij hik hik
  · exact absurd (hij.symm.trans hik) hne
  · subst hij
    cases ha
    exact hmoved k b (fun h => hik h.symm) hb
  · subst hik
    cases hb
    exact hsymm _ _ (hmoved j a (fun h => hij h.symm) ha)
  · exact h j k a b hne ha hb

omit [Python] [Packaging] in
theorem mem_others {s : Crew} {j : ℕ} (hne : j ≠ i) (hj : s.members[j]? = some m) :
    m ∈ s.others i :=
  List.mem_eraseIdx_iff_getElem?.2 ⟨j, hne, hj⟩

end Moves

/-! ### Locks -/

/-- No row of the outbox is locked by two of them. -/
def LocksApart (m m' : Member) : Prop := ∀ id ∈ m.locked, id ∉ m'.locked

omit [Python] [Packaging] in
theorem mem_claimed {s : Crew} {i : ℕ} {m : Member} {e : OutboxEvent} (he : e ∈ s.claimed i m) :
    e ∈ s.db.outboxEvents.rows ∧ claimable m.worker.settings.maxAttempts e = true ∧
      s.lockedByOther i e.id = false := by
  have hmem := List.mem_of_mem_take he
  rw [((m.worker.order m.tick).perm _).mem_iff, List.mem_filter] at hmem
  simpa using hmem

omit [Python] [Packaging] in
/-- A claim takes no row another session has locked. -/
theorem locksApart_claimed {s : Crew} {i j : ℕ} {m n : Member} (hne : j ≠ i)
    (hj : s.members[j]? = some n) : LocksApart (m.claim (s.claimed i m)) n := by
  intro id hid hlocked
  obtain ⟨e, he, rfl⟩ := List.mem_map.1 hid
  have hother : s.lockedByOther i e.id = true :=
    List.any_eq_true.2 ⟨n, mem_others hne hj, by simpa using hlocked⟩
  rw [(mem_claimed he).2.2] at hother
  cases hother

omit [Python] [Packaging] in
theorem LocksApart.symm (m m' : Member) (h : LocksApart m m') : LocksApart m' m :=
  fun id hid hid' => h id hid' hid

theorem locked_begin (m : Member) (event : OutboxEvent) : (m.begin event).locked = m.locked := by
  unfold Member.begin Member.complete
  split <;> rfl

omit [Python] [Packaging] in
theorem locked_afterEnd (m : Member) (event : OutboxEvent) (rest : List OutboxEvent)
    (out : Outcome PyError Unit) : (m.afterEnd event rest out).locked ⊆ m.locked := by
  unfold Member.afterEnd Member.complete Member.fail Member.closed
  split
  · split <;> exact List.Subset.refl _
  · split
    · exact List.Subset.refl _
    · exact List.nil_subset _
  · exact List.nil_subset _

theorem Stepped.locksApart {s s' : Crew} {a : Act} (h : Stepped s a s')
    (hapart : Apart LocksApart s.members) : Apart LocksApart s'.members := by
  have hfewer : ∀ {i m m'}, s.members[i]? = some m → m'.locked ⊆ m.locked →
      Apart LocksApart (s.members.set i m') := fun {i m m'} hi hsub =>
    hapart.set LocksApart.symm hi fun j n hne hj id hid =>
      hapart i j m n (Ne.symm hne) hi hj id (hsub hid)
  cases h with
  | claim member idle held =>
      exact hapart.set LocksApart.symm member fun j n hne hj => locksApart_claimed hne hj
  | take member idle held => exact hfewer member (by rw [locked_begin]; exact List.Subset.refl _)
  | ended member busy held ret => exact hfewer member (locked_afterEnd _ _ _ _)
  | turn member busy held free next =>
      refine hfewer member ?_
      dsimp only
      split
      · exact List.nil_subset _
      · exact List.Subset.refl _
  | crash member => exact hfewer member (List.nil_subset _)

end Crew

/-! ## Deliveries -/

/-- The outbox has the event as delivered. -/
def Hub.Delivered (h : Hub) (id : String) : Prop :=
  ∃ r ∈ h.outboxEvents.rows, r.id = id ∧ r.deliveredAt.isSome = true

/-- Events stay, under their types and delivered if they were, and only those in `only` are
    delivered. -/
structure Hub.Delivers (only : String → Prop) (h h' : Hub) : Prop where
  kept : ∀ r ∈ h.outboxEvents.rows, ∃ r' ∈ h'.outboxEvents.rows, r'.id = r.id ∧
    r'.eventType = r.eventType ∧ (r.deliveredAt.isSome = true → r'.deliveredAt.isSome = true)
  delivered : ∀ r' ∈ h'.outboxEvents.rows, r'.deliveredAt.isSome = true →
    only r'.id ∨ h.Delivered r'.id

/-- The statement delivers no event but those in `only`. -/
inductive HubWrite.Delivering (only : String → Prop) : HubWrite → Prop where
  | recorded {w : HubWrite} (h : w.Recorded) : Delivering only w
  | attempts (id : String) (n : ℕ) : Delivering only (.updateOutbox id { attempts := some n })
  | delivered {id : String} (h : only id) (now : Instant) :
      Delivering only (.updateOutbox id { deliveredAt := some (some now) })

section Deliveries

variable {only only' : String → Prop} {h h₁ h' : Hub} {w : HubWrite}

theorem Hub.Delivers.refl (only : String → Prop) (h : Hub) : h.Delivers only h :=
  ⟨fun r hr => ⟨r, hr, rfl, rfl, id⟩, fun r hr hd => .inr ⟨r, hr, rfl, hd⟩⟩

theorem Hub.Delivers.delivered_kept (hd : h.Delivers only h') {id : String} (hid : h.Delivered id) :
    h'.Delivered id := by
  obtain ⟨r, hr, rfl, hr'⟩ := hid
  obtain ⟨r', hmem, hid, -, hkept⟩ := hd.kept r hr
  exact ⟨r', hmem, hid, hkept hr'⟩

theorem Hub.Delivers.trans (h₁₂ : h.Delivers only h₁) (h₂₃ : h₁.Delivers only h') :
    h.Delivers only h' := by
  refine ⟨fun r hr => ?_, fun r hr hd => ?_⟩
  · obtain ⟨r₁, hr₁, hid₁, htype₁, hkept₁⟩ := h₁₂.kept r hr
    obtain ⟨r₂, hr₂, hid₂, htype₂, hkept₂⟩ := h₂₃.kept r₁ hr₁
    exact ⟨r₂, hr₂, hid₂.trans hid₁, htype₂.trans htype₁, fun hd => hkept₂ (hkept₁ hd)⟩
  · rcases h₂₃.delivered r hr hd with honly | ⟨r₁, hr₁, hid, hd₁⟩
    · exact .inl honly
    · rw [← hid]
      exact h₁₂.delivered r₁ hr₁ hd₁

theorem HubWrite.Delivering.mono (honly : ∀ id, only id → only' id) (hw : w.Delivering only) :
    w.Delivering only' := by
  cases hw with
  | recorded hrecorded => exact .recorded hrecorded
  | attempts id n => exact .attempts id n
  | delivered hid now => exact .delivered (honly _ hid) now

/-- An update of the rows of one event. -/
theorem delivers_of_map {g : OutboxEvent → OutboxEvent}
    (hrows : h'.outboxEvents.rows = h.outboxEvents.rows.map g)
    (hkept : ∀ r, (g r).id = r.id ∧ (g r).eventType = r.eventType ∧
      (r.deliveredAt.isSome = true → (g r).deliveredAt.isSome = true))
    (hdelivered : ∀ r, (g r).deliveredAt.isSome = true → only r.id ∨ r.deliveredAt.isSome = true) :
    h.Delivers only h' := by
  refine ⟨fun r hr => ⟨g r, ?_, hkept r⟩, fun r' hr' hd => ?_⟩
  · rw [hrows]
    exact List.mem_map_of_mem hr
  · rw [hrows] at hr'
    obtain ⟨r, hr, rfl⟩ := List.mem_map.1 hr'
    rw [(hkept r).1]
    exact (hdelivered r hd).imp id fun hd => ⟨r, hr, rfl, hd⟩

theorem HubWrite.Delivering.apply (hw : w.Delivering only) (happly : w.apply h = some h') :
    h.Delivers only h' := by
  have hrows := HubWrite.apply_outbox happly
  cases hw with
  | recorded hrecorded =>
      obtain ⟨new, hnew, hfresh⟩ := hrecorded.outbox h.outboxEvents.rows
      rw [hnew] at hrows
      refine ⟨fun r hr => ⟨r, ?_, rfl, rfl, id⟩, fun r hr hd => ?_⟩
      · rw [hrows]
        exact List.mem_append_left _ hr
      · rw [hrows] at hr
        rcases List.mem_append.1 hr with hold | hnew
        · exact .inr ⟨r, hold, rfl, hd⟩
        · rw [hfresh r hnew] at hd
          cases hd
  | attempts id n =>
      refine delivers_of_map hrows (fun r => ?_) fun r hd => ?_
      · split
        · exact ⟨rfl, rfl, fun h => h⟩
        · exact ⟨rfl, rfl, fun h => h⟩
      · refine .inr ?_
        split at hd <;> exact hd
  | @delivered id hid now =>
      refine delivers_of_map hrows (fun r => ?_) fun r hd => ?_
      · split
        · exact ⟨rfl, rfl, fun _ => rfl⟩
        · exact ⟨rfl, rfl, fun h => h⟩
      · split at hd
        · next heq => exact .inl (heq ▸ hid)
        · exact .inr hd

theorem delivers_of_flush {ws : List HubWrite} (hws : ∀ w ∈ ws, w.Delivering only)
    (hflush : Store.flush ws h = some h') : h.Delivers only h' := by
  induction ws generalizing h with
  | nil =>
      cases hflush
      exact .refl only _
  | cons w ws ih =>
      obtain ⟨h₁, hw, hrest⟩ := Store.flush_cons hflush
      exact ((hws w List.mem_cons_self).apply hw).trans
        (ih (fun v hv => hws v (List.mem_cons_of_mem _ hv)) hrest)

theorem Hub.Delivers.mono (honly : ∀ id, only id → only' id) (hd : h.Delivers only h') :
    h.Delivers only' h' :=
  ⟨hd.kept, fun r hr hdelivered => (hd.delivered r hr hdelivered).imp_left (honly r.id)⟩

theorem completeEvent_stages {event : OutboxEvent} (honly : only event.id) (now : Instant) :
    (completeEvent event now).Stages (HubWrite.Delivering only) := by
  unfold completeEvent
  refine (Program.stages_add fun w hw => ?_).bind fun _ => Program.stages_commitAll
  obtain rfl := List.mem_singleton.1 hw
  exact .delivered honly now

theorem failEvent_stages (event : OutboxEvent) :
    (failEvent event).Stages (HubWrite.Delivering only) := by
  unfold failEvent
  refine Program.stages_rollback.2 ((Program.stages_lookup _ _).bind fun stored => ?_)
  refine (Program.stages_add fun w hw => ?_).bind fun _ => Program.stages_commitAll
  obtain rfl := List.mem_singleton.1 hw
  exact .attempts _ _

end Deliveries

/-- A worker holds stored events, and all its session is to write delivers no event but those in
    `only`. -/
structure Member.Delivering (only : String → Prop) (db : Hub) (m : Member) : Prop where
  stored : ∀ e ∈ m.held, ∃ r ∈ db.outboxEvents.rows, r.id = e.id ∧ r.eventType = e.eventType
  stages : m.prog.Stages (HubWrite.Delivering only)
  writes : ∀ w ∈ transactionWrites m.executed m.staged, w.Delivering only

theorem Member.Delivering.mono {only only' only'' : String → Prop} {db db' : Hub} {m : Member}
    (h : m.Delivering only db) (honly : ∀ id, only id → only' id) (hdb : db.Delivers only'' db') :
    m.Delivering only' db' := by
  refine ⟨fun e he => ?_, h.stages.mono fun _ => .mono honly, fun w hw => (h.writes w hw).mono honly⟩
  obtain ⟨r, hr, hid, htype⟩ := h.stored e he
  obtain ⟨r', hr', hid', htype', -⟩ := hdb.kept r hr
  exact ⟨r', hr', hid'.trans hid, htype'.trans htype⟩

/-- A worker that closes its session. -/
theorem Member.Delivering.closed {only : String → Prop} {db : Hub} {m : Member}
    (h : m.Delivering only db) : m.closed.Delivering only db :=
  ⟨fun _ he => absurd he List.not_mem_nil, h.stages, fun _ hw => absurd hw List.not_mem_nil⟩

namespace Crew

section Deliveries

variable [Python] [Packaging]

/-- Some worker has been through the handler of the event, or it has none. -/
def Handled (s : Crew) (id : String) : Prop :=
  (∃ i, (i, id) ∈ s.done) ∨
    ∃ r ∈ s.db.outboxEvents.rows, r.id = id ∧ (handlerOf r.eventType).isNone = true

/-- Only handled events have been delivered since `start`, and no worker is to deliver others. -/
structure Delivers (start : Hub) (s : Crew) : Prop where
  members : Each (fun _ m => m.Delivering s.Handled s.db) s.members
  delivers : start.Delivers s.Handled s.db

variable {s s' : Crew} {start : Hub}

theorem Handled.mono {only : String → Prop} {id : String} (h : s.Handled id)
    (hdone : s.done ⊆ s'.done) (hdb : s.db.Delivers only s'.db) : s'.Handled id := by
  rcases h with ⟨i, hi⟩ | ⟨r, hr, rfl, hnone⟩
  · exact .inl ⟨i, hdone hi⟩
  · obtain ⟨r', hr', hid, htype, -⟩ := hdb.kept r hr
    exact .inr ⟨r', hr', hid, by rw [htype, hnone]⟩

/-- A worker moves; the others stay as they are. -/
theorem Delivers.moved {i : ℕ} {m m' : Member} (hs : s.Delivers start)
    (hi : s.members[i]? = some m) (hmembers : s'.members = s.members.set i m')
    (hdone : s.done ⊆ s'.done) (hdb : s.db.Delivers s'.Handled s'.db)
    (hm : m'.Delivering s'.Handled s'.db) : s'.Delivers start := by
  have hhandled : ∀ id, s.Handled id → s'.Handled id := fun id h => h.mono hdone hdb
  refine ⟨?_, (hs.delivers.mono hhandled).trans hdb⟩
  rw [hmembers]
  exact hs.members.set hi hm fun j n _ _ hn => hn.mono hhandled hdb

theorem begin_delivering {m : Member} {event : OutboxEvent} {rest : List OutboxEvent}
    (hm : m.Delivering s.Handled s.db) (hheld : m.held = event :: rest) :
    (m.begin event).Delivering s.Handled s.db := by
  obtain ⟨r, hr, hid, htype⟩ := hm.stored event (by rw [hheld]; exact List.mem_cons_self)
  unfold Member.begin
  split
  · next hnone =>
      refine ⟨hm.stored, completeEvent_stages (.inr ⟨r, hr, hid, ?_⟩) _, hm.writes⟩
      rw [htype, hnone]
      rfl
  · next handler hhandler =>
      exact ⟨hm.stored, ((handler_stages hhandler _ _).mono fun _ => .recorded).map _, hm.writes⟩

omit [Python] [Packaging] in
theorem afterEnd_delivering {only : String → Prop} {db : Hub} {m : Member} {event : OutboxEvent}
    {rest : List OutboxEvent} {out : Outcome PyError Unit} (hm : m.Delivering only db)
    (hheld : m.held = event :: rest)
    (honly : m.phase = .handling → out.isReturned = true → only event.id) :
    (m.afterEnd event rest out).Delivering only db := by
  unfold Member.afterEnd
  split
  · next hphase =>
      split
      · next hout => exact ⟨hm.stored, completeEvent_stages (honly hphase hout) _, hm.writes⟩
      · exact ⟨hm.stored, failEvent_stages _, hm.writes⟩
  · split
    · refine ⟨fun e he => hm.stored e ?_, hm.stages, hm.writes⟩
      rw [hheld]
      exact List.mem_cons_of_mem _ he
    · exact hm.closed
  · exact hm.closed

/-- **A step keeps it.** -/
theorem Stepped.delivers {a : Act} (h : Stepped s a s') (hs : s.Delivers start) :
    s'.Delivers start := by
  cases h with
  | @claim i m member idle held =>
      have hm := hs.members i m member
      refine hs.moved member rfl (List.Subset.refl _) (.refl _ _) ⟨fun e he => ?_, hm.stages, hm.writes⟩
      exact ⟨e, (mem_claimed he).1, rfl, rfl⟩
  | @take i m event rest member idle held =>
      exact hs.moved member rfl (List.Subset.refl _) (.refl _ _)
        (begin_delivering (hs.members i m member) held)
  | @ended i m event rest out member busy held ret =>
      have hdone : s.done ⊆ (s.afterEnd i m event rest out).done := List.subset_append_left _ _
      have hm : m.Delivering (s.afterEnd i m event rest out).Handled s.db :=
        (hs.members i m member).mono (fun id h => h.mono hdone (.refl s.Handled s.db))
          (.refl s.Handled s.db)
      refine hs.moved member rfl hdone (.refl _ _)
        (afterEnd_delivering hm held fun hphase hout => ?_)
      refine .inl ⟨i, List.mem_append_right _ ?_⟩
      rw [if_pos ⟨hphase, hout⟩]
      exact List.mem_singleton.2 rfl
  | @turn i m event rest t member busy held free next =>
      obtain ⟨hstages, hwrites, hdb⟩ := (hs.members i m member).stages.next
        (hs.members i m member).writes next
      have hdelivers : s.db.Delivers s.Handled t.session.db := by
        rcases hdb with hsame | ⟨-, ws, hws, hflush⟩
        · have hsame' : t.session.db = s.db := hsame
          rw [hsame']
          exact .refl _ _
        · exact delivers_of_flush hws hflush
      have hhandled : ∀ id, s.Handled id → (s.afterTurn i m t).Handled id := fun id h =>
        h.mono (List.Subset.refl _) hdelivers
      have hm := (hs.members i m member).mono hhandled hdelivers
      exact hs.moved member rfl (List.Subset.refl _) (hdelivers.mono hhandled)
        ⟨hm.stored, hstages.mono fun _ => .mono hhandled, fun w hw => (hwrites w hw).mono hhandled⟩
  | @crash i m member =>
      exact hs.moved member rfl (List.Subset.refl _) (.refl _ _) (hs.members i m member).closed

theorem delivers_start (workers : List Orchestrator) (db : Hub) :
    (Crew.start workers db).Delivers db := by
  refine ⟨fun i m hi => ?_, .refl _ _⟩
  obtain ⟨worker, -, rfl⟩ := List.mem_map.1 (List.mem_of_getElem? hi)
  exact ⟨fun _ he => absurd he List.not_mem_nil, Program.stages_pure _,
    fun _ hw => absurd hw List.not_mem_nil⟩

omit [Python] [Packaging] in
theorem locksApart_start (workers : List Orchestrator) (db : Hub) :
    Apart LocksApart (Crew.start workers db).members := by
  intro i j m m' _ hi _ id hid
  obtain ⟨worker, -, rfl⟩ := List.mem_map.1 (List.mem_of_getElem? hi)
  cases hid

/-- **Whatever the interleaving**, and whichever workers die, no two sessions lock one row of the outbox,
    an event is delivered only if it has no handler or some worker has been through its handler, and no
    event is lost or undelivered again. -/
theorem delivered_handled (workers : List Orchestrator) (db : Hub) {s : Crew}
    (hrun : Run (fun _ _ => True) (Crew.start workers db) s) :
    (∀ (i j : ℕ) (m m' : Member), i ≠ j → s.members[i]? = some m → s.members[j]? = some m' →
      ∀ id ∈ m.locked, id ∉ m'.locked) ∧
    (∀ event ∈ s.db.outboxEvents.rows, event.deliveredAt.isSome = true → db.Delivered event.id ∨
      handlerOf event.eventType = none ∨ ∃ i, (i, event.id) ∈ s.done) ∧
    ∀ event ∈ db.outboxEvents.rows, ∃ event' ∈ s.db.outboxEvents.rows, event'.id = event.id ∧
      event'.eventType = event.eventType ∧
      (event.deliveredAt.isSome = true → event'.deliveredAt.isSome = true) := by
  have hinv : Apart LocksApart s.members ∧ s.Delivers db := by
    induction hrun with
    | start => exact ⟨locksApart_start workers db, delivers_start workers db⟩
    | step run a ok next ih => exact ⟨(stepped next).locksApart ih.1, (stepped next).delivers ih.2⟩
  obtain ⟨hlocks, hdelivers⟩ := hinv
  refine ⟨hlocks, fun event hevent hdelivered => ?_, hdelivers.delivers.kept⟩
  rcases hdelivers.delivers.delivered event hevent hdelivered with (hdone | ⟨r, hr, hid, hnone⟩) | hbefore
  · exact .inr (.inr hdone)
  · obtain rfl := Table.eq_of_id hr hevent hid
    exact .inr (.inl (Option.isNone_iff_eq_none.1 hnone))
  · exact .inl hbefore

end Deliveries

end Crew

/-- An event about a bill of materials without packages waits. -/
def sampleBare : Hub := { Hub.empty with outboxEvents := ⟨[sampleSbomEvent], by decide⟩ }

/-- Two workers: the second finds the event locked until the first one dies, and handles it then. -/
def sampleTurns : List Act :=
  [.claim 0, .claim 1, .take 0, .run 0, .crash 0, .claim 1, .take 1] ++ List.replicate 5 (.run 1)

theorem delivered_handled_locked : ∃ s, @Crew.Run asciiPython dottedPackaging (fun _ _ => True)
    (.start [sampleOrchestrator, sampleOrchestrator] sampleBare) s ∧
    s.db.Delivered "evt_1" ∧ ∃ i, (i, "evt_1") ∈ s.done := by
  have hacts : ((@Crew.runActs asciiPython dottedPackaging (fun _ _ => decide True)
      (.start [sampleOrchestrator, sampleOrchestrator] sampleBare) sampleTurns).any fun s =>
        s.db.outboxEvents.rows.any fun r => r.id = "evt_1" ∧ r.eventType = "vulnops.sbom.processed.v1"
          ∧ r.deliveredAt.isSome = true) = true := by decide +kernel
  obtain ⟨s, hs, hrows⟩ := (Option.any_eq_true _ _).1 hacts
  obtain ⟨r, hr, hid, htype, hdelivered⟩ : ∃ r ∈ s.db.outboxEvents.rows, r.id = "evt_1" ∧
      r.eventType = "vulnops.sbom.processed.v1" ∧ r.deliveredAt.isSome = true := by
    simpa using hrows
  have hrun := @Crew.Run.of_acts asciiPython dottedPackaging _ _ _ _ _ _
    (@Crew.Run.start asciiPython dottedPackaging _ _) hs
  refine ⟨s, hrun, ⟨r, hr, hid, hdelivered⟩, ?_⟩
  obtain ⟨-, hhandled, -⟩ := @Crew.delivered_handled asciiPython dottedPackaging _ _ _ hrun
  rcases hhandled r hr hdelivered with ⟨r₀, hr₀, -, hd⟩ | hnone | hdone
  · obtain rfl := List.mem_singleton.1 hr₀
    cases hd
  · rw [htype] at hnone
    cases hnone
  · rwa [hid] at hdone

end VulnOpsHub
