import VulnOpsHub.Integrations.Store
import VulnOpsHub.Lib.Interleaving

set_option autoImplicit false

/-! # Snapshots with their events

`persist_snapshot_with_event` looks a snapshot up by its natural key and, if there is none, inserts it
with an outbox event and maybe an audit event. The lookup has begun a transaction, so the rows are
always flushed and committed by the branch for a transaction in progress. Flush and commit are one step
here: an insert that meets an uncommitted row with its key waits for the end of the other transaction.

Calls for one key race between their lookups and their commits. -/

namespace VulnOpsHub

/-! ## Rows -/

/-- A row of `source_snapshots`. -/
structure SnapshotRow where
  id : String
  source : String
  sourceRecordId : String
  contentSha256 : String
  contentSize : ℕ
  retrievedAt : Instant
  providerTimestamp : Option Instant
  cursor : Option String
  schemaVersion : Option String
  adapterVersion : Option String
  objectUri : String
  validationState : String
  validationErrors : Option String
  organizationId : Option String
  correlationId : Option String
  createdAt : Instant
deriving DecidableEq, Repr

instance : Keyed SnapshotRow String := ⟨SnapshotRow.id⟩
instance : NaturalKey SnapshotRow SnapshotKey :=
  ⟨fun s => ⟨s.source, s.sourceRecordId, s.contentSha256⟩⟩

structure ProvenanceDb where
  snapshots : UniqueTable SnapshotRow
  auditEvents : Table AuditEvent
  outboxEvents : Table OutboxEvent

inductive ProvenanceWrite where
  | insertSnapshot (row : SnapshotRow)
  | insertAudit (row : AuditEvent)
  | insertOutbox (row : OutboxEvent)

namespace ProvenanceWrite

def apply : ProvenanceWrite → ProvenanceDb → Option ProvenanceDb
  | .insertSnapshot row, db => (db.snapshots.insert row).map fun t => { db with snapshots := t }
  | .insertAudit row, db => (db.auditEvents.insert row).map fun t => { db with auditEvents := t }
  | .insertOutbox row, db => (db.outboxEvents.insert row).map fun t => { db with outboxEvents := t }

/-- The keys of the row have not been taken. -/
def Free (db : ProvenanceDb) : ProvenanceWrite → Prop
  | .insertSnapshot row => db.snapshots.Fresh row
  | .insertAudit row => row.id ∉ db.auditEvents.rows.map AuditEvent.id
  | .insertOutbox row => row.id ∉ db.outboxEvents.rows.map OutboxEvent.id

end ProvenanceWrite

/-- Inserts lock no row that another call would update. -/
instance : Store ProvenanceDb ProvenanceWrite Empty where
  apply := ProvenanceWrite.apply
  overlay := fun w db => (w.apply db).getD db
  touches := fun _ => []
  Same := fun _ _ _ => True
  same_refl := fun _ _ => trivial
  same_trans := fun _ _ => trivial
  apply_same := fun _ _ => trivial

/-! ## Calls -/

/-- A call of `persist_snapshot_with_event`, with the identifiers it draws. -/
structure PersistCall where
  snapshot : SnapshotRow
  eventType : String
  auditEvent : Option AuditEvent
  payload : Option (List (String × Json))
  env : CallEnv

namespace PersistCall

/-- The natural key of the snapshot. -/
def key (c : PersistCall) : SnapshotKey := NaturalKey.natural c.snapshot

/-- The snapshot, with a correlation id if it has none. -/
def stored (c : PersistCall) : SnapshotRow :=
  { c.snapshot with
    correlationId := (nonEmpty c.snapshot.correlationId).orElse fun _ => some (c.env.uuidStr 0) }

/-- `payload or {...}`. -/
def eventPayload (c : PersistCall) : List (String × Json) :=
  if c.payload.getD [] = [] then
    [("source", .str c.snapshot.source), ("source_record_id", .str c.snapshot.sourceRecordId),
      ("content_sha256", .str c.snapshot.contentSha256), ("object_uri", .str c.snapshot.objectUri)]
  else c.payload.getD []

def outbox (c : PersistCall) : OutboxEvent :=
  c.env.outbox 1 "source_snapshot" c.snapshot.id c.eventType c.eventPayload
    (c.stored.correlationId.getD "")

/-- An event type and, if there is an audit event, its action. -/
def Valid (c : PersistCall) : Prop :=
  c.eventType ≠ "" ∧ ∀ audit, c.auditEvent = some audit → audit.action ≠ ""

instance (c : PersistCall) : Decidable c.Valid :=
  inferInstanceAs (Decidable (_ ∧ _))

/-- The audit event, the flush and the commit. -/
def auditAndCommit (c : PersistCall) : Program ProvenanceDb PyError SnapshotRow :=
  if c.auditEvent.any (·.action = "") then do
    Program.rollbackAll
    Program.raise (.valueError "audit_event.action is required")
  else do
    Program.add (c.auditEvent.toList.map .insertAudit)
    Program.commitAll
    pure c.stored

/-- The call for a snapshot that has not been found. -/
def insertRows (c : PersistCall) : Program ProvenanceDb PyError SnapshotRow := do
  Program.add [.insertSnapshot c.stored, .insertOutbox c.outbox]
  c.auditAndCommit

/-- A snapshot that is stored already is returned. -/
def afterLookup (c : PersistCall) : Option SnapshotRow → Program ProvenanceDb PyError SnapshotRow
  | some existing => pure existing
  | none => c.insertRows

/-- `persist_snapshot_with_event`. -/
def persistSnapshotWithEvent (c : PersistCall) : Program ProvenanceDb PyError SnapshotRow :=
  if c.eventType = "" then
    Program.raise (.valueError "event_type is required and must be non-empty")
  else do
    let existing ← Program.select fun db : ProvenanceDb => db.snapshots.byNatural c.key
    c.afterLookup existing

/-- What a call inserts. -/
def rows (c : PersistCall) : List ProvenanceWrite :=
  [.insertSnapshot c.stored, .insertOutbox c.outbox] ++ c.auditEvent.toList.map .insertAudit

theorem valid_of_audit {c : PersistCall} (htype : c.eventType ≠ "")
    (haudit : ¬ c.auditEvent.any (·.action = "") = true) : c.Valid := by
  refine ⟨htype, fun audit h => ?_⟩
  rw [h, Option.any_some, decide_eq_true_eq] at haudit
  exact haudit

theorem not_valid_of_audit {c : PersistCall} (haudit : c.auditEvent.any (·.action = "") = true) :
    ¬ c.Valid := by
  rintro ⟨-, h⟩
  cases hevent : c.auditEvent with
  | none =>
      rw [hevent] at haudit
      cases haudit
  | some audit =>
      rw [hevent, Option.any_some, decide_eq_true_eq] at haudit
      exact h audit hevent haudit

end PersistCall

/-! ## Commits -/

/-- The rows of a call have been added. -/
structure ProvenanceDb.Extended (db : ProvenanceDb) (c : PersistCall) (db' : ProvenanceDb) : Prop where
  snapshots : db'.snapshots.rows = db.snapshots.rows ++ [c.stored]
  outboxEvents : db'.outboxEvents.rows = db.outboxEvents.rows ++ [c.outbox]
  auditEvents : db'.auditEvents.rows = db.auditEvents.rows ++ c.auditEvent.toList

theorem byNatural_insert {t u : UniqueTable SnapshotRow} {row : SnapshotRow} (h : t.insert row = some u) :
    u.byNatural (NaturalKey.natural row) = some row := by
  obtain ⟨-, hrows⟩ := UniqueTable.insert_eq_some.1 h
  exact UniqueTable.byNatural_eq_some.2 ⟨by rw [hrows]; simp, rfl⟩

namespace ProvenanceWrite

variable {db db' : ProvenanceDb}

theorem apply_snapshot {row : SnapshotRow}
    (h : Store.apply (ProvenanceWrite.insertSnapshot row) db = some db') :
    db.snapshots.insert row = some db'.snapshots ∧ db'.auditEvents = db.auditEvents ∧
      db'.outboxEvents = db.outboxEvents := by
  obtain ⟨t, ht, rfl⟩ := Option.map_eq_some_iff.1 h
  exact ⟨ht, rfl, rfl⟩

theorem apply_outbox {row : OutboxEvent}
    (h : Store.apply (ProvenanceWrite.insertOutbox row) db = some db') :
    db'.snapshots = db.snapshots ∧ db'.auditEvents = db.auditEvents ∧
      db'.outboxEvents.rows = db.outboxEvents.rows ++ [row] := by
  obtain ⟨t, ht, rfl⟩ := Option.map_eq_some_iff.1 h
  exact ⟨rfl, rfl, Table.rows_insert ht⟩

theorem apply_audit {row : AuditEvent}
    (h : Store.apply (ProvenanceWrite.insertAudit row) db = some db') :
    db'.snapshots = db.snapshots ∧ db'.auditEvents.rows = db.auditEvents.rows ++ [row] ∧
      db'.outboxEvents = db.outboxEvents := by
  obtain ⟨t, ht, rfl⟩ := Option.map_eq_some_iff.1 h
  exact ⟨rfl, Table.rows_insert ht, rfl⟩

end ProvenanceWrite

open ProvenanceWrite in
/-- **What a commit does**: it adds the rows of the call, whose key was free. -/
theorem extended_of_flush {c : PersistCall} {db db' : ProvenanceDb}
    (h : Store.flush c.rows db = some db') :
    db.Extended c db' ∧ db.snapshots.byNatural c.key = none ∧
      db'.snapshots.byNatural c.key = some c.stored := by
  obtain ⟨db₁, hsnapshot, h⟩ := Store.flush_cons h
  obtain ⟨db₂, houtbox, h⟩ := Store.flush_cons h
  obtain ⟨hinsert, haudit₁, houtbox₁⟩ := apply_snapshot hsnapshot
  obtain ⟨hsnapshots₂, haudit₂, houtbox₂⟩ := apply_outbox houtbox
  have hlast : db'.snapshots = db₂.snapshots ∧ db'.outboxEvents = db₂.outboxEvents ∧
      db'.auditEvents.rows = db₂.auditEvents.rows ++ c.auditEvent.toList := by
    cases hevent : c.auditEvent with
    | none =>
        rw [hevent] at h
        obtain rfl := Option.some.inj h
        simp
    | some audit =>
        rw [hevent] at h
        obtain ⟨db₃, haudit, h⟩ := Store.flush_cons h
        obtain rfl := Option.some.inj h
        obtain ⟨hsnapshots₃, haudit₃, houtbox₃⟩ := apply_audit haudit
        exact ⟨hsnapshots₃, houtbox₃, haudit₃⟩
  obtain ⟨hsnapshots, houtboxEvents, haudits⟩ := hlast
  obtain ⟨hfresh, hrows⟩ := UniqueTable.insert_eq_some.1 hinsert
  refine ⟨⟨?_, ?_, ?_⟩, (UniqueTable.fresh_iff.1 hfresh).2, ?_⟩
  · rw [hsnapshots, hsnapshots₂, hrows]
  · rw [houtboxEvents, houtbox₂, houtbox₁]
  · rw [haudits, haudit₂, haudit₁]
  · rw [hsnapshots, hsnapshots₂]
    exact byNatural_insert hinsert

/-- Rows whose keys are free are committed. -/
theorem flush_of_free {c : PersistCall} {db : ProvenanceDb} (h : ∀ w ∈ c.rows, w.Free db) :
    Store.flush c.rows db ≠ none := by
  have hsnapshot : db.snapshots.Fresh c.stored :=
    h (.insertSnapshot c.stored) (by simp [PersistCall.rows])
  have houtbox : c.outbox.id ∉ db.outboxEvents.rows.map OutboxEvent.id :=
    h (.insertOutbox c.outbox) (by simp [PersistCall.rows])
  obtain ⟨snapshots, hsnapshots⟩ : ∃ t, db.snapshots.insert c.stored = some t :=
    ⟨_, dif_pos hsnapshot⟩
  obtain ⟨outbox, houtbox⟩ := Table.insert_eq_some (Table.find?_eq_none.2 houtbox)
  cases hevent : c.auditEvent with
  | none =>
      simp [PersistCall.rows, hevent, Store.flush, Store.apply, ProvenanceWrite.apply, hsnapshots, houtbox]
  | some audit =>
      have haudit : audit.id ∉ db.auditEvents.rows.map AuditEvent.id :=
        h (.insertAudit audit) (by simp [PersistCall.rows, hevent])
      obtain ⟨audits, haudits⟩ := Table.insert_eq_some (Table.find?_eq_none.2 haudit)
      simp [PersistCall.rows, hevent, Store.flush, Store.apply, ProvenanceWrite.apply, hsnapshots,
        houtbox, haudits]

/-! ## Interleaved calls -/

/-- The calls in progress and the rows. -/
abbrev ProvenanceSystem := System ProvenanceDb PersistCall PyError SnapshotRow

abbrev PersistThread := Thread ProvenanceDb PersistCall PyError SnapshotRow

/-- A run of calls for one natural key: each statement of a call that is run meets the condition. -/
inductive ProvenanceRun (condition : ProvenanceSystem → PersistThread → Prop) (k : SnapshotKey)
    (db₀ : ProvenanceDb) : ProvenanceSystem → Prop where
  | init : ProvenanceRun condition k db₀ (System.init db₀)
  | start {s : ProvenanceSystem} (run : ProvenanceRun condition k db₀ s) (c : PersistCall)
      (key : c.key = k) : ProvenanceRun condition k db₀
        { s with threads := s.threads ++ [Thread.init PersistCall.persistSnapshotWithEvent c s.db] }
  | statement {s s' : ProvenanceSystem} (run : ProvenanceRun condition k db₀ s) (i : ℕ)
      (t : PersistThread) (thread : s.threads[i]? = some t) (meets : condition s t)
      (step : s.runThread i t = some s') : ProvenanceRun condition k db₀ s'

/-- The keys of the rows that a call commits are free: no other call has committed the snapshot since
    this one looked it up. -/
def CommitsFree (s : ProvenanceSystem) (t : PersistThread) : Prop :=
  ∀ next, t.prog = .commit next → ∀ w ∈ t.staged, w.Free s.db

/-- Where a call stands, by what is left of it and what it has staged. -/
inductive Phase (db : ProvenanceDb) (c : PersistCall) :
    Program ProvenanceDb PyError SnapshotRow → List ProvenanceWrite → Prop where
  | started : Phase db c c.persistSnapshotWithEvent []
  | missed (typed : c.eventType ≠ "") : Phase db c c.insertRows []
  | added (typed : c.eventType ≠ "") :
      Phase db c c.auditAndCommit [.insertSnapshot c.stored, .insertOutbox c.outbox]
  | refusing (e : PyError) (invalid : ¬ c.Valid) (staged : List ProvenanceWrite) :
      Phase db c (.rollback (.ret (.raised e))) staged
  | committing (valid : c.Valid) : Phase db c (.commit (.ret (.returned c.stored))) c.rows
  | returned (row : SnapshotRow) (stored : db.snapshots.byNatural c.key = some row) :
      Phase db c (.ret (.returned row)) []
  | raised (e : PyError) (invalid : ¬ c.Valid) : Phase db c (.ret (.raised e)) []
  | failed : Phase db c (.ret .failed) []

/-- A snapshot that is stored stays the one with its key. -/
theorem Phase.extended {db db' : ProvenanceDb} {c : PersistCall}
    {prog : Program ProvenanceDb PyError SnapshotRow} {staged : List ProvenanceWrite}
    (h : Phase db c prog staged)
    (hkept : ∀ row, db.snapshots.byNatural c.key = some row →
      db'.snapshots.byNatural c.key = some row) : Phase db' c prog staged := by
  cases h with
  | started => exact .started
  | missed typed => exact .missed typed
  | added typed => exact .added typed
  | refusing e invalid staged => exact .refusing e invalid staged
  | committing valid => exact .committing valid
  | returned row stored => exact .returned row (hkept row stored)
  | raised e invalid => exact .raised e invalid
  | failed => exact .failed

/-- What a statement of a call can do. -/
inductive PersistStep (s : ProvenanceSystem) (i : ℕ) (t : PersistThread) : ProvenanceSystem → Prop where
  | moved (t' : PersistThread) (call : t'.call = t.call) (executed : t'.executed = [])
      (phase : Phase s.db t.call t'.prog t'.staged) (alive : t'.prog ≠ .ret .failed) :
      PersistStep s i t (s.setThread i t')
  | committed (t' : PersistThread) (s' : ProvenanceSystem) (call : t'.call = t.call)
      (executed : t'.executed = []) (prog : t'.prog = .ret (.returned t.call.stored))
      (staged : t'.staged = []) (flushed : Store.flush t.call.rows s.db = some s'.db)
      (threads : s'.threads = s.threads.set i t') : PersistStep s i t s'
  | refused (next : Program ProvenanceDb PyError SnapshotRow) (commit : t.prog = .commit next)
      (staged : t.staged = t.call.rows) (refused : Store.flush t.call.rows s.db = none) :
      PersistStep s i t (s.setThread i t.fail)

theorem persistStep {s s' : ProvenanceSystem} {i : ℕ} {t : PersistThread} (hexecuted : t.executed = [])
    (hphase : Phase s.db t.call t.prog t.staged) (h : s.runThread i t = some s') :
    PersistStep s i t s' := by
  generalize hprog : t.prog = prog at hphase
  generalize hstaged : t.staged = staged at hphase
  unfold System.runThread at h
  cases hphase with
  | started =>
      unfold PersistCall.persistSnapshotWithEvent at hprog
      split_ifs at hprog with htype
      · rw [hprog] at h
        cases h
      · have hview : sessionView t.executed t.staged s.db = s.db := by
          rw [hexecuted, hstaged]
          rfl
        rw [hprog] at h
        obtain rfl := Option.some.inj h
        have hnext : ∀ found, s.db.snapshots.byNatural t.call.key = found →
            Phase s.db t.call (t.call.afterLookup found) t.staged ∧
              t.call.afterLookup found ≠ .ret .failed := by
          intro found hfound
          rw [hstaged]
          cases found with
          | none => exact ⟨.missed htype, fun heq => by cases heq⟩
          | some row => exact ⟨.returned row hfound, fun heq => by cases heq⟩
        have hfound := hnext _ (by rw [← hview])
        exact .moved _ rfl hexecuted hfound.1 hfound.2
  | missed typed =>
      rw [hprog] at h
      obtain rfl := Option.some.inj h
      refine .moved _ rfl hexecuted (by rw [hstaged]; exact .added typed) fun heq => ?_
      change PersistCall.auditAndCommit _ = _ at heq
      unfold PersistCall.auditAndCommit at heq
      split_ifs at heq <;> cases heq
  | added typed =>
      unfold PersistCall.auditAndCommit at hprog
      split_ifs at hprog with haudit
      · rw [hprog] at h
        obtain rfl := Option.some.inj h
        exact .moved _ rfl rfl (.raised _ (PersistCall.not_valid_of_audit haudit)) fun heq => by
          cases heq
      · rw [hprog] at h
        obtain rfl := Option.some.inj h
        refine .moved _ rfl hexecuted ?_ fun heq => by cases heq
        rw [hstaged]
        exact .committing (PersistCall.valid_of_audit typed haudit)
  | refusing e invalid staged =>
      rw [hprog] at h
      obtain rfl := Option.some.inj h
      exact .moved _ rfl rfl (.raised e invalid) (by simp)
  | committing valid =>
      have hwrites : transactionWrites t.executed t.staged = t.call.rows := by
        rw [hexecuted, hstaged]
        rfl
      rw [hprog] at h
      simp only [hwrites] at h
      split_ifs at h
      cases hflush : Store.flush t.call.rows s.db with
      | none =>
          rw [hflush] at h
          obtain rfl := Option.some.inj h
          exact .refused _ hprog hstaged hflush
      | some db =>
          rw [hflush] at h
          obtain rfl := Option.some.inj h
          exact .committed { t with
            prog := .ret (.returned t.call.stored), executed := [], staged := [], committed := true }
            _ rfl rfl rfl rfl hflush rfl
  | returned row stored =>
      rw [hprog] at h
      cases h
  | raised e invalid =>
      rw [hprog] at h
      cases h
  | failed =>
      rw [hprog] at h
      cases h

/-! ### Every run -/

/-- The calls are at their phases, and the rows are those at the start or those and the rows of one call
    that has returned. -/
structure ProvenanceInv (k : SnapshotKey) (db₀ : ProvenanceDb) (s : ProvenanceSystem) : Prop where
  key : ∀ t ∈ s.threads, t.call.key = k
  executed : ∀ t ∈ s.threads, t.executed = []
  phase : ∀ t ∈ s.threads, Phase s.db t.call t.prog t.staged
  rows : s.db = db₀ ∨ db₀.snapshots.byNatural k = none ∧ ∃ (i : ℕ) (t : PersistThread),
    s.threads[i]? = some t ∧ t.prog = .ret (.returned t.call.stored) ∧ db₀.Extended t.call s.db

section Runs

variable {condition : ProvenanceSystem → PersistThread → Prop} {k : SnapshotKey} {db₀ : ProvenanceDb}
  {s s' : ProvenanceSystem} {i : ℕ} {t : PersistThread}

theorem running_of_step (h : s.runThread i t = some s') (o : Outcome PyError SnapshotRow) :
    t.prog ≠ .ret o := by
  intro hprog
  unfold System.runThread at h
  rw [hprog] at h
  cases h

/-- A finished call is not touched by the statements of others. -/
theorem finished_kept (h : s.runThread i t = some s') (thread : s.threads[i]? = some t)
    {j : ℕ} {u : PersistThread} {o : Outcome PyError SnapshotRow} (hu : s.threads[j]? = some u)
    (hfinished : u.prog = .ret o) (t' : PersistThread) : (s.threads.set i t')[j]? = some u := by
  have hne : i ≠ j := by
    rintro rfl
    rw [thread] at hu
    obtain rfl := Option.some.inj hu
    exact running_of_step h o hfinished
  rw [List.getElem?_set_ne hne, hu]

theorem ProvenanceInv.moved (hinv : ProvenanceInv k db₀ s) (thread : s.threads[i]? = some t)
    (h : s.runThread i t = some s') {t' : PersistThread} (call : t'.call = t.call)
    (executed : t'.executed = []) (phase : Phase s.db t.call t'.prog t'.staged) :
    ProvenanceInv k db₀ (s.setThread i t') where
  key := by
    intro u hu
    rcases List.mem_or_eq_of_mem_set hu with hu | rfl
    · exact hinv.key u hu
    · rw [call]
      exact hinv.key t (List.mem_of_getElem? thread)
  executed := by
    intro u hu
    rcases List.mem_or_eq_of_mem_set hu with hu | rfl
    · exact hinv.executed u hu
    · exact executed
  phase := by
    intro u hu
    rcases List.mem_or_eq_of_mem_set hu with hu | rfl
    · exact hinv.phase u hu
    · rw [call]
      exact phase
  rows := by
    refine hinv.rows.imp_right fun ⟨hfree, j, u, hu, hprog, hextended⟩ => ?_
    exact ⟨hfree, j, u, finished_kept h thread hu hprog t', hprog, hextended⟩

/-- A commit is the first one: the key was free. -/
theorem ProvenanceInv.committed (hinv : ProvenanceInv k db₀ s) (thread : s.threads[i]? = some t)
    {t' : PersistThread} (call : t'.call = t.call) (executed : t'.executed = [])
    (prog : t'.prog = .ret (.returned t.call.stored)) (staged : t'.staged = [])
    (flushed : Store.flush t.call.rows s.db = some s'.db) (threads : s'.threads = s.threads.set i t') :
    ProvenanceInv k db₀ s' := by
  have hkey := hinv.key t (List.mem_of_getElem? thread)
  obtain ⟨hextended, hfree, hstored⟩ := extended_of_flush flushed
  have hkept : ∀ row, s.db.snapshots.byNatural k = some row →
      s'.db.snapshots.byNatural k = some row := by
    intro row hrow
    rw [← hkey, hfree] at hrow
    cases hrow
  refine ⟨fun u hu => ?_, fun u hu => ?_, fun u hu => ?_, Or.inr ?_⟩
  · rw [threads] at hu
    rcases List.mem_or_eq_of_mem_set hu with hu | rfl
    · exact hinv.key u hu
    · rw [call, hkey]
  · rw [threads] at hu
    rcases List.mem_or_eq_of_mem_set hu with hu | rfl
    · exact hinv.executed u hu
    · exact executed
  · rw [threads] at hu
    rcases List.mem_or_eq_of_mem_set hu with hu | rfl
    · refine (hinv.phase u hu).extended fun row => ?_
      rw [hinv.key u hu]
      exact hkept row
    · rw [call, prog, staged]
      exact .returned _ hstored
  · -- were there rows already, one of them would have the key
    have hdb : s.db = db₀ := by
      refine hinv.rows.resolve_right fun ⟨_, j, u, hu, _, hother⟩ => ?_
      have hmem : u.call.stored ∈ s.db.snapshots.rows := by
        rw [hother.snapshots]
        simp
      have hukey : NaturalKey.natural u.call.stored = t.call.key :=
        (hinv.key u (List.mem_of_getElem? hu)).trans hkey.symm
      exact UniqueTable.byNatural_eq_none.1 hfree _ hmem hukey
    rw [← hdb, ← hkey]
    refine ⟨hfree, i, t', ?_, by rw [prog, call], by rw [call]; exact hextended⟩
    rw [threads, List.getElem?_set_self (List.getElem?_eq_some_iff.1 thread).1]

theorem ProvenanceInv.statement (hinv : ProvenanceInv k db₀ s) (thread : s.threads[i]? = some t)
    (h : s.runThread i t = some s') : ProvenanceInv k db₀ s' := by
  have hmem := List.mem_of_getElem? thread
  cases persistStep (hinv.executed t hmem) (hinv.phase t hmem) h with
  | moved t' call executed phase alive => exact hinv.moved thread h call executed phase
  | committed t' s' call executed prog staged flushed threads =>
      exact hinv.committed thread call executed prog staged flushed threads
  | refused next commit staged refused => exact hinv.moved thread h rfl rfl .failed

theorem ProvenanceRun.inv (h : ProvenanceRun condition k db₀ s) : ProvenanceInv k db₀ s := by
  induction h with
  | init => exact ⟨by simp [System.init], by simp [System.init], by simp [System.init], Or.inl rfl⟩
  | start run c key ih =>
      refine ⟨fun t ht => ?_, fun t ht => ?_, fun t ht => ?_, ih.rows.imp_right ?_⟩
      · rcases List.mem_append.1 ht with ht | ht
        · exact ih.key t ht
        · obtain rfl := List.mem_singleton.1 ht
          exact key
      · rcases List.mem_append.1 ht with ht | ht
        · exact ih.executed t ht
        · obtain rfl := List.mem_singleton.1 ht
          rfl
      · rcases List.mem_append.1 ht with ht | ht
        · exact ih.phase t ht
        · obtain rfl := List.mem_singleton.1 ht
          exact .started
      · rintro ⟨hfree, i, t, ht, hprog, hextended⟩
        refine ⟨hfree, i, t, ?_, hprog, hextended⟩
        rw [List.getElem?_append_left (List.getElem?_eq_some_iff.1 ht).1, ht]
  | statement run i t thread meets step ih => exact ih.statement thread step

/-! ### Runs without a race -/

/-- No call is refused when the keys of its rows are free. -/
theorem ProvenanceRun.alive (h : ProvenanceRun CommitsFree k db₀ s) :
    ∀ t ∈ s.threads, t.prog ≠ .ret .failed := by
  induction h with
  | init => simp [System.init]
  | start run c key ih =>
      intro t ht
      rcases List.mem_append.1 ht with ht | ht
      · exact ih t ht
      · obtain rfl := List.mem_singleton.1 ht
        intro hprog
        change c.persistSnapshotWithEvent = _ at hprog
        unfold PersistCall.persistSnapshotWithEvent at hprog
        split_ifs at hprog <;> cases hprog
  | statement run i t thread meets step ih =>
      have hinv := run.inv
      have hmem := List.mem_of_getElem? thread
      intro u hu
      cases persistStep (hinv.executed t hmem) (hinv.phase t hmem) step with
      | moved t' call executed phase alive =>
          rcases List.mem_or_eq_of_mem_set hu with hu | rfl
          · exact ih u hu
          · exact alive
      | committed t' s' call executed prog staged flushed threads =>
          rw [threads] at hu
          rcases List.mem_or_eq_of_mem_set hu with hu | rfl
          · exact ih u hu
          · rw [prog]
            simp
      | refused next commit staged refused =>
          have hfree := meets next commit
          rw [staged] at hfree
          exact absurd refused (flush_of_free hfree)

/-- What a run promises. -/
structure ProvenanceSafe (k : SnapshotKey) (db₀ : ProvenanceDb) (s : ProvenanceSystem) : Prop where
  /-- Every valid call that has ended has returned the stored snapshot. -/
  returned : ∀ t ∈ s.threads, t.call.Valid → ∀ o, t.prog = .ret o →
    ∃ row, s.db.snapshots.byNatural k = some row ∧ o = .returned row
  /-- Then exactly one snapshot is stored. -/
  stored : (∃ t ∈ s.threads, t.call.Valid ∧ ∃ o, t.prog = .ret o) →
    (s.db.snapshots.rows.filter fun row => NaturalKey.natural row = k).length = 1
  /-- The rows are those at the start, or those and the snapshot, the outbox event and the audit event
      of one call, which has returned. -/
  rows : s.db = db₀ ∨ db₀.snapshots.byNatural k = none ∧
    ∃ t ∈ s.threads, t.prog = .ret (.returned t.call.stored) ∧ db₀.Extended t.call s.db

theorem filter_natural_length {t : UniqueTable SnapshotRow} {row : SnapshotRow}
    (h : t.byNatural k = some row) :
    (t.rows.filter fun row => NaturalKey.natural row = k).length = 1 := by
  have hmem : k ∈ t.rows.map NaturalKey.natural := UniqueTable.isSome_byNatural.1 (by rw [h]; rfl)
  have hcount := List.count_eq_one_of_mem t.natural_nodup hmem
  rw [List.count, List.countP_map, List.countP_eq_length_filter] at hcount
  rw [← hcount]
  congr 1

/-- **Snapshots without a race.** As long as no call commits after another has stored its snapshot,
    every call returns the one snapshot. -/
theorem provenanceSafe (h : ProvenanceRun CommitsFree k db₀ s) : ProvenanceSafe k db₀ s := by
  have hinv := h.inv
  have hreturned : ∀ t ∈ s.threads, t.call.Valid → ∀ o, t.prog = .ret o →
      ∃ row, s.db.snapshots.byNatural k = some row ∧ o = .returned row := by
    intro t ht hvalid o hprog
    have hphase := hinv.phase t ht
    have halive := h.alive t ht
    have hkey := hinv.key t ht
    generalize hp : t.prog = prog at hphase
    generalize t.staged = staged at hphase
    rw [hp] at hprog halive
    cases hphase with
    | started =>
        unfold PersistCall.persistSnapshotWithEvent at hprog
        rw [if_neg hvalid.1] at hprog
        cases hprog
    | missed typed => cases hprog
    | added typed =>
        unfold PersistCall.auditAndCommit at hprog
        split_ifs at hprog <;> cases hprog
    | refusing e invalid staged => cases hprog
    | committing valid => cases hprog
    | returned row stored =>
        cases hprog
        exact ⟨row, by rw [← hkey]; exact stored, rfl⟩
    | raised e invalid => exact absurd hvalid invalid
    | failed => exact absurd rfl halive
  refine ⟨hreturned, ?_, ?_⟩
  · rintro ⟨t, ht, hvalid, o, hprog⟩
    obtain ⟨row, hrow, -⟩ := hreturned t ht hvalid o hprog
    exact filter_natural_length hrow
  · refine hinv.rows.imp_right fun ⟨hfree, i, t, ht, hprog, hextended⟩ => ?_
    exact ⟨hfree, t, List.mem_of_getElem? ht, hprog, hextended⟩

/-- A schedule as a run. -/
theorem ProvenanceRun.of_runEvents (es : List (Event PersistCall))
    (run : ProvenanceRun condition k db₀ s) (hstart : ∀ c, .start c ∈ es → c.key = k)
    (habort : ∀ i, .abort i ∉ es) (hmeets : ∀ s t, condition s t)
    (h : s.runEvents PersistCall.persistSnapshotWithEvent es = some s') :
    ProvenanceRun condition k db₀ s' := by
  induction es generalizing s with
  | nil => cases h; exact run
  | cons e es ih =>
      obtain ⟨s₁, hstep, hrest⟩ := Option.bind_eq_some_iff.1 h
      refine ih ?_ (fun c hc => hstart c (List.mem_cons_of_mem _ hc))
        (fun i hi => habort i (List.mem_cons_of_mem _ hi)) hrest
      cases e with
      | start c =>
          cases hstep
          exact .start run c (hstart c List.mem_cons_self)
      | run i =>
          obtain ⟨t, ht, hrun⟩ := Option.bind_eq_some_iff.1 hstep
          exact .statement run i t ht (hmeets _ _) hrun
      | abort i => exact absurd List.mem_cons_self (habort i)

end Runs

/-! ## Samples -/

/-- Two workers have retrieved the same record, each under an id of its own. -/
def samplePersist (id : String) (digit : Char) : PersistCall where
  snapshot :=
    { id := id
      source := "osv"
      sourceRecordId := "CVE-2026-9"
      contentSha256 := "9f86d081"
      contentSize := 22
      retrievedAt := 0
      providerTimestamp := none
      cursor := none
      schemaVersion := none
      adapterVersion := none
      objectUri := "s3://bucket/9f86d081.json"
      validationState := "valid"
      validationErrors := none
      organizationId := none
      correlationId := none
      createdAt := 0 }
  eventType := "source.snapshot.created"
  auditEvent := none
  payload := none
  env := ⟨fun _ => 0, fun _ => String.ofList (List.replicate 32 digit), none⟩

def sampleProvenance : ProvenanceDb := ⟨UniqueTable.empty, Table.empty, Table.empty⟩

/-- Whether call 1 has been refused. -/
def secondRefused (s : ProvenanceSystem) : Bool :=
  match s.threads[1]? with
  | some t =>
      match t.prog with
      | .ret .failed => decide t.call.Valid
      | _ => false
  | none => false

/-- Both calls look the snapshot up before either has committed it: the second commit is refused. -/
theorem persist_races : ¬ ∀ (k : SnapshotKey) (db₀ : ProvenanceDb) (s : ProvenanceSystem),
    ProvenanceRun (fun _ _ => True) k db₀ s → ProvenanceSafe k db₀ s := by
  intro h
  have hruns : ((System.init sampleProvenance).runEvents PersistCall.persistSnapshotWithEvent
      [.start (samplePersist "ss_1" '1'), .start (samplePersist "ss_2" '2'), .run 0, .run 1, .run 0,
        .run 1, .run 0, .run 1, .run 0, .run 1]).any secondRefused = true := by
    decide +kernel
  obtain ⟨s, hs, hrefused⟩ := (Option.any_eq_true _ _).1 hruns
  have hrun : ProvenanceRun (fun _ _ => True) (samplePersist "ss_1" '1').key sampleProvenance s := by
    refine .of_runEvents _ .init (fun c hc => ?_) (by simp) (fun _ _ => trivial) hs
    simp only [List.mem_cons, Event.start.injEq, reduceCtorEq, List.not_mem_nil, or_false]
      at hc
    rcases hc with rfl | rfl <;> rfl
  unfold secondRefused at hrefused
  split at hrefused
  · next t ht =>
      split at hrefused
      · next hprog =>
          obtain ⟨row, -, hreturned⟩ := (h _ _ s hrun).returned t (List.mem_of_getElem? ht)
            (of_decide_eq_true hrefused) _ hprog
          cases hreturned
      · cases hrefused
  · cases hrefused

/-- The second call looks the snapshot up after the first has committed it: both have ended, and one of
    them has written. -/
theorem provenanceSafe_later : ∃ s : ProvenanceSystem, s.log.length = 1 ∧
    (∃ t t', s.threads = [t, t'] ∧ ∃ o o', t.prog = .ret o ∧ t'.prog = .ret o') ∧
    ProvenanceSafe (samplePersist "ss_1" '1').key sampleProvenance s := by
  have hstart : ProvenanceRun CommitsFree (samplePersist "ss_1" '1').key sampleProvenance _ :=
    .start (.start .init (samplePersist "ss_1" '1') rfl) (samplePersist "ss_2" '2') rfl
  have hread := hstart.statement 0 _ rfl (fun _ h => by cases h) rfl
  have hadd := hread.statement 0 _ rfl (fun _ h => by cases h) rfl
  have haudit := hadd.statement 0 _ rfl (fun _ h => by cases h) rfl
  have hfree : ∀ w ∈ (samplePersist "ss_1" '1').rows, w.Free sampleProvenance := by
    intro w hw
    rcases List.mem_cons.1 hw with rfl | hw
    · exact ⟨List.not_mem_nil, List.not_mem_nil⟩
    · obtain rfl := List.mem_singleton.1 hw
      exact List.not_mem_nil
  have hcommit := haudit.statement 0 _ rfl (fun _ _ => hfree) rfl
  have hlookup := hcommit.statement 1 _ rfl (fun _ h => by cases h) rfl
  exact ⟨_, rfl, ⟨_, _, rfl, _, _, rfl, rfl⟩, provenanceSafe hlookup⟩

end VulnOpsHub
