import VulnOpsHub.Lib.Table
import VulnOpsHub.Lib.Program
import VulnOpsHub.Lib.Python

set_option autoImplicit false

/-! # Case rows

The rows behind the case workflow (`cases/models.py`, `db/models/`), the database made of them, and
its statements as a `Store`: inserts, refused when the primary key is taken, and `UPDATE`s that set
some columns of one row.

Times the server writes are kept as instants (microseconds since the epoch, UTC); the expiry of a
risk decision keeps its time zone, which the code inspects. Columns no modelled function uses are
left out. -/

namespace VulnOpsHub

/-- A UTC time in microseconds since the epoch. -/
abbrev Instant := ℤ

/-! ## Statuses -/

inductive CaseStatus where
  | new
  | triage
  | assigned
  | inProgress
  | awaitingVerification
  | closed
  | riskAccepted
  | notApplicable
  | reopened
deriving DecidableEq, Repr

namespace CaseStatus

def value : CaseStatus → String
  | .new => "new"
  | .triage => "triage"
  | .assigned => "assigned"
  | .inProgress => "in_progress"
  | .awaitingVerification => "awaiting_verification"
  | .closed => "closed"
  | .riskAccepted => "risk_accepted"
  | .notApplicable => "not_applicable"
  | .reopened => "reopened"

end CaseStatus

/-- `ALLOWED_TRANSITIONS`. -/
def allowedTransitions : CaseStatus → List CaseStatus
  | .new => [.triage]
  | .triage => [.assigned, .notApplicable, .riskAccepted]
  | .assigned => [.inProgress, .triage]
  | .inProgress => [.awaitingVerification, .triage]
  | .awaitingVerification => [.closed, .inProgress]
  | .riskAccepted => [.triage]
  | .notApplicable => [.triage]
  | .closed => [.reopened]
  | .reopened => [.triage]

/-- The status of a risk decision. -/
inductive DecisionStatus where
  | pendingApproval
  | approved
  | rejected
  | revoked
  | expired
deriving DecidableEq, Repr

/-- The recorded result of a verification. -/
inductive VerificationStatus where
  | closed
  | requiresApproval
  | insufficientEvidence
deriving DecidableEq, Repr

def VerificationStatus.value : VerificationStatus → String
  | .closed => "closed"
  | .requiresApproval => "requires_approval"
  | .insufficientEvidence => "insufficient_evidence"

/-- A value in an expiry column or argument: absent, not a `datetime`, or a `datetime`. -/
inductive Expiry where
  | missing
  | notDatetime
  | datetime (d : Datetime)
deriving DecidableEq, Repr

/-! ## Rows -/

structure RemediationCase where
  id : String
  caseKey : String
  title : String
  organizationId : String
  ownerTeam : String
  assignee : Option String
  priority : String
  policyVersion : Option String
  status : CaseStatus
  version : ℤ
  dueAt : Option Instant
  slaBreached : Bool
  ownershipEscalated : Bool
  closureReason : Option String
  externalTicketId : Option String := none
  exposures : List String
  createdAt : Instant
  updatedAt : Instant
deriving DecidableEq, Repr

structure SlaClock where
  id : String
  caseId : String
  phase : String
  dueAt : Instant
deriving DecidableEq, Repr

structure RiskDecision where
  id : String
  caseId : String
  type : String
  status : DecisionStatus
  scopeExposureIds : Json
  reason : String
  compensatingControls : Option (List String)
  evidenceIds : Json
  requestedBy : String
  requestedByProvenance : String
  approver : Option String
  approverRole : Option String
  approverProvenance : Option String
  approverPrincipalType : Option String
  decidedAt : Option Instant
  expiresAt : Expiry
  createdAt : Instant
  updatedAt : Instant

structure Verification where
  id : String
  caseId : String
  method : String
  assertedResult : Option String
  evidenceIds : Json
  coverage : Json
  status : VerificationStatus
  createdAt : Instant

structure AuditEvent where
  id : String
  actor : String
  action : String
  subjectType : String
  subjectId : String
  priorState : Option String
  newState : Option String
  reason : Option String
  correlationId : Option String
  requestId : Option String
  organizationId : String
  actorProvenance : String
  actorPrincipalType : Option String
  actorRoles : Option (List String)
  actorScopes : Option (List String)
  createdAt : Instant
deriving DecidableEq, Repr

structure OutboxEvent where
  id : String
  aggregateType : String
  aggregateId : String
  eventType : String
  payload : Json
  correlationId : String
  createdAt : Instant
  deliveredAt : Option Instant
  attempts : ℕ

/-- The columns of an exposure that case creation reads. -/
structure ExposureRow where
  id : String
  organizationId : String
  assetId : Option String
deriving DecidableEq, Repr

/-- The columns of an asset that case creation reads. -/
structure AssetRow where
  id : String
  organizationId : String
  owner : Option String
  businessServiceId : Option String
deriving DecidableEq, Repr

/-- The columns of a business service that case creation reads. -/
structure BusinessServiceRow where
  id : String
  organizationId : String
  ownerTeam : String
deriving DecidableEq, Repr

instance : Keyed RemediationCase String := ⟨RemediationCase.id⟩
instance : Keyed SlaClock String := ⟨SlaClock.id⟩
instance : Keyed RiskDecision String := ⟨RiskDecision.id⟩
instance : Keyed Verification String := ⟨Verification.id⟩
instance : Keyed AuditEvent String := ⟨AuditEvent.id⟩
instance : Keyed OutboxEvent String := ⟨OutboxEvent.id⟩
instance : Keyed ExposureRow String := ⟨ExposureRow.id⟩
instance : Keyed AssetRow String := ⟨AssetRow.id⟩
instance : Keyed BusinessServiceRow String := ⟨BusinessServiceRow.id⟩

/-- The tables of the case workflow, with the inventory case creation looks owners up in. -/
structure Db where
  cases : Table RemediationCase
  clocks : Table SlaClock
  decisions : Table RiskDecision
  verifications : Table Verification
  auditEvents : Table AuditEvent
  outboxEvents : Table OutboxEvent
  exposures : Table ExposureRow
  assets : Table AssetRow
  services : Table BusinessServiceRow

namespace Db

/-- A database over a given inventory whose workflow tables are empty. -/
def initial (exposures : Table ExposureRow) (assets : Table AssetRow)
    (services : Table BusinessServiceRow) : Db :=
  ⟨.empty, .empty, .empty, .empty, .empty, .empty, exposures, assets, services⟩

def case? (db : Db) (id : String) : Option RemediationCase := db.cases.find? id

def decision? (db : Db) (id : String) : Option RiskDecision := db.decisions.find? id

/-- The asset `id`, when it belongs to the organization. -/
def asset? (db : Db) (id organizationId : String) : Option AssetRow :=
  (db.assets.find? id).filter (·.organizationId = organizationId)

/-- The business service `id`, when it belongs to the organization. -/
def service? (db : Db) (id organizationId : String) : Option BusinessServiceRow :=
  (db.services.find? id).filter (·.organizationId = organizationId)

theorem id_of_case? {db : Db} {id : String} {c : RemediationCase} (h : db.case? id = some c) :
    c.id = id := Table.key_of_find? h

theorem id_of_decision? {db : Db} {id : String} {d : RiskDecision} (h : db.decision? id = some d) :
    d.id = id := Table.key_of_find? h

end Db

/-! ## Updates -/

/-- The columns of a case an `UPDATE` sets. -/
structure CasePatch where
  status : Option CaseStatus
  version : Option ℤ
  assignee : Option (Option String)
  slaBreached : Option Bool
  closureReason : Option (Option String)
  externalTicketId : Option (Option String) := none
  updatedAt : Option Instant
deriving DecidableEq, Repr

def CasePatch.toRow (p : CasePatch) : RowPatch RemediationCase where
  apply := fun c =>
    { c with
      status := p.status.getD c.status
      version := p.version.getD c.version
      assignee := p.assignee.getD c.assignee
      slaBreached := p.slaBreached.getD c.slaBreached
      closureReason := p.closureReason.getD c.closureReason
      externalTicketId := p.externalTicketId.getD c.externalTicketId
      updatedAt := p.updatedAt.getD c.updatedAt }
  key_apply := fun _ => rfl

/-- A column is in the `SET` clause of a flush when its value changed. -/
def changed {α : Type} [DecidableEq α] (loaded current : α) : Option α :=
  if loaded = current then none else some current

/-- The `UPDATE` a flush emits for a case loaded as `loaded` and left as `current`: changed columns
    only, and `updated_at` from its `onupdate` default unless it was set. -/
def CasePatch.ofChange (loaded current : RemediationCase) (now : Instant) : CasePatch where
  status := changed loaded.status current.status
  version := changed loaded.version current.version
  assignee := changed loaded.assignee current.assignee
  slaBreached := changed loaded.slaBreached current.slaBreached
  closureReason := changed loaded.closureReason current.closureReason
  externalTicketId := changed loaded.externalTicketId current.externalTicketId
  updatedAt := some ((changed loaded.updatedAt current.updatedAt).getD now)

/-- The columns of a risk decision an `UPDATE` sets. -/
structure DecisionPatch where
  status : Option DecisionStatus
  approver : Option (Option String)
  approverRole : Option (Option String)
  approverProvenance : Option (Option String)
  approverPrincipalType : Option (Option String)
  decidedAt : Option (Option Instant)
  updatedAt : Option Instant
deriving DecidableEq, Repr

def DecisionPatch.toRow (p : DecisionPatch) : RowPatch RiskDecision where
  apply := fun d =>
    { d with
      status := p.status.getD d.status
      approver := p.approver.getD d.approver
      approverRole := p.approverRole.getD d.approverRole
      approverProvenance := p.approverProvenance.getD d.approverProvenance
      approverPrincipalType := p.approverPrincipalType.getD d.approverPrincipalType
      decidedAt := p.decidedAt.getD d.decidedAt
      updatedAt := p.updatedAt.getD d.updatedAt }
  key_apply := fun _ => rfl

def DecisionPatch.ofChange (loaded current : RiskDecision) (now : Instant) : DecisionPatch where
  status := changed loaded.status current.status
  approver := changed loaded.approver current.approver
  approverRole := changed loaded.approverRole current.approverRole
  approverProvenance := changed loaded.approverProvenance current.approverProvenance
  approverPrincipalType := changed loaded.approverPrincipalType current.approverPrincipalType
  decidedAt := changed loaded.decidedAt current.decidedAt
  updatedAt := some ((changed loaded.updatedAt current.updatedAt).getD now)

@[simp]
theorem changed_getD {α : Type} [DecidableEq α] (loaded current : α) :
    (changed loaded current).getD loaded = current := by
  unfold changed
  split
  · next h => rw [h]; rfl
  · rfl

/-- An object loaded and changed, flushed over the row it was loaded from. -/
theorem CasePatch.ofChange_apply (loaded current : RemediationCase) (now : Instant) :
    (CasePatch.ofChange loaded current now).toRow.apply loaded =
      { loaded with
        status := current.status
        version := current.version
        assignee := current.assignee
        slaBreached := current.slaBreached
        closureReason := current.closureReason
        externalTicketId := current.externalTicketId
        updatedAt := (changed loaded.updatedAt current.updatedAt).getD now } := by
  simp [CasePatch.ofChange, CasePatch.toRow]

theorem DecisionPatch.ofChange_apply (loaded current : RiskDecision) (now : Instant) :
    (DecisionPatch.ofChange loaded current now).toRow.apply loaded =
      { loaded with
        status := current.status
        approver := current.approver
        approverRole := current.approverRole
        approverProvenance := current.approverProvenance
        approverPrincipalType := current.approverPrincipalType
        decidedAt := current.decidedAt
        updatedAt := (changed loaded.updatedAt current.updatedAt).getD now } := by
  simp [DecisionPatch.ofChange, DecisionPatch.toRow]

/-! ## Statements -/

/-- One statement of a transaction. -/
inductive Write where
  | insertCase (c : RemediationCase)
  | insertClock (c : SlaClock)
  | insertDecision (d : RiskDecision)
  | insertVerification (v : Verification)
  | insertAudit (a : AuditEvent)
  | insertOutbox (o : OutboxEvent)
  | updateCase (id : String) (p : CasePatch)
  | updateDecision (id : String) (p : DecisionPatch)

/-- A row that writers can lock. -/
inductive RowRef where
  | case (id : String)
  | decision (id : String)
deriving DecidableEq, Repr

namespace Write

/-- The rows after a statement; a duplicate primary key is refused, and a duplicate case key. -/
def apply (db : Db) : Write → Option Db
  | .insertCase c =>
      if db.cases.rows.any (·.caseKey = c.caseKey) then none
      else (db.cases.insert c).map fun t => { db with cases := t }
  | .insertClock c => (db.clocks.insert c).map fun t => { db with clocks := t }
  | .insertDecision d => (db.decisions.insert d).map fun t => { db with decisions := t }
  | .insertVerification v =>
      (db.verifications.insert v).map fun t => { db with verifications := t }
  | .insertAudit a => (db.auditEvents.insert a).map fun t => { db with auditEvents := t }
  | .insertOutbox o => (db.outboxEvents.insert o).map fun t => { db with outboxEvents := t }
  | .updateCase id p => some { db with cases := db.cases.update id p.toRow }
  | .updateDecision id p => some { db with decisions := db.decisions.update id p.toRow }

/-- What the session that issued the statement shows on later reads by primary key: changed
    attributes of loaded objects, but no object that has not been flushed yet. -/
def overlay (db : Db) : Write → Db
  | .updateCase id p => { db with cases := db.cases.update id p.toRow }
  | .updateDecision id p => { db with decisions := db.decisions.update id p.toRow }
  | _ => db

def touches : Write → List RowRef
  | .insertCase c => [.case c.id]
  | .insertDecision d => [.decision d.id]
  | .updateCase id _ => [.case id]
  | .updateDecision id _ => [.decision id]
  | _ => []

/-- What a statement does to the case stored under `id`. -/
def onCase (id : String) (x : Option RemediationCase) : Write → Option RemediationCase
  | .insertCase c => if c.id = id then some c else x
  | .updateCase cid p => if id = cid then x.map p.toRow.apply else x
  | _ => x

/-- What a statement does to the decision stored under `id`. -/
def onDecision (id : String) (x : Option RiskDecision) : Write → Option RiskDecision
  | .insertDecision d => if d.id = id then some d else x
  | .updateDecision did p => if id = did then x.map p.toRow.apply else x
  | _ => x

def verification? : Write → Option Verification
  | .insertVerification v => some v
  | _ => none

def audit? : Write → Option AuditEvent
  | .insertAudit a => some a
  | _ => none

def outbox? : Write → Option OutboxEvent
  | .insertOutbox o => some o
  | _ => none

/-- The effect of a statement on what the workflow reads. -/
structure Effect (w : Write) (db db' : Db) : Prop where
  case? : ∀ id, db'.case? id = w.onCase id (db.case? id)
  decision? : ∀ id, db'.decision? id = w.onDecision id (db.decision? id)
  verifications : db'.verifications.rows = db.verifications.rows ++ w.verification?.toList
  auditEvents : db'.auditEvents.rows = db.auditEvents.rows ++ w.audit?.toList
  outboxEvents : db'.outboxEvents.rows = db.outboxEvents.rows ++ w.outbox?.toList

theorem apply_effect {w : Write} {db db' : Db} (h : w.apply db = some db') :
    w.Effect db db' := by
  cases w with
  | insertCase c =>
      simp only [apply] at h
      split at h
      · cases h
      · obtain ⟨t, ht, rfl⟩ := Option.map_eq_some_iff.1 h
        exact ⟨fun id => Table.find?_insert ht id, fun _ => rfl, by simp [verification?],
          by simp [audit?], by simp [outbox?]⟩
  | insertClock c =>
      obtain ⟨t, -, rfl⟩ := Option.map_eq_some_iff.1 h
      exact ⟨fun _ => rfl, fun _ => rfl, by simp [verification?], by simp [audit?],
        by simp [outbox?]⟩
  | insertDecision d =>
      obtain ⟨t, ht, rfl⟩ := Option.map_eq_some_iff.1 h
      exact ⟨fun _ => rfl, fun id => Table.find?_insert ht id, by simp [verification?],
        by simp [audit?], by simp [outbox?]⟩
  | insertVerification v =>
      obtain ⟨t, ht, rfl⟩ := Option.map_eq_some_iff.1 h
      exact ⟨fun _ => rfl, fun _ => rfl, Table.rows_insert ht, by simp [audit?], by simp [outbox?]⟩
  | insertAudit a =>
      obtain ⟨t, ht, rfl⟩ := Option.map_eq_some_iff.1 h
      exact ⟨fun _ => rfl, fun _ => rfl, by simp [verification?], Table.rows_insert ht,
        by simp [outbox?]⟩
  | insertOutbox o =>
      obtain ⟨t, ht, rfl⟩ := Option.map_eq_some_iff.1 h
      exact ⟨fun _ => rfl, fun _ => rfl, by simp [verification?], by simp [audit?],
        Table.rows_insert ht⟩
  | updateCase cid p =>
      cases h
      exact ⟨fun id => Table.find?_update _ cid id _, fun _ => rfl, by simp [verification?],
        by simp [audit?], by simp [outbox?]⟩
  | updateDecision did p =>
      cases h
      exact ⟨fun _ => rfl, fun id => Table.find?_update _ did id _, by simp [verification?],
        by simp [audit?], by simp [outbox?]⟩

end Write

/-- A row reads the same in two databases. -/
def RowRef.Same (db db' : Db) : RowRef → Prop
  | .case id => db.case? id = db'.case? id
  | .decision id => db.decision? id = db'.decision? id

theorem Write.apply_same {w : Write} {db db' : Db} {r : RowRef} (h : w.apply db = some db')
    (hr : r ∉ w.touches) : r.Same db db' := by
  have he := Write.apply_effect h
  cases r with
  | case id =>
      show db.case? id = db'.case? id
      rw [he.case? id]
      cases w <;> simp_all [Write.onCase, Write.touches, eq_comm]
  | decision id =>
      show db.decision? id = db'.decision? id
      rw [he.decision? id]
      cases w <;> simp_all [Write.onDecision, Write.touches, eq_comm]

instance : Store Db Write RowRef where
  apply := fun w db => w.apply db
  overlay := fun w db => w.overlay db
  touches := Write.touches
  Same := fun r db db' => r.Same db db'
  same_refl := fun r _ => by cases r <;> rfl
  same_trans := fun {r _ _ _} h₁ h₂ => by cases r <;> exact Eq.trans h₁ h₂
  apply_same := Write.apply_same

/-- `UPDATE remediation_cases` where the id matches and `guard` holds of the row. -/
def CondUpdate.onCase (id : String) (guard : RemediationCase → Bool) (p : CasePatch) :
    CondUpdate Db where
  row := .case id
  guard := fun db => (db.case? id).any guard
  write := .updateCase id p
  guard_congr := fun h => congrArg (Option.any guard) h
  touches_write := rfl

/-- `UPDATE risk_decisions` where the id matches and `guard` holds of the row. -/
def CondUpdate.onDecision (id : String) (guard : RiskDecision → Bool) (p : DecisionPatch) :
    CondUpdate Db where
  row := .decision id
  guard := fun db => (db.decision? id).any guard
  write := .updateDecision id p
  guard_congr := fun h => congrArg (Option.any guard) h
  touches_write := rfl

/-- A call over the case tables. -/
abbrev Prog (α : Type) := Program Db PyError α

/-! ## Transactions -/

/-- What a transaction does to what the workflow reads, statement by statement. -/
structure FlushEffect (ws : List Write) (db db' : Db) : Prop where
  case? : ∀ id, db'.case? id = ws.foldl (fun x w => w.onCase id x) (db.case? id)
  decision? : ∀ id, db'.decision? id = ws.foldl (fun x w => w.onDecision id x) (db.decision? id)
  verifications : db'.verifications.rows
    = db.verifications.rows ++ ws.filterMap Write.verification?
  auditEvents : db'.auditEvents.rows = db.auditEvents.rows ++ ws.filterMap Write.audit?
  outboxEvents : db'.outboxEvents.rows = db.outboxEvents.rows ++ ws.filterMap Write.outbox?

theorem filterMap_cons_toList {α β : Type} (f : α → Option β) (a : α) (l : List α) :
    (a :: l).filterMap f = (f a).toList ++ l.filterMap f := by
  cases h : f a <;> simp [h]

/-- A transaction acts on each table through its own statements alone. -/
theorem flush_effect {ws : List Write} {db db' : Db} (h : Store.flush ws db = some db') :
    FlushEffect ws db db' := by
  induction ws generalizing db with
  | nil => cases h; exact ⟨fun _ => rfl, fun _ => rfl, by simp, by simp, by simp⟩
  | cons w ws ih =>
      obtain ⟨db₁, hw, hws⟩ := Store.flush_cons h
      have he := Write.apply_effect hw
      have hrest := ih hws
      refine ⟨fun id => ?_, fun id => ?_, ?_, ?_, ?_⟩
      · rw [hrest.case? id, he.case? id, List.foldl_cons]
      · rw [hrest.decision? id, he.decision? id, List.foldl_cons]
      · rw [hrest.verifications, he.verifications, List.append_assoc, filterMap_cons_toList]
      · rw [hrest.auditEvents, he.auditEvents, List.append_assoc, filterMap_cons_toList]
      · rw [hrest.outboxEvents, he.outboxEvents, List.append_assoc, filterMap_cons_toList]

/-- The case workflow never writes the inventory. -/
theorem Write.apply_inventory {w : Write} {db db' : Db} (h : w.apply db = some db') :
    db'.exposures = db.exposures ∧ db'.assets = db.assets ∧ db'.services = db.services := by
  cases w with
  | insertCase c =>
      simp only [Write.apply] at h
      split at h
      · cases h
      · obtain ⟨t, -, rfl⟩ := Option.map_eq_some_iff.1 h
        exact ⟨rfl, rfl, rfl⟩
  | updateCase id p => cases h; exact ⟨rfl, rfl, rfl⟩
  | updateDecision id p => cases h; exact ⟨rfl, rfl, rfl⟩
  | _ =>
      obtain ⟨t, -, rfl⟩ := Option.map_eq_some_iff.1 h
      exact ⟨rfl, rfl, rfl⟩

/-- Nor does a transaction of the case workflow. -/
theorem flush_inventory {ws : List Write} {db db' : Db} (h : Store.flush ws db = some db') :
    db'.exposures = db.exposures ∧ db'.assets = db.assets ∧ db'.services = db.services := by
  induction ws generalizing db with
  | nil =>
      cases h
      exact ⟨rfl, rfl, rfl⟩
  | cons w ws ih =>
      obtain ⟨db₁, hw, hrest⟩ := Store.flush_cons h
      obtain ⟨hexposures, hassets, hservices⟩ := ih hrest
      obtain ⟨hexposures₁, hassets₁, hservices₁⟩ := Write.apply_inventory hw
      exact ⟨hexposures.trans hexposures₁, hassets.trans hassets₁, hservices.trans hservices₁⟩

theorem Write.overlay_inventory (w : Write) (db : Db) :
    (w.overlay db).exposures = db.exposures ∧ (w.overlay db).assets = db.assets ∧
      (w.overlay db).services = db.services := by
  cases w <;> exact ⟨rfl, rfl, rfl⟩

end VulnOpsHub
