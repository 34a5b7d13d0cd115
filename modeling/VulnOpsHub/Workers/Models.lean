import VulnOpsHub.Cases.Models
import VulnOpsHub.Lib.Embedding
import VulnOpsHub.Risk.Policy

set_option autoImplicit false

/-! # The rows the workers use

Exposures and their evidence (`matching/models.py`), the links between cases and exposures, the
occurrences of a bill of materials and the inventory, together with the tables of the case
workflow, which stay a store of their own (`hubView`). Columns no modelled function uses are left
out. -/

namespace VulnOpsHub

/-! ## Rows -/

inductive ExposureState where
  | candidate
  | active
  | underReview
  | notAffected
  | remediated
  | superseded
deriving DecidableEq, Repr

def ExposureState.value : ExposureState → String
  | .candidate => "candidate"
  | .active => "active"
  | .underReview => "under_review"
  | .notAffected => "not_affected"
  | .remediated => "remediated"
  | .superseded => "superseded"

structure Exposure where
  id : String
  organizationId : String
  assetId : Option String
  componentOccurrenceId : Option String
  vulnerabilityId : String
  detectionContext : String
  matchClass : MatchClass
  confidence : ℚ
  priority : Option Priority
  policyVersion : Option String
  state : ExposureState
  matchedRules : Option (List String)
  evidenceRefs : Option (List String)
  limitations : Option (List String)
  matcherVersion : Option String
  firstObservedAt : Instant
  lastObservedAt : Instant
  createdAt : Instant
deriving DecidableEq, Repr

structure MatchEvidence where
  id : String
  exposureId : String
  componentPurl : Option String
  vulnerabilityId : String
  evidenceRef : Option String
  matcherVersion : Option String
deriving DecidableEq, Repr

structure CaseExposure where
  id : String
  caseId : String
  exposureId : String
deriving DecidableEq, Repr

structure ComponentOccurrence where
  id : String
  sbomId : String
  assetId : Option String
  purl : Option String
  ecosystem : Option String
  normalizedName : Option String
  rawName : String
  rawVersion : Option String
  cpe : Option String
  versionScheme : Option String
deriving DecidableEq, Repr

structure Asset where
  id : String
  organizationId : String
  owner : Option String
  businessServiceId : Option String
  criticality : String
  internetExposure : Option String
deriving DecidableEq, Repr

/-- What a source asserts about a vulnerability. -/
structure AdvisoryAssertion where
  id : String
  vulnerabilityId : String
  source : String
  kev : Option Bool
deriving DecidableEq, Repr

instance : Keyed Exposure String := ⟨Exposure.id⟩
instance : Keyed MatchEvidence String := ⟨MatchEvidence.id⟩
instance : Keyed CaseExposure String := ⟨CaseExposure.id⟩
instance : Keyed ComponentOccurrence String := ⟨ComponentOccurrence.id⟩
instance : Keyed Asset String := ⟨Asset.id⟩
instance : Keyed AdvisoryAssertion String := ⟨AdvisoryAssertion.id⟩

/-- The columns of an exposure that case creation reads. -/
def Exposure.toRow (e : Exposure) : ExposureRow := ⟨e.id, e.organizationId, e.assetId⟩

/-- The columns of an asset that case creation reads. -/
def Asset.toRow (a : Asset) : AssetRow := ⟨a.id, a.organizationId, a.owner, a.businessServiceId⟩

/-- What `upsert_exposure` looks an exposure up by. -/
structure ExposureKey where
  organizationId : String
  vulnerabilityId : String
  detectionContext : String
  componentOccurrenceId : Option String
deriving DecidableEq, Repr

def Exposure.key (e : Exposure) : ExposureKey :=
  ⟨e.organizationId, e.vulnerabilityId, e.detectionContext, e.componentOccurrenceId⟩

/-- The tables of the hub. -/
structure Hub where
  cases : Table RemediationCase
  clocks : Table SlaClock
  decisions : Table RiskDecision
  verifications : Table Verification
  auditEvents : Table AuditEvent
  outboxEvents : Table OutboxEvent
  exposures : Table Exposure
  evidence : Table MatchEvidence
  links : Table CaseExposure
  occurrences : Table ComponentOccurrence
  assets : Table Asset
  services : Table BusinessServiceRow
  assertions : Table AdvisoryAssertion

namespace Hub

/-- No rows at all. -/
def empty : Hub :=
  ⟨.empty, .empty, .empty, .empty, .empty, .empty, .empty, .empty, .empty, .empty, .empty, .empty,
    .empty⟩

def case? (h : Hub) (id : String) : Option RemediationCase := h.cases.find? id

def exposure? (h : Hub) (id : String) : Option Exposure := h.exposures.find? id

def event? (h : Hub) (id : String) : Option OutboxEvent := h.outboxEvents.find? id

/-- The first exposure with a key. -/
def exposureAt (h : Hub) (key : ExposureKey) : Option Exposure :=
  h.exposures.rows.find? fun e => e.key = key

/-- The tables of the case workflow. -/
def view (h : Hub) : Db where
  cases := h.cases
  clocks := h.clocks
  decisions := h.decisions
  verifications := h.verifications
  auditEvents := h.auditEvents
  outboxEvents := h.outboxEvents
  exposures := h.exposures.project Exposure.toRow fun _ => rfl
  assets := h.assets.project Asset.toRow fun _ => rfl
  services := h.services

/-- The case workflow writes its own tables only. -/
def put (h : Hub) (db : Db) : Hub :=
  { h with
    cases := db.cases
    clocks := db.clocks
    decisions := db.decisions
    verifications := db.verifications
    auditEvents := db.auditEvents
    outboxEvents := db.outboxEvents }

end Hub

/-! ## Updates -/

/-- The columns of an exposure an `UPDATE` sets. -/
structure ExposurePatch where
  matchClass : Option MatchClass
  confidence : Option ℚ
  priority : Option (Option Priority)
  policyVersion : Option (Option String)
  state : Option ExposureState
  matchedRules : Option (Option (List String))
  lastObservedAt : Option Instant
deriving DecidableEq, Repr

def ExposurePatch.toRow (p : ExposurePatch) : RowPatch Exposure where
  apply := fun e =>
    { e with
      matchClass := p.matchClass.getD e.matchClass
      confidence := p.confidence.getD e.confidence
      priority := p.priority.getD e.priority
      policyVersion := p.policyVersion.getD e.policyVersion
      state := p.state.getD e.state
      matchedRules := p.matchedRules.getD e.matchedRules
      lastObservedAt := p.lastObservedAt.getD e.lastObservedAt }
  key_apply := fun _ => rfl

/-- The `UPDATE` a flush emits for an exposure loaded as `loaded` and left as `current`. -/
def ExposurePatch.ofChange (loaded current : Exposure) : ExposurePatch where
  matchClass := changed loaded.matchClass current.matchClass
  confidence := changed loaded.confidence current.confidence
  priority := changed loaded.priority current.priority
  policyVersion := changed loaded.policyVersion current.policyVersion
  state := changed loaded.state current.state
  matchedRules := changed loaded.matchedRules current.matchedRules
  lastObservedAt := changed loaded.lastObservedAt current.lastObservedAt

theorem ExposurePatch.ofChange_apply (loaded current : Exposure) :
    (ExposurePatch.ofChange loaded current).toRow.apply loaded =
      { loaded with
        matchClass := current.matchClass
        confidence := current.confidence
        priority := current.priority
        policyVersion := current.policyVersion
        state := current.state
        matchedRules := current.matchedRules
        lastObservedAt := current.lastObservedAt } := by
  simp [ExposurePatch.ofChange, ExposurePatch.toRow]

/-- An update never moves an exposure to another key. -/
theorem ExposurePatch.key_toRow (p : ExposurePatch) (e : Exposure) :
    (p.toRow.apply e).key = e.key := rfl

/-- The columns of an outbox row an `UPDATE` sets. -/
structure OutboxPatch where
  deliveredAt : Option (Option Instant) := none
  attempts : Option ℕ := none
deriving DecidableEq, Repr

def OutboxPatch.toRow (p : OutboxPatch) : RowPatch OutboxEvent where
  apply := fun o =>
    { o with
      deliveredAt := p.deliveredAt.getD o.deliveredAt
      attempts := p.attempts.getD o.attempts }
  key_apply := fun _ => rfl

/-! ## Statements -/

/-- One statement of a transaction over the hub. -/
inductive HubWrite where
  | core (w : Write)
  | insertExposure (e : Exposure)
  | updateExposure (id : String) (p : ExposurePatch)
  | insertEvidence (m : MatchEvidence)
  | insertLink (l : CaseExposure)
  | updateOutbox (id : String) (p : OutboxPatch)

/-- A row of the hub that writers can lock. -/
inductive HubRow where
  | core (r : RowRef)
  | exposure (id : String)
deriving DecidableEq, Repr

namespace HubWrite

/-- The rows after a statement; a duplicate primary key is refused. -/
def apply (h : Hub) : HubWrite → Option Hub
  | .core w => (w.apply h.view).map h.put
  | .insertExposure e => (h.exposures.insert e).map fun t => { h with exposures := t }
  | .updateExposure id p => some { h with exposures := h.exposures.update id p.toRow }
  | .insertEvidence m => (h.evidence.insert m).map fun t => { h with evidence := t }
  | .insertLink l => (h.links.insert l).map fun t => { h with links := t }
  | .updateOutbox id p => some { h with outboxEvents := h.outboxEvents.update id p.toRow }

/-- What the session that issued the statement shows on later reads. Exposures and their evidence
    are flushed as soon as they are added. -/
def overlay (h : Hub) : HubWrite → Hub
  | .core w => h.put (w.overlay h.view)
  | w => (w.apply h).getD h

def touches : HubWrite → List HubRow
  | .core w => w.touches.map .core
  | .insertExposure e => [.exposure e.id]
  | .updateExposure id _ => [.exposure id]
  | _ => []

end HubWrite

/-- A row reads the same in two databases. -/
def HubRow.Same (h h' : Hub) : HubRow → Prop
  | .core r => r.Same h.view h'.view
  | .exposure id => h.exposure? id = h'.exposure? id

namespace Hub

@[simp] theorem view_put_cases (h : Hub) (db : Db) : (h.put db).cases = db.cases := rfl
@[simp] theorem view_put_exposures (h : Hub) (db : Db) : (h.put db).exposures = h.exposures := rfl

/-- What the case workflow writes is there to be read, as long as it leaves the inventory alone. -/
theorem view_put_of_inventory {h : Hub} {db : Db} (hexposures : db.exposures = h.view.exposures)
    (hassets : db.assets = h.view.assets) (hservices : db.services = h.view.services) :
    (h.put db).view = db := by
  cases db
  simp only at hexposures hassets hservices
  subst hexposures hassets hservices
  rfl

end Hub

theorem HubWrite.apply_same {w : HubWrite} {h h' : Hub} {r : HubRow} (hw : w.apply h = some h')
    (hr : r ∉ w.touches) : r.Same h h' := by
  cases r with
  | core r =>
      cases w with
      | core w =>
          obtain ⟨db, hdb, rfl⟩ := Option.map_eq_some_iff.1 hw
          obtain ⟨hexposures, hassets, hservices⟩ := Write.apply_inventory hdb
          show r.Same h.view (h.put db).view
          rw [Hub.view_put_of_inventory hexposures hassets hservices]
          refine Write.apply_same hdb fun hmem => hr ?_
          exact List.mem_map_of_mem hmem
      | updateExposure id p => cases hw; cases r <;> rfl
      | updateOutbox id p => cases hw; cases r <;> rfl
      | _ =>
          obtain ⟨t, -, rfl⟩ := Option.map_eq_some_iff.1 hw
          cases r <;> rfl
  | exposure id =>
      show h.exposure? id = h'.exposure? id
      cases w with
      | core w => obtain ⟨db, -, rfl⟩ := Option.map_eq_some_iff.1 hw; rfl
      | insertExposure e =>
          obtain ⟨t, ht, rfl⟩ := Option.map_eq_some_iff.1 hw
          have hne : Keyed.key e ≠ id := fun he => hr (by rw [← he]; exact List.mem_singleton.2 rfl)
          show h.exposures.find? id = t.find? id
          rw [Table.find?_insert ht, if_neg hne]
      | updateExposure eid p =>
          cases hw
          have hne : id ≠ eid := fun he => hr (by rw [he]; exact List.mem_singleton.2 rfl)
          show h.exposures.find? id = (h.exposures.update eid p.toRow).find? id
          rw [Table.find?_update, if_neg hne]
      | updateOutbox eid p => cases hw; rfl
      | _ => obtain ⟨t, -, rfl⟩ := Option.map_eq_some_iff.1 hw; rfl

instance : Store Hub HubWrite HubRow where
  apply := fun w h => w.apply h
  overlay := fun w h => w.overlay h
  touches := HubWrite.touches
  Same := fun r h h' => r.Same h h'
  same_refl := fun r _ => by cases r with
    | core r => cases r <;> rfl
    | exposure id => rfl
  same_trans := fun {r _ _ _} h₁ h₂ => by cases r with
    | core r => cases r <;> exact Eq.trans h₁ h₂
    | exposure id => exact Eq.trans h₁ h₂
  apply_same := HubWrite.apply_same

/-- The case workflow as a part of the hub. -/
def hubView : StoreView Db Hub where
  view := Hub.view
  put := Hub.put
  write := .core
  row := .core
  put_view := fun _ => rfl
  put_put := fun _ _ _ => rfl
  apply_write := fun _ _ => rfl
  view_put := fun {_ _ _} hw => by
    obtain ⟨hexposures, hassets, hservices⟩ := Write.apply_inventory hw
    exact Hub.view_put_of_inventory hexposures hassets hservices
  overlay_write := fun w h => by
    obtain ⟨hexposures, hassets, hservices⟩ := Write.overlay_inventory w h.view
    exact Hub.view_put_of_inventory hexposures hassets hservices
  touches_write := fun _ => rfl
  same_row := fun h => h

/-- A call over the hub. -/
abbrev HubProg (α : Type) := Program Hub PyError α

end VulnOpsHub
