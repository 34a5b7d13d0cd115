import VulnOpsHub.Workers.Models
import VulnOpsHub.Cases.Service

set_option autoImplicit false

/-! # Recording an exposure

`upsert_exposure` (`workers/orchestration.py`): create or refresh the exposure with a key, and note
the evidence once. It works in the session of its caller, who commits.

A round of the orchestrator draws from one `CallEnv`: case creation takes the first identifiers, the
rows added here the ones after them. -/

namespace VulnOpsHub

/-- The classes that open a case: `_CASE_CLASSES`. -/
def caseClasses : List MatchClass := [.confirmed, .deterministic]

/-- The state an exposure of a class is stored with. -/
def exposureState (matchClass : MatchClass) : ExposureState :=
  if matchClass = .notAffected then .notAffected
  else if matchClass ∈ caseClasses then .active
  else .candidate

structure UpsertArgs where
  organizationId : String
  vulnerabilityId : String
  detectionContext : String
  componentOccurrenceId : Option String
  assetId : Option String
  matchClass : MatchClass
  confidence : ℚ
  matchedRules : Option (List String)
  evidenceRefs : Option (List String)
  limitations : Option (List String)
  matcherVersion : Option String
  priority : Option Priority
  policyVersion : Option String
  evidenceRef : Option String
  componentPurl : Option String
deriving DecidableEq, Repr

namespace UpsertArgs

def key (a : UpsertArgs) : ExposureKey :=
  ⟨a.organizationId, a.vulnerabilityId, a.detectionContext, a.componentOccurrenceId⟩

/-- The exposure as a refresh leaves it. -/
def refreshed (a : UpsertArgs) (env : CallEnv) (e : Exposure) : Exposure :=
  { e with
    lastObservedAt := env.clock 10
    matchClass := a.matchClass
    confidence := a.confidence
    state := exposureState a.matchClass
    matchedRules := (a.matchedRules.filter (· ≠ [])).or e.matchedRules
    priority := a.priority.or e.priority
    policyVersion := (nonEmpty a.policyVersion).or e.policyVersion }

/-- The exposure that is created. -/
def newExposure (a : UpsertArgs) (env : CallEnv) : Exposure where
  id := env.rowId "exp_" 12 7
  organizationId := a.organizationId
  assetId := a.assetId
  componentOccurrenceId := a.componentOccurrenceId
  vulnerabilityId := a.vulnerabilityId
  detectionContext := a.detectionContext
  matchClass := a.matchClass
  confidence := a.confidence
  priority := a.priority
  policyVersion := a.policyVersion
  state := exposureState a.matchClass
  matchedRules := a.matchedRules
  evidenceRefs := a.evidenceRefs
  limitations := a.limitations
  matcherVersion := a.matcherVersion
  firstObservedAt := env.clock 10
  lastObservedAt := env.clock 10
  createdAt := env.clock 10

/-- The evidence row for the exposure with an id. -/
def evidence (a : UpsertArgs) (env : CallEnv) (exposureId : String) : MatchEvidence where
  id := env.rowId "mev_" 12 8
  exposureId := exposureId
  componentPurl := a.componentPurl
  vulnerabilityId := a.vulnerabilityId
  evidenceRef := a.evidenceRef
  matcherVersion := a.matcherVersion

/-- The id of the exposure, given the row found under its key. -/
def exposureId (a : UpsertArgs) (env : CallEnv) (existing : Option Exposure) : String :=
  (existing.map (·.id)).getD (a.newExposure env).id

/-- The statement that creates or refreshes the exposure. -/
def write (a : UpsertArgs) (env : CallEnv) : Option Exposure → HubWrite
  | some e => .updateExposure e.id (.ofChange e (a.refreshed env e))
  | none => .insertExposure (a.newExposure env)

@[simp] theorem key_newExposure (a : UpsertArgs) (env : CallEnv) :
    (a.newExposure env).key = a.key := rfl

@[simp] theorem key_refreshed (a : UpsertArgs) (env : CallEnv) (e : Exposure) :
    (a.refreshed env e).key = e.key := rfl

@[simp] theorem id_refreshed (a : UpsertArgs) (env : CallEnv) (e : Exposure) :
    (a.refreshed env e).id = e.id := rfl

/-- A refresh flushes exactly the row it computed. -/
theorem ofChange_refreshed (a : UpsertArgs) (env : CallEnv) (e : Exposure) :
    (ExposurePatch.ofChange e (a.refreshed env e)).toRow.apply e = a.refreshed env e := by
  rw [ExposurePatch.ofChange_apply]
  rfl

end UpsertArgs

/-- The exposure has a piece of evidence. -/
def Hub.seen (h : Hub) (exposureId evidenceRef : String) : Bool :=
  h.evidence.rows.any fun m => m.exposureId = exposureId ∧ m.evidenceRef = some evidenceRef

/-- `upsert_exposure`; the answer is the exposure's id and whether it was created. -/
def upsertExposure (a : UpsertArgs) (env : CallEnv) : HubProg (String × Bool) := do
  let existing ← Program.select fun h : Hub => h.exposureAt a.key
  let id := a.exposureId env existing
  Program.add [a.write env existing]
  match nonEmpty a.evidenceRef with
  | none => pure (id, existing.isNone)
  | some ref =>
      let seen ← Program.select fun h : Hub => h.seen id ref
      if seen then
        pure (id, existing.isNone)
      else
        Program.add [HubWrite.insertEvidence (a.evidence env id)]
        pure (id, existing.isNone)

end VulnOpsHub
