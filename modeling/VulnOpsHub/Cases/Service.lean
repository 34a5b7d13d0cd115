import VulnOpsHub.Cases.Verification
import VulnOpsHub.Cases.Ownership
import VulnOpsHub.Cases.Expiry

set_option autoImplicit false

/-! # The case service

`CaseService` (`cases/service.py`): every operation as a program over its session. A call works in
a session of its own, as the HTTP layer arranges it. The clock, the UUID generator and the settings
are the call's environment; times and identifiers are drawn from it by position. -/

namespace VulnOpsHub

/-! ## Environment and actor -/

/-- What a call takes from outside: successive readings of the clock, successive UUIDs (as 32 hex
    digits) and the configured default owner. -/
structure CallEnv where
  clock : ℕ → Instant
  uuid : ℕ → String
  defaultCaseOwnerTeam : Option String

namespace CallEnv

/-- `f"{tag}{uuid.uuid4().hex[:digits]}"`. -/
def rowId (env : CallEnv) (tag : String) (digits i : ℕ) : String :=
  tag ++ String.ofList ((env.uuid i).toList.take digits)

/-- `str(uuid.uuid4())`. -/
def uuidStr (env : CallEnv) (i : ℕ) : String :=
  let hex := (env.uuid i).toList
  String.ofList (['-'].intercalate
    [hex.take 8, (hex.drop 8).take 4, (hex.drop 12).take 4, (hex.drop 16).take 4, hex.drop 20])

/-- `_gen_case_key`. -/
def caseKey (env : CallEnv) (i : ℕ) : String :=
  "CASE-" ++ String.ofList (((env.uuid i).toList.take 8).map Char.toUpper)

end CallEnv

def legacyProvenance : String := "legacy_request"

def authenticatedProvenance : String := "authenticated_claim"

/-- The actor arguments most operations take. -/
structure ActorContext where
  actor : String
  provenance : String
  principalType : Option String
  roles : Option (List String)
  scopes : Option (List String)
  requestId : Option String
  correlationId : Option String
deriving DecidableEq, Repr

/-- What `_actor_audit_fields` returns. -/
structure ActorFields where
  provenance : String
  principalType : Option String
  roles : List String
  scopes : List String
deriving DecidableEq, Repr

/-- A provenance the audit log accepts. -/
def ValidProvenance (provenance : String) : Prop :=
  provenance = legacyProvenance ∨ provenance = authenticatedProvenance

instance (provenance : String) : Decidable (ValidProvenance provenance) :=
  inferInstanceAs (Decidable (_ ∨ _))

/-- `_actor_audit_fields`. -/
def actorAuditFields (a : ActorContext) : Except PyError ActorFields :=
  if ValidProvenance a.provenance then
    .ok
      { provenance := a.provenance
        principalType := a.principalType
        roles := sortedSet (a.roles.getD [])
        scopes := sortedSet (a.scopes.getD []) }
  else
    .error (.valueError "actor provenance must be legacy_request or authenticated_claim")

/-- `_trace_payload`. -/
def tracePayload (fields : ActorFields) (a : ActorContext) (organizationId correlationId : String) :
    List (String × Json) :=
  let principalType := Json.ofOption fields.principalType
  let roles := Json.ofStrings (some fields.roles)
  let scopes := Json.ofStrings (some fields.scopes)
  [("actor", .str a.actor), ("actor_subject", .str a.actor),
    ("organization_id", .str organizationId), ("request_id", Json.ofOption a.requestId),
    ("correlation_id", .str correlationId), ("principal_type", principalType), ("roles", roles),
    ("scopes", scopes), ("actor_principal_type", principalType), ("actor_roles", roles),
    ("actor_scopes", scopes)]

namespace CallEnv

/-- `correlation_id or str(uuid.uuid4())`. -/
def correlation (env : CallEnv) (a : ActorContext) : String := orElse a.correlationId (env.uuidStr 0)

/-- An audit row that leaves the actor columns at their defaults. -/
def audit (env : CallEnv) (uuid : ℕ) (actor action subjectType subjectId correlationId : String)
    (priorState newState reason : Option String) (organizationId : String) : AuditEvent where
  id := env.rowId "aud_" 12 uuid
  actor := actor
  action := action
  subjectType := subjectType
  subjectId := subjectId
  priorState := priorState
  newState := newState
  reason := reason
  correlationId := some correlationId
  requestId := none
  organizationId := organizationId
  actorProvenance := legacyProvenance
  actorPrincipalType := none
  actorRoles := none
  actorScopes := none
  createdAt := env.clock 9

/-- An audit row with the actor's metadata. -/
def actorAudit (env : CallEnv) (a : ActorContext) (fields : ActorFields)
    (action subjectType subjectId : String) (priorState newState reason : Option String)
    (organizationId : String) : AuditEvent :=
  { env.audit 1 a.actor action subjectType subjectId (env.correlation a) priorState newState reason
      organizationId with
    requestId := a.requestId
    actorProvenance := fields.provenance
    actorPrincipalType := fields.principalType
    actorRoles := some fields.roles
    actorScopes := some fields.scopes }

def outbox (env : CallEnv) (uuid : ℕ) (aggregateType aggregateId eventType : String)
    (payload : List (String × Json)) (correlationId : String) : OutboxEvent where
  id := env.rowId "evt_" 12 uuid
  aggregateType := aggregateType
  aggregateId := aggregateId
  eventType := eventType
  payload := .obj payload
  correlationId := correlationId
  createdAt := env.clock 9
  deliveredAt := none
  attempts := 0

end CallEnv

/-! ## Lookups -/

/-- `get_case`. -/
def getCase (id : String) : Prog RemediationCase :=
  Program.lookup (·.case? id) (.valueError ("case " ++ id ++ " not found"))

/-- `session.refresh(case)`. -/
def refreshCase (id : String) : Prog RemediationCase :=
  Program.lookup (·.case? id) .invalidRequestError

/-- `_canonicalize_risk_decision_expiry`. -/
def canonicalizeRiskDecisionExpiry (d : RiskDecision) : RiskDecision :=
  { d with expiresAt := canonicalizeExpiry d.expiresAt }

/-- `get_risk_decision`. -/
def getRiskDecision (id : String) : Prog RiskDecision :=
  Program.lookup (fun db => (db.decision? id).map canonicalizeRiskDecisionExpiry)
    (.valueError ("decision " ++ id ++ " not found"))

/-! ## `create_case` -/

structure CreateCaseArgs where
  organizationId : String
  title : String
  ownerTeam : Option String
  priority : String
  exposures : Option (List String)
  policyVersion : Option String
  assignee : Option String
  assetId : Option String
deriving DecidableEq, Repr

/-- `PRIORITY_SLA_DAYS.get(priority, 30)`. -/
def prioritySlaDays (priority : String) : ℤ :=
  if priority = "P0" then 1
  else if priority = "P1" then 3
  else if priority = "P2" then 7
  else if priority = "P3" then 30
  else if priority = "P4" then 90
  else 30

/-- `calculate_due_date`. -/
def calculateDueDate (priority : String) (createdAt : Instant) : Instant :=
  createdAt + prioritySlaDays priority * dayMicroseconds

/-- The case `create_case` adds. -/
def newCase (a : CreateCaseArgs) (env : CallEnv) (owner : ResolvedOwner) : RemediationCase where
  id := env.rowId "case_" 12 0
  caseKey := env.caseKey 1
  title := a.title
  organizationId := a.organizationId
  ownerTeam := owner.ownerTeam
  assignee := a.assignee
  priority := a.priority
  policyVersion := a.policyVersion
  status := .new
  version := 1
  dueAt := some (calculateDueDate a.priority (env.clock 0))
  slaBreached := false
  ownershipEscalated := (a.priority == "P0" || a.priority == "P1") && owner.source == .default
  closureReason := none
  exposures := a.exposures.getD []
  createdAt := env.clock 9
  updatedAt := env.clock 9

def createdAudit (env : CallEnv) (case : RemediationCase) : AuditEvent :=
  env.audit 4 "system" "case.created" "case" case.id (env.uuidStr 3) none (some CaseStatus.new.value)
    (some "case created") case.organizationId

/-- The extra audit row of a high-priority case nobody owns. -/
def escalationAudit (env : CallEnv) (case : RemediationCase) : AuditEvent :=
  env.audit 5 "system" "case.ownership.unassigned_high_priority" "case" case.id (env.uuidStr 3) none
    (some "unassigned")
    (some (case.priority ++ " case created without an asset or business-service owner"))
    case.organizationId

def createdOutbox (env : CallEnv) (case : RemediationCase) : OutboxEvent :=
  env.outbox 6 "case" case.id "vulnops.case.created.v1"
    [("case_id", .str case.id), ("priority", .str case.priority),
      ("owner_team", .str case.ownerTeam), ("ownership_escalated", .bool case.ownershipEscalated),
      ("exposures", Json.ofStrings (some case.exposures))] (env.uuidStr 3)

/-- The rows `create_case` adds. -/
def createdRows (env : CallEnv) (case : RemediationCase) : List Write :=
  [.insertCase case,
    .insertClock ⟨env.rowId "sla_" 8 2, case.id, "remediation",
      calculateDueDate case.priority (env.clock 0)⟩,
    .insertAudit (createdAudit env case)]
  ++ (if case.ownershipEscalated then [.insertAudit (escalationAudit env case)] else [])
  ++ [.insertOutbox (createdOutbox env case)]

section Operations

variable [Python]

def createCase (a : CreateCaseArgs) (env : CallEnv) : Prog RemediationCase := do
  let defaultTeam := stripOrUnassigned (orElse env.defaultCaseOwnerTeam "unassigned")
  let exposureAssetIds ← Program.select fun db =>
    db.exposures.rows.filterMap fun e =>
      if e.organizationId = a.organizationId ∧ e.id ∈ a.exposures.getD [] then e.assetId else none
  let assetIds := sortedSet (strip (a.assetId.getD "") :: exposureAssetIds)
  let owners ← resolveOwners env.defaultCaseOwnerTeam a.organizationId (some defaultTeam) assetIds
  let owner ← Program.ofExcept (chooseOwner defaultTeam a.ownerTeam owners)
  let case := newCase a env owner
  Program.add (createdRows env case)
  Program.commitAll
  refreshCase case.id

/-! ## `transition` -/

/-- The keys of the `extra` dict the operation reads. -/
structure TransitionExtra where
  assignee : Option (Option String)
  evidenceIds : Json

structure TransitionArgs where
  caseId : String
  target : String
  actor : ActorContext
  reason : Option String
  extra : Option TransitionExtra
  expectedVersion : Option ℤ

/-- The case as `transition` leaves it. -/
def transitioned (a : TransitionArgs) (env : CallEnv) (case : RemediationCase)
    (target : CaseStatus) : RemediationCase :=
  let now := env.clock 0
  { case with
    status := target
    version := case.version + 1
    assignee := (a.extra.bind (·.assignee)).getD case.assignee
    updatedAt := now
    slaBreached := case.slaBreached || case.dueAt.any (fun due => decide (due < now)) }

def transitionAudit (a : TransitionArgs) (env : CallEnv) (case : RemediationCase)
    (target : CaseStatus) (fields : ActorFields) : AuditEvent :=
  env.actorAudit a.actor fields "case.transitioned" "case" a.caseId (some case.status.value)
    (some target.value) (some (orElse a.reason (case.status.value ++ "->" ++ target.value)))
    case.organizationId

def transitionOutbox (a : TransitionArgs) (env : CallEnv) (case : RemediationCase)
    (target : CaseStatus) (fields : ActorFields) : OutboxEvent :=
  env.outbox 2 "case" a.caseId "vulnops.case.transitioned.v1"
    ([("from", .str case.status.value), ("to", .str target.value), ("reason", Json.ofOption a.reason),
      ("evidence_ids", (a.extra.map (·.evidenceIds)).getD .null)]
      ++ tracePayload fields a.actor case.organizationId (env.correlation a.actor))
    (env.correlation a.actor)

/-- The atomic compare-and-swap of the `expected_version` branch. -/
def transitionUpdate (a : TransitionArgs) (env : CallEnv) (case : RemediationCase)
    (target : CaseStatus) (expected : ℤ) : CondUpdate Db :=
  let next := transitioned a env case target
  CondUpdate.onCase a.caseId (fun c => c.version = expected)
    { status := some target
      version := some (expected + 1)
      assignee := some next.assignee
      slaBreached := some next.slaBreached
      closureReason := none
      updatedAt := some next.updatedAt }

def transition (a : TransitionArgs) (env : CallEnv) : Prog RemediationCase := do
  let case ← getCase a.caseId
  match (allowedTransitions case.status).find? (·.value = a.target) with
  | none =>
      Program.raise
        (.valueError ("transition " ++ case.status.value ++ " -> " ++ a.target ++ " not allowed"))
  | some target =>
      let fields ← Program.ofExcept (actorAuditFields a.actor)
      let rows := [Write.insertAudit (transitionAudit a env case target fields),
        .insertOutbox (transitionOutbox a env case target fields)]
      match a.expectedVersion with
      | some expected =>
          if ← Program.execute (transitionUpdate a env case target expected) then
            Program.add rows
            Program.commitAll
            getCase a.caseId
          else
            Program.rollbackAll
            let current ← getCase a.caseId
            Program.raise (.valueError ("conflict: expected version " ++ toString expected
              ++ " but current is " ++ toString current.version))
      | none =>
          -- the version is not part of the predicate of this flush
          let next := transitioned a env case target
          Program.add (.updateCase a.caseId (.ofChange case next (env.clock 8)) :: rows)
          Program.commitAll
          getCase a.caseId

/-! ## `verify` -/

structure VerifyArgs where
  caseId : String
  method : String
  evidenceIds : Json
  coverage : Json
  assertedResult : Option String
  actor : ActorContext

/-- The recorded status, the audit action and the event type of a verification. -/
def verificationResult (method : String) (canClose : Bool) : VerificationStatus × String × String :=
  if canClose then
    (.closed, "verification.completed", "vulnops.verification.completed.v1")
  else if method = "manual_attestation" then
    (.requiresApproval, "verification.requires_approval", "vulnops.verification.requires_approval.v1")
  else
    (.insufficientEvidence, "verification.failed", "vulnops.verification.failed.v1")

/-- The case as a closing verification leaves it. -/
def verifiedCase (env : CallEnv) (case : RemediationCase) (reason : String) : RemediationCase :=
  { case with
    status := .closed
    version := case.version + 1
    closureReason := some reason
    updatedAt := env.clock 0 }

def verificationRow (a : VerifyArgs) (env : CallEnv) (canClose : Bool) : Verification where
  id := env.rowId "ver_" 12 3
  caseId := a.caseId
  method := a.method
  assertedResult := a.assertedResult
  evidenceIds := a.evidenceIds
  coverage := a.coverage
  status := (verificationResult a.method canClose).1
  createdAt := env.clock 9

def verificationAudit (a : VerifyArgs) (env : CallEnv) (case : RemediationCase) (canClose : Bool)
    (reason : String) (fields : ActorFields) : AuditEvent :=
  env.actorAudit a.actor fields (verificationResult a.method canClose).2.1 "case" a.caseId none none
    (some reason) case.organizationId

def verificationOutbox (a : VerifyArgs) (env : CallEnv) (case : RemediationCase) (canClose : Bool)
    (reason : String) (fields : ActorFields) : OutboxEvent :=
  env.outbox 2 "case" a.caseId (verificationResult a.method canClose).2.2
    ([("method", .str a.method), ("evidence_ids", a.evidenceIds),
      ("coverage", a.coverage), ("status", .str (verificationResult a.method canClose).1.value),
      ("reason", .str reason)]
      ++ tracePayload fields a.actor case.organizationId (env.correlation a.actor))
    (env.correlation a.actor)

/-- What `verify` stages before it looks at the actor. -/
def verificationRows (a : VerifyArgs) (env : CallEnv) (case : RemediationCase) (canClose : Bool)
    (reason : String) : List Write :=
  (if canClose then
    [.updateCase a.caseId (.ofChange case (verifiedCase env case reason) (env.clock 8))] else [])
  ++ [.insertVerification (verificationRow a env canClose)]

def verify (a : VerifyArgs) (env : CallEnv) : Prog Verification := do
  let case ← getCase a.caseId
  if case.status ≠ .awaitingVerification then
    Program.raise (.valueError ("verification not allowed from state " ++ case.status.value
      ++ " -> closed: case must be in awaiting_verification"))
  else
    let (canClose, reason) ← Program.ofExcept (evaluateCoverage a.method a.coverage)
    Program.add (verificationRows a env case canClose reason)
    let fields ← Program.ofExcept (actorAuditFields a.actor)
    Program.add [.insertAudit (verificationAudit a env case canClose reason fields),
      .insertOutbox (verificationOutbox a env case canClose reason fields)]
    Program.commitAll
    let _ ← refreshCase a.caseId
    pure (verificationRow a env canClose)

/-! ## `create_risk_decision` -/

structure CreateRiskDecisionArgs where
  caseId : String
  type : String
  reason : String
  expiresAt : Expiry
  compensatingControls : Option (List String)
  evidenceIds : Json
  requestedBy : String
  approver : Option String
  approverRole : Option String
  scope : Json
  actor : ActorContext

def newRiskDecision (a : CreateRiskDecisionArgs) (env : CallEnv) (scope : Json)
    (expiresAt : Datetime) : RiskDecision where
  id := env.rowId "rdec_" 12 3
  caseId := a.caseId
  type := a.type
  status := .pendingApproval
  scopeExposureIds := scope
  reason := a.reason
  compensatingControls := a.compensatingControls
  evidenceIds := a.evidenceIds
  requestedBy := a.requestedBy
  requestedByProvenance := a.actor.provenance
  approver := none
  approverRole := none
  approverProvenance := none
  approverPrincipalType := none
  decidedAt := none
  expiresAt := .datetime expiresAt
  createdAt := env.clock 9
  updatedAt := env.clock 9

def requestedAudit (a : CreateRiskDecisionArgs) (env : CallEnv) (case : RemediationCase)
    (d : RiskDecision) (fields : ActorFields) : AuditEvent :=
  env.actorAudit a.actor fields "risk.decision.requested" "risk_decision" d.id none none
    (some a.reason) case.organizationId

def requestedOutbox (a : CreateRiskDecisionArgs) (env : CallEnv) (case : RemediationCase)
    (d : RiskDecision) (expiresAt : Datetime) (fields : ActorFields) : OutboxEvent :=
  env.outbox 2 "risk_decision" d.id "vulnops.risk-decision.requested.v1"
    ([("decision_id", .str d.id), ("case_id", .str a.caseId), ("type", .str a.type),
      ("expires_at", .str (Python.isoformat expiresAt))]
      ++ tracePayload fields a.actor case.organizationId (env.correlation a.actor))
    (env.correlation a.actor)

def createRiskDecision (a : CreateRiskDecisionArgs) (env : CallEnv) : Prog RiskDecision := do
  if a.approver ≠ none ∨ a.approverRole ≠ none then
    Program.raise (.valueError "risk decision approval must use approve_risk_decision")
  else if a.actor.actor ≠ a.requestedBy then
    Program.raise (.valueError "risk request actor must match requested_by")
  else
    let given ← Program.ofExcept
      (validateRiskDecisionRequest a.type a.reason a.evidenceIds a.expiresAt (env.clock 0))
    let expiresAt ← Program.ofExcept (normalizeUtc given)
    let fields ← Program.ofExcept (actorAuditFields a.actor)
    let case ← getCase a.caseId
    let scope ← Program.ofExcept
      (if a.scope.truthy then a.scope.get "exposure_ids" else .ok .null)
    let d := newRiskDecision a env scope expiresAt
    Program.add [.insertDecision d, .insertAudit (requestedAudit a env case d fields),
      .insertOutbox (requestedOutbox a env case d expiresAt fields)]
    Program.commitAll
    let d ← Program.lookup (·.decision? d.id) .invalidRequestError
    let _ ← refreshCase a.caseId
    pure (canonicalizeRiskDecisionExpiry d)

/-! ## `approve_risk_decision` -/

structure ApproveArgs where
  decisionId : String
  outcome : Json
  reason : String
  capabilities : Option (List String)
  actor : ActorContext

/-- `_APPROVER_ROLE_ORDER`. -/
def approverRoleOrder : List String := ["risk_approver", "security_lead", "policy_admin", "admin"]

/-- `_approval_role`. -/
def approvalRole (roles : Option (List String)) : Option String :=
  let normalized := ((roles.getD []).filter (strip · ≠ "")).map fun role =>
    Python.lower (strip role)
  approverRoleOrder.find? (· ∈ normalized)

/-- `target_state_map`, for the supported types. -/
def targetState (type : String) : CaseStatus :=
  if type = "false_positive" ∨ type = "not_affected" then .notApplicable else .riskAccepted

/-- `audit_action_map.get(type, "risk.accepted")`. -/
def approvalAction (type : String) : String :=
  if type = "waiver" then "risk.waiver.accepted"
  else if type = "compensating_control" then "risk.compensating_control.accepted"
  else if type = "false_positive" then "risk.false_positive.accepted"
  else if type = "not_affected" then "risk.not_affected.accepted"
  else "risk.accepted"

/-- The outcome an approver chose, after normalization. -/
inductive ApprovalOutcome where
  | approve
  | reject
deriving DecidableEq, Repr

namespace ApprovalOutcome

def value : ApprovalOutcome → String
  | .approve => "approve"
  | .reject => "reject"

def status : ApprovalOutcome → DecisionStatus
  | .approve => .approved
  | .reject => .rejected

def action (type : String) : ApprovalOutcome → String
  | .approve => approvalAction type
  | .reject => "risk.decision.rejected"

def eventType : ApprovalOutcome → String
  | .approve => "vulnops.risk-decision.accepted.v1"
  | .reject => "vulnops.risk-decision.rejected.v1"

end ApprovalOutcome

/-- `outcome.strip().lower()`, one of approve and reject. -/
def normalizeOutcome (outcome : Json) : Except PyError ApprovalOutcome :=
  let invalid : PyError := .valueError "risk decision outcome must be approve or reject"
  match outcome with
  | .str s =>
      let normalized := Python.lower (strip s)
      if normalized = "approve" then .ok .approve
      else if normalized = "reject" then .ok .reject
      else .error invalid
  | _ => .error invalid

/-- The checks an approval (but not a rejection) makes on the stored decision. -/
def validateApproval (d : RiskDecision) (now : Instant) : Except PyError Unit := do
  validateTypeAndReason d.type d.reason
  validateEvidenceIds d.evidenceIds
  validateRiskDecisionExpiry d.expiresAt now

/-- The guards on the caller, in the order of the source; the result is the normalized outcome, the
    audit fields and the approver role. -/
def approvalGuards (a : ApproveArgs) (d : RiskDecision) :
    Except PyError (ApprovalOutcome × ActorFields × String) := do
  raiseIf (d.status ≠ .pendingApproval)
    (.valueError "risk decision conflict: decision is no longer pending approval")
  raiseIf (a.actor.principalType ≠ some "human")
    (.valueError "service principals cannot approve risk decisions")
  raiseIf ("risk:approve" ∉ (a.capabilities.getD []).map (fun c => Python.lower (strip c)))
    (.valueError "actor lacks risk:approve capability")
  raiseIf (a.actor.actor = d.requestedBy) (.valueError "self-approval is not allowed")
  let outcome ← normalizeOutcome a.outcome
  raiseIf (strip a.reason = "") (.valueError "approval reason is required")
  let fields ← actorAuditFields a.actor
  match approvalRole a.actor.roles with
  | none => throw (.valueError "actor must carry an approver role")
  | some role => pure (outcome, fields, role)

/-- The conditional `UPDATE` that claims a pending decision. -/
def approvalUpdate (a : ApproveArgs) (env : CallEnv) (d : RiskDecision) (outcome : ApprovalOutcome)
    (role : String) : CondUpdate Db :=
  CondUpdate.onDecision d.id (fun stored => stored.status = .pendingApproval)
    { status := some outcome.status
      approver := some (some a.actor.actor)
      approverRole := some (some role)
      approverProvenance := some (some a.actor.provenance)
      approverPrincipalType := some a.actor.principalType
      decidedAt := some (some (env.clock 0))
      updatedAt := some (env.clock 0) }

/-- The case as an approval leaves it. -/
def acceptedCase (env : CallEnv) (case : RemediationCase) (target : CaseStatus) : RemediationCase :=
  { case with
    status := target
    version := case.version + 1
    updatedAt := env.clock 0 }

def approvalAudit (a : ApproveArgs) (env : CallEnv) (d : RiskDecision) (case : RemediationCase)
    (outcome : ApprovalOutcome) (fields : ActorFields) : AuditEvent :=
  let states : Option String × Option String := match outcome with
    | .approve => (some case.status.value, some (targetState d.type).value)
    | .reject => (none, none)
  env.actorAudit a.actor fields (outcome.action d.type) "risk_decision" d.id states.1 states.2
    (some a.reason) case.organizationId

def approvalOutbox (a : ApproveArgs) (env : CallEnv) (d : RiskDecision) (case : RemediationCase)
    (outcome : ApprovalOutcome) (fields : ActorFields) (role : String) : OutboxEvent :=
  let expiry : Json := match d.expiresAt with
    | .datetime dt => .str (Python.isoformat dt)
    | _ => .null
  env.outbox 2 "risk_decision" d.id outcome.eventType
    ([("decision_id", .str d.id), ("case_id", .str case.id), ("type", .str d.type),
      ("outcome", .str outcome.value), ("approver", .str a.actor.actor),
      ("approver_role", .str role),
      ("decided_at", .str (Python.isoformat (Datetime.utc (env.clock 0))))]
      ++ tracePayload fields a.actor case.organizationId (env.correlation a.actor)
      ++ match outcome with
        | .approve => [("expires_at", expiry)]
        | .reject => [])
    (env.correlation a.actor)

/-- The case change of an approval; a rejection makes none. -/
def approvalCaseWrites (env : CallEnv) (d : RiskDecision) (case : RemediationCase) :
    ApprovalOutcome → List Write
  | .approve =>
      [.updateCase case.id (.ofChange case (acceptedCase env case (targetState d.type)) (env.clock 8))]
  | .reject => []

def approveRiskDecision (a : ApproveArgs) (env : CallEnv) : Prog RiskDecision := do
  let d ← getRiskDecision a.decisionId
  let (outcome, fields, role) ← Program.ofExcept (approvalGuards a d)
  let case ← getCase d.caseId
  Program.ofExcept (if outcome = .approve then validateApproval d (env.clock 1) else .ok ())
  -- the linearization point: exactly one contender claims the pending row
  if ← Program.execute (approvalUpdate a env d outcome role) then
    if outcome = .approve ∧ targetState d.type ∉ allowedTransitions case.status then
      Program.rollbackAll
      Program.raise (.valueError ("transition " ++ case.status.value ++ " -> "
        ++ (targetState d.type).value ++ " not allowed for decision type " ++ d.type))
    else
      Program.add (approvalCaseWrites env d case outcome)
      Program.add [.insertAudit (approvalAudit a env d case outcome fields),
        .insertOutbox (approvalOutbox a env d case outcome fields role)]
      Program.commitAll
      getRiskDecision a.decisionId
  else
    Program.rollbackAll
    Program.raise (.valueError "risk decision conflict: decision is no longer pending approval")

/-! ## `revoke_decision` -/

structure RevokeArgs where
  decisionId : String
  actor : String
  reason : String
deriving DecidableEq, Repr

/-- The decision as `revoke_decision` leaves it. -/
def revokedDecision (env : CallEnv) (d : RiskDecision) : RiskDecision :=
  { d with status := .revoked, updatedAt := env.clock 0 }

/-- The case sent back to triage by a revocation or an expiry; `updated_at` follows at the flush. -/
def triagedCase (case : RemediationCase) : RemediationCase :=
  { case with status := .triage, version := case.version + 1 }

def revokedAudit (a : RevokeArgs) (env : CallEnv) (case : RemediationCase) : AuditEvent :=
  env.audit 1 a.actor "risk.decision.revoked" "case" case.id (env.uuidStr 0)
    (some case.status.value) (some CaseStatus.triage.value) (some a.reason) case.organizationId

def revokedOutbox (a : RevokeArgs) (env : CallEnv) (case : RemediationCase) : OutboxEvent :=
  env.outbox 2 "case" case.id "vulnops.risk-decision.revoked.v1"
    [("decision_id", .str a.decisionId), ("reason", .str a.reason)] (env.uuidStr 0)

def revokeDecision (a : RevokeArgs) (env : CallEnv) : Prog Unit := do
  let d ← Program.lookup (·.decision? a.decisionId) (.valueError "decision not found")
  Program.add [.updateDecision d.id (.ofChange d (revokedDecision env d) (env.clock 8))]
  let case ← getCase d.caseId
  Program.add [.updateCase case.id (.ofChange case (triagedCase case) (env.clock 8)),
    .insertAudit (revokedAudit a env case), .insertOutbox (revokedOutbox a env case)]
  Program.commitAll

/-! ## `process_expirations` -/

/-- The decisions to expire: approved, and due at `now`. -/
def dueDecisions (now : Datetime) : List RiskDecision → Except PyError (List RiskDecision)
  | [] => pure []
  | d :: rest => do
      let due ← expiryDue d.expiresAt now
      let others ← dueDecisions now rest
      pure (if due then d :: others else others)

def expiredDecision (d : RiskDecision) : RiskDecision := { d with status := .expired }

def expiredAudit (env : CallEnv) (i : ℕ) (case : RemediationCase) : AuditEvent :=
  env.audit (3 * i + 1) "system" "risk-decision.expired" "case" case.id (env.uuidStr (3 * i))
    (some case.status.value) (some CaseStatus.triage.value) (some "risk acceptance expired")
    case.organizationId

def expiredOutbox (env : CallEnv) (i : ℕ) (now : Datetime) (d : RiskDecision)
    (case : RemediationCase) : OutboxEvent :=
  env.outbox (3 * i + 2) "case" case.id "vulnops.risk-decision.expired.v1"
    [("decision_id", .str d.id), ("expired_at", .str (Python.isoformat now))] (env.uuidStr (3 * i))

/-- The loop over the due decisions; `i` counts its rounds. -/
def expireLoop (env : CallEnv) (now : Datetime) : ℕ → List RiskDecision → Prog Unit
  | _, [] => pure ()
  | i, d :: rest => do
      Program.add [.updateDecision d.id (.ofChange d (expiredDecision d) (env.clock 8))]
      let case ← getCase d.caseId
      if case.status = .riskAccepted then
        Program.add [.updateCase case.id (.ofChange case (triagedCase case) (env.clock 8)),
          .insertAudit (expiredAudit env i case), .insertOutbox (expiredOutbox env i now d case)]
        expireLoop env now (i + 1) rest
      else
        expireLoop env now (i + 1) rest

def processExpirations (now : Option Datetime) (env : CallEnv) : Prog ℕ := do
  let now := now.getD (Datetime.utc (env.clock 0))
  let approved ← Program.select fun db =>
    db.decisions.rows.filter fun d => d.status = .approved ∧ d.expiresAt ≠ .missing
  let due ← Program.ofExcept (dueDecisions (ensureAware now) approved)
  expireLoop env now 0 due
  Program.commitAll
  pure due.length

/-! ## `reopen_on_evidence` -/

structure ReopenArgs where
  caseId : String
  evidenceId : String
  reason : String
deriving DecidableEq, Repr

def reopenedCase (case : RemediationCase) : RemediationCase :=
  { case with status := .reopened, version := case.version + 1 }

def reopenedAudit (a : ReopenArgs) (env : CallEnv) (case : RemediationCase) : AuditEvent :=
  env.audit 1 "system" "exposure.reopened" "case" a.caseId (env.uuidStr 0)
    (some case.status.value) (some CaseStatus.reopened.value) (some a.reason) case.organizationId

def reopenedOutbox (a : ReopenArgs) (env : CallEnv) : OutboxEvent :=
  env.outbox 2 "case" a.caseId "vulnops.exposure.reopened.v1"
    [("evidence_id", .str a.evidenceId), ("reason", .str a.reason)] (env.uuidStr 0)

def reopenOnEvidence (a : ReopenArgs) (env : CallEnv) : Prog RemediationCase := do
  let case ← getCase a.caseId
  if case.status ≠ .closed then
    Program.raise (.valueError "only closed cases can be reopened via evidence")
  else
    let next := reopenedCase case
    Program.add [.updateCase a.caseId (.ofChange case next (env.clock 8)),
      .insertAudit (reopenedAudit a env case), .insertOutbox (reopenedOutbox a env)]
    Program.commitAll
    pure next

/-! ## Calls -/

/-- An operation with its arguments. -/
inductive CaseOp where
  | createCase (a : CreateCaseArgs)
  | transition (a : TransitionArgs)
  | verify (a : VerifyArgs)
  | createRiskDecision (a : CreateRiskDecisionArgs)
  | approveRiskDecision (a : ApproveArgs)
  | revokeDecision (a : RevokeArgs)
  | processExpirations (now : Option Datetime)
  | reopenOnEvidence (a : ReopenArgs)

inductive Answer where
  | case (c : RemediationCase)
  | decision (d : RiskDecision)
  | verification (v : Verification)
  | count (n : ℕ)
  | done

structure Call where
  op : CaseOp
  env : CallEnv

/-- The program of a call. -/
def Call.body (c : Call) : Prog Answer :=
  match c.op with
  | .createCase a => (createCase a c.env).map .case
  | .transition a => (transition a c.env).map .case
  | .verify a => (verify a c.env).map .verification
  | .createRiskDecision a => (createRiskDecision a c.env).map .decision
  | .approveRiskDecision a => (approveRiskDecision a c.env).map .decision
  | .revokeDecision a => (revokeDecision a c.env).map fun _ => .done
  | .processExpirations now => (processExpirations now c.env).map .count
  | .reopenOnEvidence a => (reopenOnEvidence a c.env).map .case

/-- The committed rows after a call that ran to completion alone. -/
def Call.run (db : Db) (c : Call) : Db := c.body.runDb db

end Operations

end VulnOpsHub
