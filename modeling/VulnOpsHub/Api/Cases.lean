import VulnOpsHub.Api.Approval
import VulnOpsHub.Api.Bodies
import VulnOpsHub.Cases.Service
import VulnOpsHub.Integrations.Mapping
import VulnOpsHub.Lib.Numerals

set_option autoImplicit false

/-! # The case routes

The handlers of `api/cases.py`, without the test bypass: what they check of the principal, the case and
the body before they call the service, and how they answer. A row is read back through the model that
the route declares for its response; a value that the model does not accept is an internal error.

A number or a boolean that is sent where a text is stored counts as its text from the start: no method
of a verification is spelled like a number. -/

namespace VulnOpsHub

/-! ## Requests -/

/-- What a handler knows of a request besides its own parameters. -/
structure RouteCall where
  orgId : String
  principal : Principal
  requestId : Option String
  correlationId : Option String

/-- The columns `list_cases` can sort by. -/
inductive CaseSortKey where
  | createdAt
  | updatedAt
  | dueAt
  | priority
deriving DecidableEq, Repr

/-- The query of `list_cases`. -/
structure CaseQuery where
  status : Option String
  priority : Option String
  ownerTeam : Option String
  assignee : Option String
  slaBreached : Option Bool
  page : ℕ
  pageSize : ℕ
  sort : CaseSortKey
  descending : Bool
deriving DecidableEq, Repr

inductive CaseRequest where
  | createCase (body : RequestBody)
  | listCases (query : CaseQuery)
  | getCase (caseId : String)
  | allowedTransitions (caseId : String)
  | transition (caseId : String) (body : RequestBody) (ifMatch : Option String)
  | createRiskDecision (caseId : String) (body : RequestBody) (ifMatch : Option String)
  | approveRiskDecision (caseId decisionId : String) (body : RequestBody)
  | listRiskDecisions (caseId : String)
  | listVerifications (caseId : String)
  | submitVerification (caseId : String) (body : RequestBody)

/-! ## Replies -/

def DecisionStatus.value : DecisionStatus → String
  | .pendingApproval => "pending_approval"
  | .approved => "approved"
  | .rejected => "rejected"
  | .revoked => "revoked"
  | .expired => "expired"

/-- `RiskDecisionResponse`. -/
structure RiskDecisionResponse where
  id : String
  caseId : String
  type : String
  status : String
  scopeExposureIds : List String
  reason : String
  compensatingControls : List String
  evidenceIds : List String
  requestedBy : String
  approver : Option String
  approverRole : Option String
  expiresAt : Option String
  createdAt : String
deriving DecidableEq, Repr

/-- `VerificationResponse`. -/
structure VerificationResponse where
  id : String
  caseId : String
  method : String
  assertedResult : Option String
  evidenceIds : List String
  coverage : List (String × Json)
  status : String
  createdAt : String

/-- An answer: of a case the response models show the row itself. -/
inductive CaseReply where
  | case (c : RemediationCase)
  | cases (items : List RemediationCase) (total page pageSize : ℕ)
  | allowed (caseId : String) (status : CaseStatus) (allowed : List CaseStatus)
  | transitioned (id : String) (status : CaseStatus) (version : ℤ)
  | requested (d : RiskDecision) (caseStatus : CaseStatus)
  | decided (d : RiskDecision) (caseStatus : CaseStatus)
  | decisions (items : List RiskDecisionResponse)
  | verifications (items : List VerificationResponse)
  | verified (id : String) (status : VerificationStatus) (caseStatus : CaseStatus)
      (coverage : Option Json)
  | problem (p : Problem)

/-- The status is 2xx. -/
def CaseReply.accepted : CaseReply → Bool
  | .problem _ => false
  | _ => true

/-- `authorization_error_handler`. -/
def AuthorizationError.problem : AuthorizationError → Problem
  | .resourceNotFound => .document 404 "Resource Not Found" "resource_not_found"
      "The requested resource was not found." none
  | .insufficientPermission => .document 403 "Insufficient Permission" "insufficient_permission"
      "The authenticated principal lacks the required capability." none

def notFound : CaseReply := .problem AuthorizationError.resourceNotFound.problem

/-- `ResponseValidationError`: what a handler returns does not fit its response model. -/
def responseInvalid : PyError := .runtimeError "response validation"

/-! ## Serialization -/

/-- `value or []`, in a field that is declared as a list of strings. -/
def responseTexts (value : Json) : Except PyError (List String) :=
  if value.truthy then value.strings.elim (.error responseInvalid) .ok else .ok []

/-- `value or {}`, in a field that is declared as an object. -/
def responseObject (value : Json) : Except PyError (List (String × Json)) :=
  match value.orEmpty with
  | .obj members => .ok members
  | _ => .error responseInvalid

section Serialization

variable [Python]

/-- `expires_at.isoformat() if expires_at else None`. -/
def responseExpiry : Expiry → Except PyError (Option String)
  | .missing => .ok none
  | .notDatetime => .error .attributeError
  | .datetime dt => .ok (some (Python.isoformat dt))

/-- `_serialize_risk_decision`, through its response model. -/
def serializeRiskDecision (d : RiskDecision) : Except PyError RiskDecisionResponse := do
  let scope ← responseTexts d.scopeExposureIds
  let evidence ← responseTexts d.evidenceIds
  let expiresAt ← responseExpiry d.expiresAt
  return {
    id := d.id
    caseId := d.caseId
    type := d.type
    status := d.status.value
    scopeExposureIds := scope
    reason := d.reason
    compensatingControls := d.compensatingControls.getD []
    evidenceIds := evidence
    requestedBy := d.requestedBy
    approver := d.approver
    approverRole := d.approverRole
    expiresAt := expiresAt
    createdAt := Python.isoformat (Datetime.utc d.createdAt) }

/-- `_serialize_verification`, through its response model. -/
def serializeVerification (v : Verification) : Except PyError VerificationResponse := do
  let evidence ← responseTexts v.evidenceIds
  let coverage ← responseObject v.coverage
  return {
    id := v.id
    caseId := v.caseId
    method := v.method
    assertedResult := v.assertedResult
    evidenceIds := evidence
    coverage := coverage
    status := v.status.value
    createdAt := Python.isoformat (Datetime.utc v.createdAt) }

end Serialization

/-! ## Checks -/

/-- What stands after the first marker. -/
def afterMarker (marker : List Char) : List Char → Option (List Char)
  | [] => none
  | c :: rest =>
      if marker.isPrefixOf (c :: rest) then some ((c :: rest).drop marker.length)
      else afterMarker marker rest

/-- What stands before the first marker, if there is one. -/
def beforeMarker (marker : List Char) : List Char → List Char
  | [] => []
  | c :: rest => if marker.isPrefixOf (c :: rest) then [] else c :: beforeMarker marker rest

def caseVersionMarker : List Char := "case-version-".toList

/-- The text of a number in `If-Match`: without quotes and the mark of a weak validator. -/
def ifMatchText (ifMatch : String) : String :=
  let unquoted := trimBy (· = '\'') (trimBy (· = '"') (strip ifMatch))
  let value :=
    if "W/".toList.isPrefixOf unquoted.toList then
      trimBy (· = '"') (strip (String.ofList (unquoted.toList.drop 2)))
    else unquoted
  match afterMarker caseVersionMarker value.toList with
  | some rest => String.ofList (beforeMarker caseVersionMarker rest)
  | none => value

/-- `_parse_if_match`. -/
def parseIfMatch [PythonInt] (ifMatch : Option String) : Except PyError (Option ℤ) :=
  match nonEmpty ifMatch with
  | none => .ok none
  | some text =>
      match PythonInt.int (ifMatchText text) with
      | some version => .ok (some version)
      | none => .error (.valueError ("invalid If-Match value: " ++ text))

section Handlers

variable [Python]

/-- The answer of the rest, once a check has passed. -/
def authorized (check : Except AuthorizationError Principal) (k : Prog CaseReply) : Prog CaseReply :=
  match check with
  | .ok _ => k
  | .error e => pure (.problem e.problem)

/-- The answer of the rest to a body that is valid. -/
def withBody {α : Type} (body : Except BodyFault α) (k : α → Prog CaseReply) : Prog CaseReply :=
  match body with
  | .ok a => k a
  | .error (.problem p) => pure (.problem p)
  | .error (.raised e) => Program.raise e

/-- The case, when it belongs to the organization of the path and the principal has the capability. -/
def withCase (r : RouteCall) (caseId capability : String) (k : RemediationCase → Prog CaseReply) :
    Prog CaseReply := do
  match ← Program.select fun db : Db =>
      (db.case? caseId).filter fun c => c.organizationId = r.orgId with
  | none => pure notFound
  | some case => authorized (authorizeCapability r.principal capability) (k case)

/-- `try: p; except ValueError as e: raise HTTPException`. -/
def attempt {α : Type} (p : Prog α) (handle : String → Problem) : Prog (Except Problem α) :=
  (p.map .ok).rescue fun e =>
    match e with
    | .valueError message => .returned (.error (handle message))
    | e => .raised e

/-- The answer to what a service call returned. -/
def answer {α : Type} (result : Except Problem α) (k : α → Prog CaseReply) : Prog CaseReply :=
  match result with
  | .ok a => k a
  | .error p => pure (.problem p)

/-- The actor of a service call. -/
def RouteCall.actor (r : RouteCall) : ActorContext where
  actor := r.principal.subject
  provenance := authenticatedProvenance
  principalType := some r.principal.principalType.value
  roles := some r.principal.roles
  scopes := some r.principal.scopes
  requestId := r.requestId
  correlationId := r.correlationId

/-! ## Cases -/

def CaseCreateRequest.args (payload : CaseCreateRequest) (orgId : String) : CreateCaseArgs where
  organizationId := orgId
  title := payload.title
  ownerTeam := some payload.ownerTeam
  priority := payload.priority
  exposures := some payload.exposures
  policyVersion := payload.policyVersion
  assignee := payload.assignee
  assetId := none

/-- `create_case`: only the conflict of owners is answered. -/
def createCaseRoute (r : RouteCall) (body : RequestBody) (env : CallEnv) : Prog CaseReply :=
  authorized (authorizeCapability r.principal "case:write") <|
    withBody (readFields body >>= CaseCreateRequest.validate) fun payload =>
      ((createCase (payload.args r.orgId) env).map .case).rescue fun e =>
        if e = .valueError "conflicting exposure owners" then
          .returned (.problem (.document 400 "Conflicting Exposure Owners"
            "conflicting_exposure_owners" "conflicting exposure owners" none))
        else .raised e

/-- The order in which the database returns rows. -/
class RowOrder where
  sorted : CaseSortKey → Bool → List RemediationCase → List RemediationCase
  perm : ∀ key descending rows, (sorted key descending rows).Perm rows

/-- The filters of the `SELECT`; an empty text filters nothing. -/
def CaseQuery.matches (q : CaseQuery) (orgId : String) (c : RemediationCase) : Bool :=
  c.organizationId = orgId
    && (nonEmpty q.status).all (· = c.status.value)
    && (nonEmpty q.priority).all (· = c.priority)
    && (nonEmpty q.ownerTeam).all (· = c.ownerTeam)
    && (nonEmpty q.assignee).all fun assignee => some assignee = c.assignee
    && q.slaBreached.all (· = c.slaBreached)

/-- `list_cases`. -/
def listCasesRoute [RowOrder] (r : RouteCall) (q : CaseQuery) : Prog CaseReply :=
  authorized (authorizeCapability r.principal "case:read") do
    let rows ← Program.select fun db : Db => db.cases.rows.filter (q.matches r.orgId)
    let sorted := RowOrder.sorted q.sort q.descending rows
    pure (.cases ((sorted.drop ((q.page - 1) * q.pageSize)).take q.pageSize) rows.length q.page
      q.pageSize)

def getCaseRoute (r : RouteCall) (caseId : String) : Prog CaseReply :=
  withCase r caseId "case:read" fun case => pure (.case case)

def allowedTransitionsRoute (r : RouteCall) (caseId : String) : Prog CaseReply :=
  withCase r caseId "case:read" fun case =>
    pure (.allowed caseId case.status (allowedTransitions case.status))

/-- The answer to a transition that was refused, by the text of the refusal. -/
def transitionProblem (message : String) : Problem :=
  let text := Python.lower message
  if containsText text "conflict" || containsText text "version" then
    .document 412 "Precondition Failed" "conflict" message none
  else if containsText text "not allowed" then
    .document 422 "Invalid Transition" "invalid_transition" message none
  else .plain 422 message

def TransitionRequest.args (payload : TransitionRequest) (r : RouteCall) (caseId : String)
    (expectedVersion : Option ℤ) : TransitionArgs where
  caseId := caseId
  target := payload.target
  actor := r.actor
  reason := payload.reason
  extra := none
  expectedVersion := expectedVersion

/-- The `UPDATE` that expects a version and stores the next one can be executed. -/
def versionTaken [Driver] (expected : ℤ) : Bool :=
  Driver.binds expected && (Driver.storedInt (.int (expected + 1))).isSome

/-- A transition whose `UPDATE` cannot be executed, after the checks of `transition`. -/
def refusedTransition (a : TransitionArgs) : Prog RemediationCase := do
  let case ← getCase a.caseId
  match (allowedTransitions case.status).find? (·.value = a.target) with
  | none =>
      Program.raise
        (.valueError ("transition " ++ case.status.value ++ " -> " ++ a.target ++ " not allowed"))
  | some _ =>
      let _ ← Program.ofExcept (actorAuditFields a.actor)
      .ret .failed

/-- `transition_case`. -/
def transitionRoute [PythonInt] [Driver] (r : RouteCall) (caseId : String) (body : RequestBody)
    (ifMatch : Option String) (env : CallEnv) : Prog CaseReply :=
  withCase r caseId "case:write" fun _ =>
    withBody (readFields body >>= TransitionRequest.validate) fun payload =>
      match parseIfMatch ifMatch with
      | .error (.valueError message) =>
          pure (.problem (.document 412 "Precondition Failed" "precondition_failed" message none))
      | .error e => Program.raise e
      | .ok expected => do
          let args := payload.args r caseId expected
          let result ← attempt
            (if expected.all versionTaken then transition args env else refusedTransition args)
            transitionProblem
          answer result fun updated =>
            pure (.transitioned updated.id updated.status updated.version)

/-! ## Risk decisions -/

/-- `_risk_problem`. -/
def riskProblem (code message : String) : Problem :=
  .document 422
    (if code = "invalid_risk_decision" then "Invalid Risk Decision" else "Invalid Risk Approval")
    code message none

def RiskDecisionRequest.args (payload : RiskDecisionRequest) (r : RouteCall) (caseId : String) :
    CreateRiskDecisionArgs where
  caseId := caseId
  type := payload.type
  reason := payload.reason
  expiresAt := .datetime payload.expiresAt
  compensatingControls := payload.compensatingControls
  evidenceIds := .arr (payload.evidenceIds.map .str)
  requestedBy := r.principal.subject
  approver := none
  approverRole := none
  scope := payload.scope
  actor := r.actor

/-- `create_risk_decision`; an `If-Match` that is no version leaves the handler as a `ValueError`. -/
def createRiskDecisionRoute [PythonInt] [IsoParser] (r : RouteCall) (caseId : String)
    (body : RequestBody) (ifMatch : Option String) (env : CallEnv) : Prog CaseReply :=
  withCase r caseId "risk:request" fun case =>
    withBody (readFields body >>= RiskDecisionRequest.validate) fun payload => do
      let expected ← Program.ofExcept (parseIfMatch ifMatch)
      if expected.any (· ≠ case.version) then
        pure (.problem (.plain 412 "Precondition Failed: version mismatch"))
      else
        let result ← attempt (createRiskDecision (payload.args r caseId) env)
          (riskProblem "invalid_risk_decision")
        answer result fun decision => do
          let after ← getCase caseId
          pure (.requested decision after.status)

/-- The answer to an approval that was refused. -/
def approvalProblem (message : String) : Problem :=
  if containsText (Python.lower message) "risk decision conflict" then
    .document 409 "Risk Decision Conflict" "risk_decision_conflict" message none
  else riskProblem "invalid_risk_approval" message

/-- `approve_risk_decision`. -/
def approveRiskDecisionRoute (r : RouteCall) (caseId decisionId : String) (body : RequestBody)
    (env : CallEnv) : Prog CaseReply := do
  match ← Program.select fun db : Db =>
      (db.case? caseId).filter fun c => c.organizationId = r.orgId with
  | none => pure notFound
  | some _ =>
      match ← Program.select fun db : Db =>
          (db.decision? decisionId).filter fun d => d.caseId = caseId with
      | none => pure notFound
      | some _ =>
          authorized (authorizeCapability r.principal "risk:approve") <|
            withBody (readFields body >>= RiskApprovalRequest.validate)
              fun payload => do
                let args := approvalArgs r.principal decisionId (.str payload.outcome) payload.reason
                  r.requestId r.correlationId
                let result ← attempt (approveRiskDecision args env) approvalProblem
                answer result fun decision => do
                  let after ← getCase caseId
                  pure (.decided decision after.status)

/-- `ORDER BY created_at DESC, id DESC`. -/
def newestFirst {α : Type} (createdAt : α → Instant) (id : α → String) (rows : List α) : List α :=
  rows.insertionSort fun a b =>
    createdAt b < createdAt a ∨ createdAt a = createdAt b ∧ id b ≤ id a

/-- `list_risk_decisions`. -/
def listRiskDecisionsRoute (r : RouteCall) (caseId : String) : Prog CaseReply :=
  withCase r caseId "case:read" fun _ => do
    let rows ← Program.select fun db : Db => db.decisions.rows.filter (·.caseId = caseId)
    let sorted := newestFirst RiskDecision.createdAt RiskDecision.id rows
    let items ← Program.ofExcept
      (sorted.mapM fun d => serializeRiskDecision (canonicalizeRiskDecisionExpiry d))
    pure (.decisions items)

/-! ## Verifications -/

/-- `list_verifications`. -/
def listVerificationsRoute (r : RouteCall) (caseId : String) : Prog CaseReply :=
  withCase r caseId "case:read" fun _ => do
    let rows ← Program.select fun db : Db => db.verifications.rows.filter (·.caseId = caseId)
    let sorted := newestFirst Verification.createdAt Verification.id rows
    let items ← Program.ofExcept (sorted.mapM serializeVerification)
    pure (.verifications items)

/-- What the handler takes from the body, which no model validates. -/
structure VerificationRequest where
  method : Json
  evidenceIds : Json
  coverage : Json
  asserted : Json

/-- `data.get(key) or data.get(other)`. -/
def eitherMember (members : List (String × Json)) (key other : String) : Json :=
  let value := (members.lookup key).getD .null
  if value.truthy then value else (members.lookup other).getD .null

def VerificationRequest.ofMembers (members : List (String × Json)) : VerificationRequest :=
  let method := eitherMember members "method" "type"
  let evidenceIds := eitherMember members "evidence_ids" "evidenceIds"
  { method := if method.truthy then method else .str "unknown"
    evidenceIds := if evidenceIds.truthy then evidenceIds else .arr []
    coverage := (members.lookup "coverage").getD .null
    asserted := eitherMember members "asserted_result" "assertedResult" }

/-- The asserted result in its column, where the database takes it. -/
def VerificationRequest.storedAsserted [Driver] (v : VerificationRequest) : Option (Option String) :=
  match v.asserted with
  | .null => some none
  | value => (Driver.stored (some 32) value).map some

/-- The arguments, where the database takes the values for its text columns. -/
def VerificationRequest.args? [Driver] (v : VerificationRequest) (r : RouteCall) (caseId : String) :
    Option VerifyArgs := do
  let method ← Driver.stored (some 64) v.method
  let asserted ← v.storedAsserted
  return {
    caseId := caseId
    method := method
    evidenceIds := v.evidenceIds
    coverage := v.coverage
    assertedResult := asserted
    actor := r.actor }

/-- A verification whose row the database refuses, after the checks of `verify`. -/
def refusedVerification (v : VerificationRequest) (caseId : String) : Prog Verification := do
  let case ← getCase caseId
  if case.status ≠ .awaitingVerification then
    Program.raise (.valueError ("verification not allowed from state " ++ case.status.value
      ++ " -> closed: case must be in awaiting_verification"))
  else
    let method := match v.method with
      | .str s => s
      | _ => ""
    let _ ← Program.ofExcept (evaluateCoverage method v.coverage)
    .ret .failed

/-- The answer to a verification that was refused. -/
def verificationProblem (message : String) : Problem :=
  if containsText (Python.lower message) "not allowed" then
    .document 422 "Invalid Transition" "invalid_transition" message none
  else .plain 422 message

/-- The coverage that the answer shows; its model wants an object or `null`. -/
def shownCoverage (status : VerificationStatus) (coverage : Json) : Except PyError (Option Json) :=
  if status = .insufficientEvidence then
    match coverage with
    | .obj members => .ok (some (.obj members))
    | .null => .ok none
    | _ => .error responseInvalid
  else .ok none

/-- `submit_verification`. -/
def submitVerificationRoute [Driver] (r : RouteCall) (caseId : String) (body : RequestBody)
    (env : CallEnv) : Prog CaseReply :=
  withCase r caseId "verification:write" fun _ =>
    withBody (readFields body) fun members => do
      let v := VerificationRequest.ofMembers members
      let result ← attempt
        (match v.args? r caseId with
          | some args => verify args env
          | none => refusedVerification v caseId)
        verificationProblem
      answer result fun verification => do
        let after ← getCase caseId
        let coverage ← Program.ofExcept (shownCoverage verification.status v.coverage)
        pure (.verified verification.id verification.status after.status coverage)

/-! ## Routes -/

/-- A request to one of the routes; `require_organization` comes first. -/
def CaseRequest.handle [PythonInt] [IsoParser] [Driver] [RowOrder] (r : RouteCall) (env : CallEnv)
    (request : CaseRequest) : Prog CaseReply :=
  authorized (requireOrganization r.orgId r.principal) <|
    match request with
    | .createCase body => createCaseRoute r body env
    | .listCases query => listCasesRoute r query
    | .getCase caseId => getCaseRoute r caseId
    | .allowedTransitions caseId => allowedTransitionsRoute r caseId
    | .transition caseId body ifMatch => transitionRoute r caseId body ifMatch env
    | .createRiskDecision caseId body ifMatch => createRiskDecisionRoute r caseId body ifMatch env
    | .approveRiskDecision caseId decisionId body =>
        approveRiskDecisionRoute r caseId decisionId body env
    | .listRiskDecisions caseId => listRiskDecisionsRoute r caseId
    | .listVerifications caseId => listVerificationsRoute r caseId
    | .submitVerification caseId body => submitVerificationRoute r caseId body env

end Handlers

end VulnOpsHub
