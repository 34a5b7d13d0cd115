import VulnOpsHub.Cases.Expiry

set_option autoImplicit false

/-! # Request bodies

The request models of the case routes (`api/schemas.py`) and `validate_request_body`, with
`_reject_client_identity_fields` (`api/cases.py`). A model looks its fields up by their aliases, refuses
any other field, and collects the errors of its fields in their order.

Strings are sequences of Unicode scalar values: JSON texts with lone surrogates are left out. -/

namespace VulnOpsHub

/-! ## Problems -/

/-- An `HTTPException`: a problem document, without its `type` and the ids of the request, or a plain
    detail. -/
inductive Problem where
  | document (status : ℕ) (title code detail : String) (fields : Option (List String))
  | plain (status : ℕ) (detail : String)
deriving DecidableEq, Repr

def Problem.status : Problem → ℕ
  | .document status _ _ _ _ => status
  | .plain status _ => status

/-- Why a body is refused: with a problem document, or because reading it or a validator raised
    something that the handler does not catch. -/
inductive BodyFault where
  | problem (p : Problem)
  | raised (e : PyError)
deriving DecidableEq, Repr

/-- `sorted(set(names))`. -/
def sortedNames (names : List String) : List String := names.dedup.insertionSort (· ≤ ·)

/-! ## Identity fields -/

/-- `_CLIENT_IDENTITY_FIELDS`. -/
def clientIdentityFields : List String :=
  ["actor", "actor_id", "actorId", "actor_role", "actorRole", "requested_by", "requestedBy",
    "requestedById", "requested_by_id", "requested_by_role", "requestedByRole", "requester",
    "requesterId", "requester_id", "requester_role", "requesterRole", "approver", "approverId",
    "approver_id", "approved_by", "approvedBy", "approvedById", "approved_by_id", "approver_role",
    "approverRole", "approved_by_role", "approvedByRole"]

/-- `_reject_client_identity_fields`: the members of the body. -/
def rejectClientIdentityFields (data : Json) : Except BodyFault (List (String × Json)) :=
  match data with
  | .obj members =>
      let supplied := sortedNames ((members.map Prod.fst).filter (· ∈ clientIdentityFields))
      if supplied = [] then .ok members
      else .error (.problem (.document 422 "Identity Fields Forbidden" "identity_fields_forbidden"
        "workflow actor identity is derived from the authenticated principal" (some supplied)))
  | _ => .error (.problem (.document 422 "Invalid Request Body" "invalid_request_body"
      "request body must be a JSON object" none))

/-- What `await request.json()` returns or raises: besides a text that is no JSON, nesting that is too
    deep or an integer with too many digits makes it raise. -/
abbrev RequestBody := Except PyError Json

/-- `_reject_client_identity_fields(await request.json())`; no handler catches what reading raises. -/
def readFields (body : RequestBody) : Except BodyFault (List (String × Json)) :=
  body.mapError .raised >>= rejectClientIdentityFields

/-! ## Fields -/

/-- What is wrong with a field: the message of a validator, or an error of the model itself. -/
inductive FieldIssue where
  | custom (message : String)
  | other
deriving DecidableEq, Repr

/-- An error, with the name of the field as the body spells it. -/
abbrev FieldError := String × FieldIssue

/-- The member a field is read from, with the alias it is found under. -/
def aliased (members : List (String × Json)) (aliases : List String) : Option (String × Json) :=
  aliases.findSome? fun name => (members.lookup name).map fun value => (name, value)

/-- A required field; an absent one is reported under its first alias. -/
def requiredField {α : Type} (members : List (String × Json)) (aliases : List String)
    (check : Json → Except FieldIssue α) : Except FieldError α :=
  match aliased members aliases with
  | none => .error (aliases.headD "", .other)
  | some (name, value) => (check value).mapError fun issue => (name, issue)

/-- A field with a default, which is not checked. -/
def optionalField {α : Type} (members : List (String × Json)) (aliases : List String) (absent : α)
    (check : Json → Except FieldIssue α) : Except FieldError α :=
  match aliased members aliases with
  | none => .ok absent
  | some (name, value) => (check value).mapError fun issue => (name, issue)

/-- The members that no field is read from. -/
def extraFields (members : List (String × Json)) (fields : List (List String)) : List String :=
  (members.map Prod.fst).filter
    (· ∉ fields.filterMap fun aliases => (aliased members aliases).map Prod.fst)

def fieldErrors {α : Type} : Except FieldError α → List FieldError
  | .ok _ => []
  | .error e => [e]

/-- Text with a visible character. -/
def nonblankText (message : String) : Json → Except FieldIssue String
  | .str s => if strip s = "" then .error (.custom message) else .ok s
  | _ => .error (.custom message)

/-- `str` with at least one character. -/
def someText : Json → Except FieldIssue String
  | .str s => if s = "" then .error .other else .ok s
  | _ => .error .other

/-- `str | None` with at least one character. -/
def someTextOrNone : Json → Except FieldIssue (Option String)
  | .null => .ok none
  | value => (someText value).map some

/-- `str | None`. -/
def textOrNone : Json → Except FieldIssue (Option String)
  | .null => .ok none
  | .str s => .ok (some s)
  | _ => .error .other

/-- The strings of a list of strings. -/
def Json.strings : Json → Option (List String)
  | .arr items => items.mapM fun item => item.text.toOption
  | _ => none

/-- `list[str] | None`. -/
def textsOrNone : Json → Except FieldIssue (Option (List String))
  | .null => .ok none
  | value => value.strings.elim (.error .other) fun texts => .ok (some texts)

/-- A list of strings with visible characters; `atLeastOne` is the message for an empty one, if it is
    refused. -/
def nonblankTexts (notList blank : String) (atLeastOne : Bool) : Json → Except FieldIssue (List String)
  | .arr items =>
      if atLeastOne && items.isEmpty then .error (.custom notList)
      else if items.any isBlankItem then .error (.custom blank)
      else (Json.arr items).strings.elim (.error .other) .ok
  | _ => .error (.custom notList)

/-! ## `validate_request_body` -/

def bodyTitle (code : String) : String :=
  if code = "invalid_risk_decision" then "Invalid Risk Decision"
  else if code = "invalid_risk_approval" then "Invalid Risk Approval"
  else "Invalid Request Body"

/-- The problem for the errors of the fields and the members that are none; `missing` is
    `_missing_field_detail`. -/
def bodyProblem (code : String) (missing : String → String) (errors : List FieldError)
    (extra : List String) : Option Problem :=
  if extra ≠ [] then
    some (.document 422 (bodyTitle "invalid_request_body") "invalid_request_body"
      "request body contains unsupported fields" (some (sortedNames extra)))
  else
    match errors with
    | [] => none
    | (field, issue) :: _ =>
        let detail := match issue with
          | .custom message => message
          | .other => missing field
        some (.document 422 (bodyTitle code) code detail (some (sortedNames (errors.map Prod.fst))))

/-- The payload, unless there is a problem. -/
def validated {α : Type} (problem : Option Problem) (payload : Except FieldError α) :
    Except BodyFault α :=
  match problem, payload with
  | some p, _ => .error (.problem p)
  | none, .ok a => .ok a
  | none, .error _ => .error (.raised .typeError)

/-- `datetime.fromisoformat`. -/
class IsoParser where
  fromisoformat : String → Option Datetime

/-! ## Models -/

/-- `CaseCreateRequest`. -/
structure CaseCreateRequest where
  title : String
  ownerTeam : String
  priority : String
  exposures : List String
  policyVersion : Option String
  assignee : Option String
deriving DecidableEq, Repr

namespace CaseCreateRequest

def aliases : List (List String) :=
  [["title", "name"], ["owner_team", "owner"], ["priority"], ["exposures", "exposure_ids"],
    ["policy_version"], ["assignee"]]

def validate (members : List (String × Json)) : Except BodyFault CaseCreateRequest :=
  let blank := "case text fields must not be blank"
  let title := requiredField members ["title", "name"] (nonblankText blank)
  let ownerTeam := requiredField members ["owner_team", "owner"] (nonblankText blank)
  let priority := requiredField members ["priority"] fun value =>
    if value.isOneOf ["P0", "P1", "P2", "P3", "P4"] then someText value else .error .other
  let exposures := optionalField members ["exposures", "exposure_ids"] []
    (nonblankTexts "case exposures must be a list"
      "case exposures must contain only nonblank strings" false)
  let policyVersion := optionalField members ["policy_version"] none someTextOrNone
  let assignee := optionalField members ["assignee"] none someTextOrNone
  let errors := fieldErrors title ++ fieldErrors ownerTeam ++ fieldErrors priority
    ++ fieldErrors exposures ++ fieldErrors policyVersion ++ fieldErrors assignee
  validated
    (bodyProblem "invalid_request_body" (fun _ => "invalid request body") errors
      (extraFields members aliases))
    (do return ⟨← title, ← ownerTeam, ← priority, ← exposures, ← policyVersion, ← assignee⟩)

end CaseCreateRequest

/-- `TransitionRequest`. -/
structure TransitionRequest where
  target : String
  reason : Option String
deriving DecidableEq, Repr

namespace TransitionRequest

def validate (members : List (String × Json)) : Except BodyFault TransitionRequest :=
  let target := requiredField members ["target", "to", "next_status"] someText
  let reason := optionalField members ["reason"] none textOrNone
  validated
    (bodyProblem "invalid_request_body"
      (fun field => if field = "target" then "target required" else "invalid request body")
      (fieldErrors target ++ fieldErrors reason)
      (extraFields members [["target", "to", "next_status"], ["reason"]]))
    (do return ⟨← target, ← reason⟩)

end TransitionRequest

/-- `RiskDecisionRequest`. -/
structure RiskDecisionRequest where
  type : String
  reason : String
  scope : Json
  compensatingControls : Option (List String)
  evidenceIds : List String
  expiresAt : Datetime

namespace RiskDecisionRequest

def aliases : List (List String) :=
  [["type"], ["reason"], ["scope"], ["compensating_controls", "compensatingControls"],
    ["evidence_ids", "evidenceIds"], ["expires_at", "expiresAt"]]

def missing (field : String) : String :=
  if field = "type" then "unsupported risk decision type"
  else if field = "reason" then "risk decision reason is required"
  else if field = "evidence_ids" then "risk decision evidence_ids must contain at least one item"
  else if field = "expires_at" then "risk decision expires_at is required"
  else "invalid risk decision request"

/-- `dict[str, Any] | None`. -/
def checkScope : Json → Except FieldIssue Json
  | .null => .ok .null
  | .obj members => .ok (.obj members)
  | _ => .error .other

/-- `validate_expires_at`: a time with a zone. -/
def checkExpiry [IsoParser] : Json → Except FieldIssue Datetime
  | .null => .error (.custom "risk decision expires_at is required")
  | .str text =>
      match IsoParser.fromisoformat text with
      | none => .error (.custom "risk decision expires_at must be an ISO-8601 timestamp")
      | some dt =>
          match safeUtcoffset dt with
          | .ok (some _) => .ok dt
          | _ => .error (.custom "risk decision expires_at must be timezone-aware")
  | _ => .error (.custom "risk decision expires_at must be an ISO-8601 timestamp")

/-- A list or an object cannot be looked up in the set of types. -/
def unhashable (members : List (String × Json)) : Bool :=
  match aliased members ["type"] with
  | some (_, .arr _) => true
  | some (_, .obj _) => true
  | _ => false

def validate [IsoParser] (members : List (String × Json)) : Except BodyFault RiskDecisionRequest :=
  if unhashable members then .error (.raised .typeError)
  else
    let type := requiredField members ["type"] fun value =>
      if value.isOneOf supportedRiskDecisionTypes then someText value
      else .error (.custom "unsupported risk decision type")
    let reason := requiredField members ["reason"] (nonblankText "risk decision reason is required")
    let scope := optionalField members ["scope"] .null checkScope
    let controls := optionalField members ["compensating_controls", "compensatingControls"] none
      textsOrNone
    let evidenceIds := requiredField members ["evidence_ids", "evidenceIds"]
      (nonblankTexts "risk decision evidence_ids must contain at least one item"
        "risk decision evidence_ids must contain only nonblank strings" true)
    let expiresAt := requiredField members ["expires_at", "expiresAt"] checkExpiry
    let errors := fieldErrors type ++ fieldErrors reason ++ fieldErrors scope ++ fieldErrors controls
      ++ fieldErrors evidenceIds ++ fieldErrors expiresAt
    validated (bodyProblem "invalid_risk_decision" missing errors (extraFields members aliases))
      (do return ⟨← type, ← reason, ← scope, ← controls, ← evidenceIds, ← expiresAt⟩)

end RiskDecisionRequest

/-- `RiskApprovalRequest`. -/
structure RiskApprovalRequest where
  outcome : String
  reason : String
deriving DecidableEq, Repr

namespace RiskApprovalRequest

def missing (field : String) : String :=
  if field = "outcome" then "outcome required"
  else if field = "reason" then "approval reason required"
  else "invalid risk approval request"

/-- `validate_outcome`. -/
def checkOutcome [Python] (value : Json) : Except FieldIssue String :=
  let invalid : FieldIssue := .custom "risk decision outcome must be approve or reject"
  match value with
  | .str s =>
      if Python.lower (strip s) ∈ ["approve", "reject"] then .ok (Python.lower (strip s))
      else .error invalid
  | _ => .error invalid

def validate [Python] (members : List (String × Json)) : Except BodyFault RiskApprovalRequest :=
  let outcome := requiredField members ["outcome", "decision"] checkOutcome
  let reason := requiredField members ["reason"] (nonblankText "approval reason is required")
  validated
    (bodyProblem "invalid_risk_approval" missing (fieldErrors outcome ++ fieldErrors reason)
      (extraFields members [["outcome", "decision"], ["reason"]]))
    (do return ⟨← outcome, ← reason⟩)

end RiskApprovalRequest

end VulnOpsHub
