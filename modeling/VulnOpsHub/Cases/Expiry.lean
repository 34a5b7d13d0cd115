import VulnOpsHub.Cases.Models

set_option autoImplicit false

/-! # Risk decision checks

The validators of `cases/service.py`: evidence, and the expiry of a risk decision, which is a
`datetime` from the request or one read back from the database, possibly naive or with a malformed
time zone. -/

namespace VulnOpsHub

/-- The exceptions `_InvalidExpiryTimezone` stands for all carry this message. -/
def invalidExpiryTimezone : PyError :=
  .valueError "risk decision expires_at must be timezone-aware"

/-- `_SUPPORTED_RISK_DECISION_TYPES`. -/
def supportedRiskDecisionTypes : List String :=
  ["risk_accepted", "waiver", "compensating_control", "false_positive", "not_affected"]

/-! ## Time zones -/

/-- Microseconds in a day: an offset is shorter than that. -/
def dayMicroseconds : ℤ := 24 * 3600 * 1000000

/-- The UTC times a `datetime` can hold, years 1 to 9999. -/
def representable (instant : ℤ) : Bool :=
  -62135596800000000 ≤ instant && instant < 253402300800000000

/-- `_safe_utcoffset`: `None` for a naive time. -/
def safeUtcoffset (dt : Datetime) : Except PyError (Option ℤ) :=
  match dt.tz with
  | .naive => .ok none
  | .offset o =>
      if -dayMicroseconds < o && o < dayMicroseconds then .ok (some o)
      else .error invalidExpiryTimezone
  | .malformed => .error invalidExpiryTimezone

/-- `_ensure_aware`: a naive time is taken to be UTC. -/
def ensureAware (dt : Datetime) : Datetime :=
  match dt.tz with
  | .naive => { dt with tz := .offset 0 }
  | _ => dt

/-- `_normalize_utc`: the same time in UTC, when that is representable. -/
def normalizeUtc (dt : Datetime) : Except PyError Datetime := do
  match ← safeUtcoffset (ensureAware dt) with
  | none => throw invalidExpiryTimezone
  | some o =>
      if representable (dt.wall - o) then pure (Datetime.utc (dt.wall - o))
      else throw invalidExpiryTimezone

/-- The instant of an aware time; comparing a naive time with an aware one is a `TypeError`. -/
def toInstant (dt : Datetime) : Except PyError Instant := do
  match ← safeUtcoffset dt with
  | none => throw .typeError
  | some o => pure (dt.wall - o)

/-! ## Validators -/

/-- An item that is no string, or only spaces. -/
def isBlankItem : Json → Bool
  | .str s => strip s == ""
  | _ => true

/-- `_validate_evidence_ids`. -/
def validateEvidenceIds (evidenceIds : Json) : Except PyError Unit :=
  match evidenceIds with
  | .arr (item :: items) =>
      if (item :: items).any isBlankItem then
        .error (.valueError "risk decision evidence_ids must contain only nonblank strings")
      else .ok ()
  | _ => .error (.valueError "risk decision evidence_ids must contain at least one item")

/-- The checks of type and reason that requests and approvals share. -/
def validateTypeAndReason (type reason : String) : Except PyError Unit :=
  if type ∉ supportedRiskDecisionTypes then
    .error (.valueError "unsupported risk decision type")
  else if strip reason = "" then
    .error (.valueError "risk decision reason is required")
  else .ok ()

def expiryInPast : PyError := .valueError "risk decision expires_at must be in the future"

/-- `_validate_risk_decision_request`. -/
def validateRiskDecisionRequest (type reason : String) (evidenceIds : Json) (expiresAt : Expiry)
    (now : Instant) : Except PyError Datetime := do
  validateTypeAndReason type reason
  validateEvidenceIds evidenceIds
  match expiresAt with
  | .missing => throw (.valueError "risk decision expires_at is required")
  | .notDatetime => throw invalidExpiryTimezone
  | .datetime dt =>
      match ← safeUtcoffset dt with
      | none => throw invalidExpiryTimezone
      | some o =>
          if dt.wall - o ≤ now then throw expiryInPast
          pure dt

/-- `_validate_risk_decision_expiry`, on a value read back from the database. -/
def validateRiskDecisionExpiry (expiresAt : Expiry) (now : Instant) : Except PyError Unit := do
  match expiresAt with
  | .missing => throw (.valueError "risk decision expires_at is required")
  | .notDatetime => throw invalidExpiryTimezone
  | .datetime dt =>
      let effective ← normalizeUtc dt
      if effective.wall ≤ now then throw expiryInPast

/-- `_canonicalize_risk_decision_expiry`: the expiry in UTC where that is possible. -/
def canonicalizeExpiry (expiresAt : Expiry) : Expiry :=
  match expiresAt with
  | .datetime dt =>
      match normalizeUtc dt with
      | .ok utc => .datetime utc
      | .error _ => expiresAt
  | _ => expiresAt

/-- The test of `process_expirations`, against its aware `now`. -/
def expiryDue (expiresAt : Expiry) (now : Datetime) : Except PyError Bool :=
  match expiresAt with
  | .missing => pure false
  | .notDatetime => throw .attributeError
  | .datetime dt => do
      let expiry ← toInstant (ensureAware dt)
      let now ← toInstant now
      pure (decide (expiry ≤ now))

end VulnOpsHub
