import VulnOpsHub.Lib.Python

set_option autoImplicit false

/-! # Verification coverage

`cases/verification.py`: when the coverage a verification reports proves remediation. -/

namespace VulnOpsHub

variable [Python]

/-- `evaluate_coverage`: whether the case can close, and the reason. -/
def evaluateCoverage (method : String) (coverage : Json) : Except PyError (Bool × String) := do
  if !coverage.truthy then
    return (false, "coverage missing")
  let status ← coverage.get "status"
  -- failed, partial or missing coverage never closes
  if status.isOneOf ["failed", "partial", "incomplete", "error"] then
    return (false, "coverage status " ++ pyStr status ++ " cannot prove remediation")
  if !status.isOneOf ["complete", "success", "ok"] then
    return (false, "unknown coverage status " ++ pyStr status)
  let scopeVersion ← coverage.get "scope_version"
  let scope ← coverage.get "scope"
  if method = "scanner" && !scopeVersion.truthy && !scope.truthy then
    return (false, "missing scope_version for scanner verification")
  if method = "wazuh_inventory" then
    match ← coverage.get "freshness_seconds" with
    | .null => return (true, "wazuh inventory shows fixed version - recent and complete")
    | freshness =>
        if ← freshness.greaterThan (24 * 3600) then
          return (false, "stale inventory observation")
        return (true, "wazuh inventory shows fixed version - recent and complete")
  if method = "manual_attestation" then
    -- never closes without the approval path
    return (false, "manual attestation requires approval")
  if method = "vex" then
    return (false, "vex alone requires review")
  return (true, "coverage complete")

end VulnOpsHub
