import VulnOpsHub.Integrations.DefectDojo

set_option autoImplicit false

/-! # The Wazuh bridge

`WazuhBridge.ingest_event`, and a delivery to either bridge. -/

namespace VulnOpsHub

section Events

variable [Python]

/-- `_extract_scan_metadata` of the Wazuh bridge. -/
def wazuhScanMetadata (raw : Json) : Except PyError Json := do
  let scan ← raw.getOr "scan" (.obj [])
  let agent ← raw.getOr "agent" (.obj [])
  let scopeStatus ← scan.get "scope_status"
  let agentId ← agent.get "id"
  pure (.obj [
    ("scope_status", ((scopeStatus.or (scan.field "status")).or (scan.field "scope_status")).or
      (.str "unknown")),
    ("scan_id", (scan.field "id").or (scan.field "id")), ("agent", agent), ("agent_id", agentId)])

/-- What `ingest_event` reads before it queries. -/
structure WazuhEvent where
  agentId : String
  cve : Json
  package : Json
  derivation : PurlDerivationResult

def readWazuhEvent (raw : Json) : Except PyError WazuhEvent := do
  let agent ← raw.getOr "agent" (.obj [])
  let packageRaw ← raw.getOr "package" (.obj [])
  let (package, derivation) ← enrichWazuhPackage packageRaw.orEmpty agent
  let vulnerability ← raw.getOr "vulnerability" (.obj [])
  let agentKey ← agent.get "id"
  let vulnerabilityId ← vulnerability.get "id"
  pure
    { agentId := pyStr ((agentKey.or (agent.field "agent_id")).or (.str "unknown"))
      cve := (vulnerabilityId.or (raw.field "cve")).or (.str "unknown")
      package := package
      derivation := derivation }

/-- `package.get(key, "")`. -/
def WazuhEvent.packageField (event : WazuhEvent) (key : String) : Json :=
  (event.package.members.lookup key).getD (.str "")

/-- The agent, vulnerability and package of an event. -/
def WazuhEvent.recordId (event : WazuhEvent) : String :=
  event.agentId ++ ":" ++ pyStr event.cve ++ ":" ++ pyStr (event.packageField "name") ++ ":"
    ++ pyStr (event.packageField "version")

variable [Driver] [Sha256]

/-- What `ingest_event` makes of an event. -/
def eventRecord (raw : Json) (event : WazuhEvent) (organizationId : String) : EvidenceRecord where
  source := "wazuh"
  sourceRecordId := event.recordId
  raw := raw
  objectUri := fun digest => .str ("wazuh://agent/" ++ event.agentId ++ "/event/"
    ++ String.ofList (digest.toList.take 12))
  actor := "wazuh-bridge"
  action := "evidence.wazuh.ingested"
  eventType := "vulnops.evidence.wazuh.ingested.v1"
  mapping := fun aliases => mapWazuh aliases raw organizationId
  scanMetadata := wazuhScanMetadata raw
  reason := fun _ => "wazuh event ingested"
  payload := fun mapping scanMetadata =>
    [("agent_id", .str event.agentId), ("cve", event.cve), ("package", event.package),
      ("purl_derivation", .obj [("status", .str event.derivation.status.value),
        ("reason", .ofOption event.derivation.reason)]),
      ("organization_id", .str organizationId),
      ("mapping", .obj [("status", .str mapping.status.value),
        ("asset_id", .ofOption mapping.assetId)]),
      ("scan_metadata", scanMetadata)]

structure WazuhIngestResult extends EvidenceResult where
  evidenceRef : String
  agentId : String
  packageName : Json
  packageVersion : Json
  packagePurl : Json

/-- `WazuhBridge.ingest_event`. -/
def ingestEvent (env : CallEnv) (raw : Json) (organizationId : String) (s : EvidenceStore) :
    Except PyError WazuhIngestResult × EvidenceStore :=
  match readWazuhEvent raw with
  | .error e => (.error e, s)
  | .ok event =>
      let outcome := (eventRecord raw event organizationId).ingest env organizationId s
      (outcome.1.map fun r => ⟨r, r.sourceSnapshot.id, event.agentId, event.package.field "name",
        event.package.field "version", event.package.field "purl"⟩, outcome.2)

end Events

/-! ## Deliveries to the bridges -/

inductive Bridge where
  | defectdojo
  | wazuh
deriving DecidableEq, Repr

def Bridge.source : Bridge → String
  | .defectdojo => "defectdojo"
  | .wazuh => "wazuh"

section Deliveries

variable [Python] [PythonDigits] [Driver] [Sha256]

/-- What a bridge makes of a payload, if it can read it. -/
def Bridge.record (b : Bridge) (env : CallEnv) (raw : Json) (organizationId : String) :
    Except PyError EvidenceRecord :=
  match b with
  | .defectdojo => (raw.get "id").map fun _ => findingRecord env raw organizationId
  | .wazuh => (readWazuhEvent raw).map fun event => eventRecord raw event organizationId

omit [Sha256] in
theorem Bridge.record_cases {b : Bridge} {env : CallEnv} {raw : Json} {organizationId : String}
    {r : EvidenceRecord} (h : b.record env raw organizationId = .ok r) :
    (b = .defectdojo ∧ (∃ id, raw.get "id" = .ok id) ∧ r = findingRecord env raw organizationId) ∨
      b = .wazuh ∧ ∃ event, readWazuhEvent raw = .ok event ∧ r = eventRecord raw event organizationId := by
  cases b with
  | defectdojo =>
      cases hget : raw.get "id" with
      | error e => simp [Bridge.record, hget, Except.map] at h
      | ok id =>
          simp only [Bridge.record, hget, Except.map, Except.ok.injEq] at h
          exact Or.inl ⟨rfl, ⟨id, rfl⟩, h.symm⟩
  | wazuh =>
      cases hread : readWazuhEvent raw with
      | error e => simp [Bridge.record, hread, Except.map] at h
      | ok event =>
          simp only [Bridge.record, hread, Except.map, Except.ok.injEq] at h
          exact Or.inr ⟨rfl, event, rfl, h.symm⟩

/-- A call of a bridge, with the snapshot of its result. -/
def Bridge.deliver (b : Bridge) (env : CallEnv) (raw : Json) (organizationId : String)
    (s : EvidenceStore) : Except PyError SourceSnapshot × EvidenceStore :=
  match b with
  | .defectdojo =>
      let outcome := ingestFinding env raw organizationId s
      (outcome.1.map fun r => r.sourceSnapshot, outcome.2)
  | .wazuh =>
      let outcome := ingestEvent env raw organizationId s
      (outcome.1.map fun r => r.sourceSnapshot, outcome.2)

end Deliveries

end VulnOpsHub
