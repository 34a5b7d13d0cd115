import VulnOpsHub.Workers.Advisory
import VulnOpsHub.Workers.Exposures
import VulnOpsHub.Intelligence.Enrichment

set_option autoImplicit false

/-! # The handlers of the orchestrator

`OutboxOrchestrator` (`workers/orchestration.py`): what each evidence event makes of its payload, the
answers of the intelligence sources and the stored rows. A handler records findings, one after the
other; each is committed on its own, and may open a case, which takes two more commits.

The cache of advisory records, which a handler writes through a session of its own, is left out:
its rows have the source `osv`, and nothing here reads those. -/

namespace VulnOpsHub

/-! ## Environment -/

structure OrchestratorSettings where
  batchSize : ℕ
  maxAttempts : ℕ
  caseAutoCreateEnabled : Bool
  defaultCaseOwnerTeam : Option String
deriving DecidableEq, Repr

/-- The intelligence sources as one handling of an event finds them. `osv` is what the service does
    with the request of a component, `osvNow` and `osvUuid` go into the records made of its answers.
    A source that is not configured is `none`. -/
structure Sources where
  osv : ℕ → OsvRequest → Except PyError (Option OsvResult)
  osvNow : Datetime
  osvUuid : ℕ → ℕ → String
  kev : Option KEVAdapter
  epss : Option (String → Except PyError (List EpssEntry))
  vex : Option (String → Except PyError (List VexStatement))

/-- What one handling of an event takes from outside; `clock i` and `uuid i` are drawn from in the
    `i`-th round of its loop. -/
structure Handling where
  settings : OrchestratorSettings
  sources : Sources
  clock : ℕ → ℕ → Instant
  uuid : ℕ → ℕ → String

/-- The environment of a round. -/
def Handling.env (o : Handling) (i : ℕ) : CallEnv where
  clock := o.clock i
  uuid := o.uuid i
  defaultCaseOwnerTeam := o.settings.defaultCaseOwnerTeam

/-- `lookup_batch` of the OSV adapter. -/
def Sources.lookupBatch (s : Sources) (components : List OsvComponent) :
    Except PyError (List (AdvisoryRecord OsvAdvisory)) :=
  OSVAdapter.lookupBatch s.osv s.osvNow s.osvUuid components

/-! ## Priority -/

/-- `is_kev_persisted`. -/
def Hub.kevPersisted (h : Hub) (cveId : String) : Bool :=
  h.assertions.rows.any fun a => a.vulnerabilityId = cveId ∧ a.source = "kev" ∧ a.kev = some true

/-- `_is_kev`. -/
def Sources.isKev (s : Sources) (h : Hub) (vulnerabilityId : String) : Bool :=
  s.kev.any fun adapter => adapter.isKev h.kevPersisted vulnerabilityId

/-- The EPSS score and percentile `_priority_for` works with; a failed lookup counts as no
    record. -/
def Sources.epssFor (s : Sources) (vulnerabilityId : String) : Number × Option Number :=
  match s.epss with
  | none => (0, none)
  | some lookup =>
      match lookup vulnerabilityId with
      | .error _ => (0, none)
      | .ok entries =>
          match EPSSAdapter.score entries vulnerabilityId with
          | none => (0, none)
          | some (score, percentile) => (score, some percentile)

section Handlers

variable [Python]

/-- What `_priority_for` asks the policy; the asset's context is left at its defaults. -/
def policyInput (vulnerabilityId : String) (matchClass : MatchClass) (confidence : ℚ) (kev : Bool)
    (epss : Number × Option Number) : PolicyInput where
  vulnerabilityId := vulnerabilityId
  kev := kev
  epssScore := epss.1
  epssPercentile := epss.2
  matchConfidence := .finite confidence
  matchClass := matchClass

/-- A class that opens a case never sits in the bottom bin. -/
def uplift (matchClass : MatchClass) (priority : Priority) : Priority :=
  if priority = .p4 ∧ matchClass ∈ caseClasses then .p3 else priority

/-- The priority `_priority_for` answers, given what the sources say. -/
def priorityOf (vulnerabilityId : String) (matchClass : MatchClass) (confidence : ℚ) (kev : Bool)
    (epss : Number × Option Number) : Priority :=
  uplift matchClass
    (RiskPolicyEngine.evaluate (policyInput vulnerabilityId matchClass confidence kev epss)).priority

/-- `_priority_for`. -/
def priorityFor (s : Sources) (vulnerabilityId : String) (matchClass : MatchClass)
    (confidence : ℚ) : HubProg (Priority × String × Bool) := do
  let kev ← Program.select fun h : Hub => s.isKev h vulnerabilityId
  let epss := s.epssFor vulnerabilityId
  let priority := priorityOf vulnerabilityId matchClass confidence kev epss
  pure (priority, RiskPolicyEngine.policyVersion, kev)

/-- `_vex_status_for`: a failed lookup counts as no statement. -/
def Sources.vexStatusFor (s : Sources) (vulnerabilityId : String) : Option String :=
  match s.vex with
  | none => none
  | some lookup =>
      match lookup vulnerabilityId with
      | .error _ => none
      | .ok statements => VexClient.getStatus statements

/-! ## Case creation -/

/-- An open case is linked to the exposure by a `CaseExposure` row. -/
def Hub.linked (h : Hub) (exposureId : String) : Bool :=
  h.links.rows.any fun l => l.exposureId = exposureId ∧
    (h.case? l.caseId).any (·.status ≠ .closed)

/-- An open case of the organization lists the exposure. -/
def Hub.listed (h : Hub) (organizationId exposureId : String) : Bool :=
  h.cases.rows.any fun c => c.organizationId = organizationId ∧ c.status ≠ .closed ∧
    exposureId ∈ c.exposures

/-- The arguments of `create_case` for an exposure. -/
def caseArgs (o : Handling) (e : Exposure) (componentLabel : String) : CreateCaseArgs where
  organizationId := e.organizationId
  title := "Remediate " ++ e.vulnerabilityId ++ " in " ++ componentLabel
  ownerTeam := o.settings.defaultCaseOwnerTeam
  priority := (e.priority.getD .p2).value
  exposures := some [e.id]
  policyVersion := e.policyVersion
  assignee := none
  assetId := e.assetId

/-- The link of a new case to its exposure. -/
def caseLink (env : CallEnv) (caseId exposureId : String) : CaseExposure :=
  ⟨env.rowId "cx_" 12 9, caseId, exposureId⟩

def ticketAudit (env : CallEnv) (e : Exposure) (caseId : String) (provenance : Option String) :
    AuditEvent :=
  { env.audit 10 "orchestration" "case.external_ticket.linked" "case" caseId "" none none
      (some (orElse provenance "external ticket linked")) e.organizationId with
    correlationId := none }

/-- The external ticket of a case, and its audit row. -/
def ticketWrites (env : CallEnv) (e : Exposure) (caseId : String) (ticket provenance : Option String) :
    List HubWrite :=
  match nonEmpty ticket with
  | none => []
  | some ticket =>
      [.core (.updateCase caseId
          { status := none
            version := none
            assignee := none
            slaBreached := none
            closureReason := none
            externalTicketId := some (some ticket)
            updatedAt := some (env.clock 10) }),
        .core (.insertAudit (ticketAudit env e caseId provenance))]

/-- `_maybe_create_case`; the answer is the id of the case it opened. -/
def maybeCreateCase (o : Handling) (env : CallEnv) (exposureId componentLabel : String)
    (ticket provenance : Option String) : HubProg (Option String) := do
  if o.settings.caseAutoCreateEnabled then
    -- committed objects are read again when they are used
    let e ← Program.lookup (fun h : Hub => h.exposure? exposureId) .invalidRequestError
    if e.matchClass ∈ caseClasses then
      if ← Program.select fun h : Hub => h.linked e.id then
        pure none
      else
        -- the JSON list of a case is committed with it, its link only afterwards
        if ← Program.select fun h : Hub => h.listed e.organizationId e.id then
          pure none
        else
          let case ← (createCase (caseArgs o e componentLabel) env).embed hubView
          Program.add (HubWrite.insertLink (caseLink env case.id e.id)
            :: ticketWrites env e case.id ticket provenance)
          Program.commitAll
          pure (some case.id)
    else
      pure none
  else
    pure none

/-! ## Findings -/

/-- What a handler passes to `upsert_exposure` and `_maybe_create_case` for one evaluation. -/
structure Finding where
  organizationId : String
  vulnerabilityId : String
  detectionContext : String
  componentOccurrenceId : Option String
  assetId : Option String
  result : ExposureResult
  componentPurl : Option String
  /-- Whether the handler goes on to `_maybe_create_case`. -/
  opensCase : Bool
  componentLabel : String
  ticket : Option String
  provenance : Option String
deriving DecidableEq

namespace Finding

def key (f : Finding) : ExposureKey :=
  ⟨f.organizationId, f.vulnerabilityId, f.detectionContext, f.componentOccurrenceId⟩

def upsertArgs (f : Finding) (eventId : String) (priority : Priority) (policyVersion : String) :
    UpsertArgs where
  organizationId := f.organizationId
  vulnerabilityId := f.vulnerabilityId
  detectionContext := f.detectionContext
  componentOccurrenceId := f.componentOccurrenceId
  assetId := f.assetId
  matchClass := f.result.matchClass
  confidence := f.result.confidence
  matchedRules := some f.result.matchedRules
  evidenceRefs := some [eventId]
  limitations := some f.result.limitations
  matcherVersion := some f.result.matcherVersion
  priority := some priority
  policyVersion := some policyVersion
  evidenceRef := some eventId
  componentPurl := f.componentPurl

end Finding

/-- Store a finding and open its case; the answer is the id of the exposure. -/
def recordFinding (o : Handling) (eventId : String) (i : ℕ) (f : Finding) : HubProg String := do
  let (priority, policyVersion, _) ←
    priorityFor o.sources f.vulnerabilityId f.result.matchClass f.result.confidence
  let (exposureId, _) ← upsertExposure (f.upsertArgs eventId priority policyVersion) (o.env i)
  Program.commitAll
  if f.opensCase then
    let _ ← maybeCreateCase o (o.env i) exposureId f.componentLabel f.ticket f.provenance
    pure exposureId
  else
    pure exposureId

/-- The findings of a handler, one after the other. -/
def recordFindings (o : Handling) (eventId : String) (fs : List Finding) : HubProg Unit :=
  Program.forEach (fun i f => (recordFinding o eventId i f).map fun _ => ()) 0 fs

variable [Packaging]

/-! ## `_handle_sbom_processed` -/

omit [Python] [Packaging] in
/-- `_component_from_occurrence`. -/
def componentFromOccurrence (occurrence : ComponentOccurrence) : ParsedComponent where
  rawName := occurrence.rawName
  rawVersion := occurrence.rawVersion
  purl := occurrence.purl
  ecosystem := occurrence.ecosystem
  normalizedName := occurrence.normalizedName
  cpe := occurrence.cpe
  versionScheme := occurrence.versionScheme
  dependencyPath := none

/-- The occurrences with a purl and a version. -/
def queryable (occurrence : ComponentOccurrence) : Bool :=
  (nonEmpty occurrence.purl).isSome && (nonEmpty occurrence.rawVersion).isSome

/-- The pairs the loop of the handler goes through: each occurrence with the records of its own
    query. -/
def sbomMatches (ordered : List ComponentOccurrence)
    (records : List (AdvisoryRecord OsvAdvisory)) :
    List (ComponentOccurrence × AdvisoryRecord OsvAdvisory) :=
  ordered.zipIdx.flatMap fun (occurrence, idx) =>
    (records.filter (·.queryIndex = some idx)).map (occurrence, ·)

/-- The finding of an occurrence and a record. -/
def sbomFinding (s : Sources) (organizationId sbomId uuid : String)
    (m : ComponentOccurrence × AdvisoryRecord OsvAdvisory) : Finding where
  organizationId := organizationId
  vulnerabilityId := m.2.vulnerabilityId
  detectionContext := "sbom:" ++ sbomId
  componentOccurrenceId := some m.1.id
  assetId := m.1.assetId
  result := evaluate (componentFromOccurrence m.1) (advisoryFromRecord m.2) none none
    (s.vexStatusFor m.2.vulnerabilityId) uuid
  componentPurl := m.1.purl
  opensCase := true
  componentLabel := orElse m.1.normalizedName m.1.rawName
  ticket := none
  provenance := none

/-- The findings of a bill of materials, round by round. -/
def sbomFindings (o : Handling) (organizationId sbomId : String)
    (ms : List (ComponentOccurrence × AdvisoryRecord OsvAdvisory)) : List Finding :=
  ms.zipIdx.map fun (m, i) => sbomFinding o.sources organizationId sbomId (o.uuid i 11) m

def handleSbomProcessed (o : Handling) (event : OutboxEvent) : HubProg String := do
  let payload := event.payload.orEmpty
  let document ← Program.ofExcept (payload.index "sbom_id")
  match ← Program.ofExcept document.optionalText with
  | none => pure ("sbom=" ++ pyStr document ++ " exposures=0")
  | some sbomId =>
      let occurrences ← Program.select fun h : Hub =>
        h.occurrences.rows.filter fun occurrence => occurrence.sbomId = sbomId
      let ordered := occurrences.filter queryable
      let records ← Program.ofExcept
        (if ordered = [] then .ok []
        else o.sources.lookupBatch (ordered.map fun occurrence =>
          { purl := occurrence.purl, version := occurrence.rawVersion }))
      let ms := sbomMatches ordered records
      let organizationId ← Program.ofExcept
        (if ms = [] then .ok "default"
        else payload.get "organization_id" >>= fun organization => organization.textOr "default")
      recordFindings o event.id (sbomFindings o organizationId sbomId ms)
      pure ("sbom=" ++ sbomId ++ " exposures=" ++ toString ms.length)

/-! ## `_handle_defectdojo_ingested` -/

/-- The fields of a payload the handler works with. -/
structure DojoFields where
  findingId : String
  cve : String
  organizationId : String
  purl : Option String
  componentName : String
  componentVersion : Option String
  verified : Bool
  assetId : Option String
  jiraKey : Option String
deriving DecidableEq, Repr

/-- The answer of a handler that has nothing to record, or the fields it goes on with. -/
abbrev Decoded (fields : Type) := String ⊕ fields

omit [Packaging] in
/-- The head of the handler, up to its lookups. -/
def DojoFields.decode (payload : Json) : Except PyError (Decoded DojoFields) := do
  let findingId := pyStr (← payload.get "finding_id")
  let mapping := (← payload.get "mapping").orEmpty
  if (← mapping.get "status").isOneOf ["ambiguous"] then
    return .inl ("dojo=" ++ findingId ++ " skipped-ambiguous")
  let cve ← payload.get "cve"
  if !cve.truthy || cve.isOneOf ["unknown"] then
    return .inl ("dojo=" ++ findingId ++ " skipped-no-cve")
  let scanMetadata := (← payload.get "scan_metadata").orEmpty
  let _scanner ← if (← payload.get "scanner").truthy then pure .null else scanMetadata.get "scanner"
  let _scanType ← if (← payload.get "scan_type").truthy then pure .null
    else scanMetadata.get "scan_type"
  return .inr
    { findingId := findingId
      cve := ← cve.text
      organizationId := ← (← payload.get "organization_id").textOr "default"
      purl := ← (← payload.get "purl").optionalText
      componentName := ← (← payload.get "component_name").textOr "unknown"
      componentVersion := ← (← payload.get "component_version").optionalText
      verified := (← payload.get "verified").truthy
      assetId := ← (← mapping.get "asset_id").optionalText
      jiraKey := ← (← payload.get "jira_key").optionalText }

omit [Packaging] [Python] in
/-- An advisory without entries. -/
def bareAdvisory (cve : String) : OsvAdvisory where
  id := some cve
  vulnerabilityId := none
  aliases := none
  summary := none
  details := none
  affected := []
  references := []

omit [Packaging] [Python] in
/-- `advisory["id"] = advisory.get("id") or cve`. -/
def identified (advisory : OsvAdvisory) (cve : String) : OsvAdvisory :=
  { advisory with id := some (orElse advisory.id cve) }

/-- The records OSV answers for a purl; without one it is not asked. -/
def Sources.recordsFor (s : Sources) (purl version : Option String) :
    Except PyError (List (AdvisoryRecord OsvAdvisory)) :=
  if (nonEmpty purl).isSome then s.lookupBatch [{ purl := purl, version := version }] else .ok []

omit [Packaging] [Python] in
/-- The advisory the handler evaluates: the first record, whichever vulnerability it is about. -/
def dojoAdvisory (cve : String) (records : List (AdvisoryRecord OsvAdvisory)) : OsvAdvisory :=
  match records with
  | [] => bareAdvisory cve
  | record :: _ => identified (advisoryFromRecord record) cve

/-- The evaluation of a DefectDojo finding. -/
def dojoResult (s : Sources) (fields : DojoFields) (records : List (AdvisoryRecord OsvAdvisory))
    (uuid : String) : ExposureResult :=
  evaluate (componentFromFields fields.componentName fields.componentVersion fields.purl)
    (dojoAdvisory fields.cve records) none
    (if fields.verified then some ⟨.bool true, some (.str fields.findingId)⟩ else none)
    (if fields.verified then none else s.vexStatusFor fields.cve) uuid

def dojoFinding (s : Sources) (fields : DojoFields) (records : List (AdvisoryRecord OsvAdvisory))
    (uuid : String) : Finding where
  organizationId := fields.organizationId
  vulnerabilityId := fields.cve
  detectionContext := "defectdojo:" ++ fields.findingId
  componentOccurrenceId := none
  assetId := fields.assetId
  result := dojoResult s fields records uuid
  componentPurl := fields.purl
  opensCase := (nonEmpty fields.purl).isSome
  componentLabel := fields.componentName
  ticket := fields.jiraKey
  provenance := (nonEmpty fields.jiraKey).map fun _ =>
    "jira via defectdojo finding " ++ fields.findingId

def handleDefectdojoIngested (o : Handling) (event : OutboxEvent) : HubProg String := do
  match ← Program.ofExcept (DojoFields.decode event.payload.orEmpty) with
  | .inl summary => pure summary
  | .inr fields =>
      let records ← Program.ofExcept (o.sources.recordsFor fields.purl fields.componentVersion)
      let f := dojoFinding o.sources fields records (o.uuid 0 11)
      recordFindings o event.id [f]
      pure ("dojo=" ++ fields.findingId ++ " match=" ++ f.result.matchClass.value)

/-! ## `_handle_wazuh_ingested` -/

structure WazuhFields where
  agentId : String
  cve : String
  organizationId : String
  purl : Option String
  componentName : String
  componentVersion : Option String
  derivedPurl : Bool
  assetId : Option String
deriving DecidableEq, Repr

omit [Packaging] in
def WazuhFields.decode (payload : Json) : Except PyError (Decoded WazuhFields) := do
  let agent ← payload.get "agent_id"
  let agentId := if agent.truthy then pyStr agent else "unknown"
  let cve ← payload.get "cve"
  if !cve.truthy || cve.isOneOf ["unknown"] then
    return .inl ("wazuh=" ++ agentId ++ " no-cve")
  let package := (← payload.get "package").orEmpty
  let purlDerivation := (← payload.get "purl_derivation").orEmpty
  let mapping := (← payload.get "mapping").orEmpty
  return .inr
    { agentId := agentId
      cve := ← cve.text
      organizationId := ← (← payload.get "organization_id").textOr "default"
      purl := ← (← package.get "purl").optionalText
      componentName := ← (← package.get "name").textOr "unknown"
      componentVersion := ← (← package.get "version").optionalText
      derivedPurl := (← purlDerivation.get "status").isOneOf ["derived"]
      assetId := ← (← mapping.get "asset_id").optionalText }

omit [Packaging] in
/-- `_osv_record_matches_cve`. -/
def osvRecordMatchesCve (record : AdvisoryRecord OsvAdvisory) (cve : String) : Bool :=
  Python.upper record.vulnerabilityId = Python.upper cve ||
    record.aliases.any fun name => Python.upper name = Python.upper cve

omit [Packaging] in
/-- `_select_osv_record_for_cve`. -/
def selectOsvRecordForCve (records : List (AdvisoryRecord OsvAdvisory)) (cve : String) :
    Option (AdvisoryRecord OsvAdvisory) :=
  records.find? fun record => osvRecordMatchesCve record cve

omit [Packaging] [Python] in
/-- The advisory of the bound record, if there is one. -/
def wazuhAdvisory (cve : String) (bound : Option (AdvisoryRecord OsvAdvisory)) : OsvAdvisory :=
  match bound with
  | none => bareAdvisory cve
  | some record => identified (advisoryFromRecord record) cve

omit [Packaging] [Python] in
/-- What the handler adds to the limitations of a result. -/
def wazuhLimitations (fields : WazuhFields) (osvCveBound : Bool) : List String :=
  (if (nonEmpty fields.purl).isNone then ["package inventory without purl; review required"]
    else if fields.derivedPurl then ["purl derived from Wazuh package metadata (best-effort)"]
    else [])
  ++ (if (nonEmpty fields.purl).isSome && !osvCveBound then
      ["osv lookup did not confirm the Wazuh CVE; package-version match alone is insufficient"]
    else [])

omit [Packaging] [Python] in
/-- The result the handler stores: without a bound record no class that opens a case stands. -/
def wazuhAdjusted (fields : WazuhFields) (osvCveBound : Bool) (result : ExposureResult) :
    ExposureResult :=
  let limitations := result.limitations ++ wazuhLimitations fields osvCveBound
  if ((nonEmpty fields.purl).isSome && !osvCveBound) ∧ result.matchClass ∈ caseClasses then
    { matchClass := .candidate
      confidence := min result.confidence (2 / 5)
      shouldCreateCase := false
      caseId := none
      matchedRules := ["wazuh.osv-cve-unbound"]
      limitations := limitations
      matcherVersion := result.matcherVersion
      explanation := result.explanation }
  else { result with limitations := limitations }

/-- The evaluation of a Wazuh event. -/
def wazuhResult (s : Sources) (fields : WazuhFields) (records : List (AdvisoryRecord OsvAdvisory))
    (uuid : String) : ExposureResult :=
  let bound := selectOsvRecordForCve records fields.cve
  wazuhAdjusted fields bound.isSome
    (evaluate (componentFromFields fields.componentName fields.componentVersion fields.purl)
      (wazuhAdvisory fields.cve bound) none none (s.vexStatusFor fields.cve) uuid)

def wazuhFinding (s : Sources) (fields : WazuhFields) (records : List (AdvisoryRecord OsvAdvisory))
    (uuid : String) : Finding where
  organizationId := fields.organizationId
  vulnerabilityId := fields.cve
  detectionContext := "wazuh:" ++ fields.agentId
  componentOccurrenceId := none
  assetId := fields.assetId
  result := wazuhResult s fields records uuid
  componentPurl := none
  opensCase := (nonEmpty fields.purl).isSome && (selectOsvRecordForCve records fields.cve).isSome
  componentLabel := fields.componentName
  ticket := none
  provenance := none

def handleWazuhIngested (o : Handling) (event : OutboxEvent) : HubProg String := do
  match ← Program.ofExcept (WazuhFields.decode event.payload.orEmpty) with
  | .inl summary => pure summary
  | .inr fields =>
      let records ← Program.ofExcept (o.sources.recordsFor fields.purl fields.componentVersion)
      let f := wazuhFinding o.sources fields records (o.uuid 0 11)
      let exposureId ← recordFinding o event.id 0 f
      pure ("wazuh=" ++ fields.agentId ++ " match=" ++ f.result.matchClass.value
        ++ " exposure=" ++ exposureId)

/-! ## Dispatch -/

/-- `_HANDLERS`. -/
def handlerOf (eventType : String) : Option (Handling → OutboxEvent → HubProg String) :=
  if eventType = "vulnops.sbom.processed.v1" then some handleSbomProcessed
  else if eventType = "vulnops.evidence.defectdojo.ingested.v1" then some handleDefectdojoIngested
  else if eventType = "vulnops.evidence.wazuh.ingested.v1" then some handleWazuhIngested
  else none

end Handlers

/-! ## Samples -/

/-- OSV answers every query with the same vulnerabilities; nothing else is configured. -/
def sampleSources (vulns : List OsvAdvisory) : Sources where
  osv := fun _ _ => .ok (some ⟨some vulns⟩)
  osvNow := .utc 0
  osvUuid := fun _ _ => ""
  kev := none
  epss := none
  vex := none

/-- VEX says that the component is affected. -/
def sampleConfirming : Sources :=
  { sampleSources [sampleAdvisory []] with
    vex := some fun _ => .ok [⟨.str "affected"⟩] }

def sampleHandling (sources : Sources) : Handling where
  settings := ⟨50, 8, true, some "unassigned"⟩
  sources := sources
  clock := fun i j => 100 * i + j
  uuid := fun i j => toString (100 * i + j)

def sampleEvent (eventType : String) (members : List (String × Json)) : OutboxEvent :=
  ⟨"evt_1", "evidence", "ev_1", eventType, .obj members, "", 0, none, 0⟩

def sampleSbomEvent : OutboxEvent :=
  sampleEvent "vulnops.sbom.processed.v1" [("sbom_id", .str "sbom_1")]

/-- Wazuh reports a vulnerability of a package. -/
def sampleWazuhEvent : OutboxEvent :=
  sampleEvent "vulnops.evidence.wazuh.ingested.v1"
    [("agent_id", .str "3"), ("cve", .str "CVE-2026-1234"),
      ("package", .obj [("purl", .str "pkg:pypi/urllib3"), ("name", .str "urllib3"),
        ("version", .str "1.26.18")])]

/-- A package on an asset. -/
def sampleOccurrence : ComponentOccurrence where
  id := "occ_1"
  sbomId := "sbom_1"
  assetId := some "asset_1"
  purl := some "pkg:pypi/urllib3"
  ecosystem := some "pypi"
  normalizedName := some "urllib3"
  rawName := "urllib3"
  rawVersion := some "1.26.18"
  cpe := none
  versionScheme := some "pypi"

/-- It is critical and faces the internet. -/
def sampleCritical : Asset := ⟨"asset_1", "default", none, none, "critical", some "external"⟩

def sampleInventory : Hub :=
  { Hub.empty with
    occurrences := ⟨[sampleOccurrence], by decide⟩
    assets := ⟨[sampleCritical], by decide⟩ }

end VulnOpsHub
