import VulnOpsHub.Integrations.Store
import VulnOpsHub.Integrations.WazuhPurl
import VulnOpsHub.Lib.Numerals

set_option autoImplicit false

/-! # The DefectDojo bridge

`DefectDojoBridge.ingest_finding`. What the bridge makes of the matcher's opinion is left out: it is
neither stored nor read. -/

namespace VulnOpsHub

/-! ## Reading a finding -/

/-- The first text in a list. -/
def firstText (values : List Json) : Option String := values.findSome? Json.stripped?

/-- `item.get("vulnerability_id") if isinstance(item, dict) else item`. -/
def vulnerabilityIdOf : Json → Json
  | .obj members => (Json.obj members).field "vulnerability_id"
  | item => item

/-- `_extract_cve`. -/
def extractCve (raw : Json) : Option String :=
  (((raw.field "cve").or (raw.field "vuln_id")).stripped?).or
    ((firstText (raw.field "vulnerability_aliases").items).or
      (firstText ((raw.field "vulnerability_ids").items.map vulnerabilityIdOf)))

section Reading

variable [Python]

/-- `_extract_component_purl` and `_extract_component_version`. -/
def extractField (direct : Json) (keys : List String) (raw : Json) : Option String :=
  let metadata := metadataMap (raw.field "finding_meta")
  direct.stripped?.or (keys.findSome? fun key => nonEmpty (metadata.lookup key))

def extractComponentPurl (raw : Json) : Option String :=
  extractField ((raw.field "purl").or (raw.field "component_purl"))
    ["component_purl", "purl", "package_purl", "package_url"] raw

def extractComponentVersion (raw : Json) : Option String :=
  extractField ((raw.field "component_version").or (raw.field "version"))
    ["component_version", "version", "package_version"] raw

def findingComponentName (raw : Json) : Json :=
  let metadata := metadataMap (raw.field "finding_meta")
  (((raw.field "component_name").or (metadataValue metadata "component_name")).or
    (raw.field "title")).or (.str "unknown")

mutual

/-- `_dd_label`. -/
def ddLabel (keys : List String) : Json → Option String
  | .str s => nonEmpty (some (strip s))
  | .obj members =>
      let labels := ddLabelMembers keys members
      keys.findSome? fun key => (labels.lookup key).join
  | .arr items => ddLabelItems keys items
  | _ => none

/-- The labels of the members of an object. -/
def ddLabelMembers (keys : List String) : List (String × Json) → List (String × Option String)
  | [] => []
  | (key, value) :: rest => (key, ddLabel keys value) :: ddLabelMembers keys rest

/-- The first label of a list. -/
def ddLabelItems (keys : List String) : List Json → Option String
  | [] => none
  | item :: rest => (ddLabel keys item).or (ddLabelItems keys rest)

end

section Digits

variable [PythonDigits]

/-- `_JIRA_ISSUE_KEY_RE.fullmatch`. -/
def isJiraIssueKey (candidate : String) : Bool :=
  let project := candidate.toList.takeWhile (· ≠ '-')
  let number := (candidate.toList.dropWhile (· ≠ '-')).drop 1
  (project.head?.any Char.isUpper) && 2 ≤ project.length
    && project.tail.all (fun c => c.isUpper || c.isDigit)
    && number ≠ [] && number.all PythonDigits.isDecimal

/-- `_normalize_jira_issue_key`. -/
def normalizeJiraIssueKey (value : Option String) : Option String :=
  (value.map strip).filter fun candidate =>
    candidate ≠ "" && candidate.length ≤ 50
      && !(containsText candidate "://" || containsText candidate "<" || containsText candidate ">")
      && isJiraIssueKey candidate

/-- `_extract_jira_key`. -/
def extractJiraKey (raw : Json) : Option String :=
  let related := raw.field "related_fields"
  [related.field "jira", related.field "jira_issue", related.field "jira_key",
    raw.field "jira_key", raw.field "jira_issue", raw.field "jira"].findSome? fun candidate =>
      normalizeJiraIssueKey (ddLabel ["key", "issue_key", "jira_key"] candidate)

/-- `any(token in value.lower() for ...)`. -/
def isGreenbone (label : String) : Bool :=
  ["greenbone", "openvas"].any (containsText (Python.lower label))

/-- `_normalize_scanner`. -/
def normalizeScanner (identity metadata : List (Option String)) : String :=
  let identityLabels := (identity.filterMap nonEmpty).filter fun label => !allDigits (strip label)
  let metadataLabels := metadata.filterMap nonEmpty
  if identityLabels.any isGreenbone then "Greenbone/OpenVAS"
  else match identityLabels with
    | label :: _ => label
    | [] => if metadataLabels.any isGreenbone then "Greenbone/OpenVAS"
        else metadataLabels.head?.getD "unknown"

/-- `{...}` where a value is no object. -/
def Json.dict (value : Json) : Json := .obj value.members

/-- The labels of a finding's test, before one stands in for the other. -/
def testTypeLabel (raw relatedTest testObject : Json) : Option String :=
  [raw.field "test_type", raw.field "test_type_name",
    relatedTest.field "test_type_name", relatedTest.field "test_type",
    testObject.field "test_type_name", testObject.field "test_type"].findSome?
      (ddLabel ["name", "test_type_name", "scan_type"])

def scanTypeLabel (raw reimport relatedTest testObject : Json) : Option String :=
  [reimport.field "scan_type", raw.field "scan_type",
    relatedTest.field "scan_type", testObject.field "scan_type"].findSome?
      (ddLabel ["name", "scan_type"])

/-- `test` where it is neither an object nor a list. -/
def scalarTest : Json → Json
  | .obj _ => .null
  | .arr _ => .null
  | test => test

/-- `_extract_scan_metadata`. -/
def scanMetadataOf (raw : Json) : Json :=
  let scanRun := (raw.field "scan_run").dict
  let reimport := (raw.field "reimport").dict
  let test := raw.field "test"
  let testObject := test.dict
  let relatedTest := ((raw.field "related_fields").field "test").dict
  let testLabel := testTypeLabel raw relatedTest testObject
  let scanType := (scanTypeLabel raw reimport relatedTest testObject).or testLabel
  let testType := testLabel.or scanType
  let identityLabel (key : String) := ddLabel ["name", "tool", "title", "label"] (raw.field key)
  let scanner := normalizeScanner
    [identityLabel "found_by", identityLabel "scanner", identityLabel "tool"] [testType, scanType]
  let objectId := ((relatedTest.field "id").or (relatedTest.field "test_id")).or
    ((testObject.field "id").or (testObject.field "test_id"))
  -- only `None` gives way to a test that is no object, not other values that count as false
  let testId := (match objectId with
    | .null => scalarTest test
    | id => id).or (reimport.field "test_id")
  let scanId := (((scanRun.field "id").or (raw.field "scan_id")).or (reimport.field "scan_id")).or
    testId
  let scopeStatus := (((scanRun.field "scope_status").or (scanRun.field "status")).or
    (raw.field "status")).or (.str "unknown")
  .obj [("scope_status", scopeStatus),
    ("credentials_status", (scanRun.field "credentials_status").or (.str "unknown")),
    ("scan_id", scanId), ("test_id", testId), ("reimport_version", reimport.field "version"),
    ("scanner", .str scanner), ("scan_type", .ofOption scanType), ("test_type", .ofOption testType)]

end Digits

/-- `_ingest_reason`. -/
def ingestReason (scanMetadata : Json) : String :=
  let scanner := (scanMetadata.field "scanner").or (.str "unknown")
  let scanType := scanMetadata.field "scan_type"
  let suffix := if scanType.truthy then "; scan_type=" ++ pyStr scanType else ""
  "defectdojo finding ingested (scanner=" ++ pyStr scanner ++ suffix ++ ")"

/-! ## Ingesting a finding -/

/-- What the record id of a finding is made of. -/
def findingKey (raw : Json) : Json := (raw.field "id").or (raw.field "finding_id")

/-- `str(raw.get("id") or raw.get("finding_id") or uuid.uuid4().hex[:8])`. -/
def findingRecordId (env : CallEnv) (raw : Json) : String :=
  pyStr ((findingKey raw).or (.str (env.rowId "" 8 0)))

variable [PythonDigits] [Driver] [Sha256]

/-- What `ingest_finding` makes of a finding. -/
def findingRecord (env : CallEnv) (raw : Json) (organizationId : String) : EvidenceRecord where
  source := "defectdojo"
  sourceRecordId := findingRecordId env raw
  raw := raw
  objectUri := fun _ => ((raw.field "url").or (raw.field "file_path")).or
    (.str ("https://dojo.example/findings/" ++ findingRecordId env raw))
  actor := "defectdojo-bridge"
  action := "evidence.defectdojo.ingested"
  eventType := "vulnops.evidence.defectdojo.ingested.v1"
  mapping := fun aliases => mapDefectdojo aliases raw organizationId
  scanMetadata := .ok (scanMetadataOf raw)
  reason := ingestReason
  payload := fun mapping scanMetadata =>
    [("finding_id", .str (findingRecordId env raw)), ("cve", .ofOption (extractCve raw)),
      ("purl", .ofOption (extractComponentPurl raw)), ("component_name", findingComponentName raw),
      ("component_version", .ofOption (extractComponentVersion raw)),
      ("verified", .bool (raw.field "verified").truthy),
      ("jira_key", .ofOption (extractJiraKey raw)),
      ("scanner", scanMetadata.field "scanner"), ("scan_type", scanMetadata.field "scan_type"),
      ("test_type", scanMetadata.field "test_type"), ("organization_id", .str organizationId),
      ("mapping", .obj [("status", .str mapping.status.value),
        ("asset_id", .ofOption mapping.assetId)]),
      ("scan_metadata", scanMetadata)]

structure DefectDojoIngestResult extends EvidenceResult where
  evidenceRef : String
  mappedAssetId : Option String
  cve : Option String

/-- `DefectDojoBridge.ingest_finding`. -/
def ingestFinding (env : CallEnv) (raw : Json) (organizationId : String) (s : EvidenceStore) :
    Except PyError DefectDojoIngestResult × EvidenceStore :=
  match raw.get "id" with
  | .error e => (.error e, s)
  | .ok _ =>
      let outcome := (findingRecord env raw organizationId).ingest env organizationId s
      (outcome.1.map fun r => ⟨r, r.sourceSnapshot.id, r.mapping.assetId, extractCve raw⟩, outcome.2)

end Reading

end VulnOpsHub
