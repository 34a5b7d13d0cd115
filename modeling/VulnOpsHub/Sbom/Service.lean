import VulnOpsHub.Integrations.Store
import VulnOpsHub.Sbom.Parser

set_option autoImplicit false

/-! # Ingesting bills of materials

`SBOMService.ingest`: the raw document goes to the object store, then one transaction inserts the
snapshot, the outbox and audit rows, the document and its components. -/

namespace VulnOpsHub

namespace Sbom

/-! ## Rows -/

structure SbomDocument where
  id : String
  organizationId : String
  serialNumber : Option String
  version : Option ℤ
  format : String
  specVersion : Option String
  contentSha256 : String
  contentSize : ℕ
  objectUri : String
  parserVersion : String
  validationState : String
  createdAt : Instant
deriving DecidableEq, Repr

/-- The columns of an occurrence that hold what was parsed. -/
structure ComponentFields where
  purl : Option String
  ecosystem : Option String
  normalizedName : Option String
  rawName : String
  rawVersion : Option String
  cpe : Option String
  versionScheme : Option String
deriving DecidableEq, Repr

structure Component where
  id : String
  purl : Option String
  ecosystem : Option String
  normalizedName : Option String
  rawName : String
  rawVersion : Option String
  cpe : Option String
  createdAt : Instant
deriving DecidableEq, Repr

structure ComponentOccurrence where
  id : String
  sbomId : String
  componentId : Option String
  assetId : Option String
  fields : ComponentFields
  source : String
  evidenceRef : Option String
  createdAt : Instant
deriving DecidableEq, Repr

instance : Keyed SbomDocument String := ⟨SbomDocument.id⟩
instance : Keyed Component String := ⟨Component.id⟩
instance : Keyed ComponentOccurrence String := ⟨ComponentOccurrence.id⟩

/-- The columns of `uq_sbom_digest_org`. -/
instance : NaturalKey SbomDocument (String × String) :=
  ⟨fun d => (d.contentSha256, d.organizationId)⟩

structure SbomStore extends EvidenceStore where
  documents : UniqueTable SbomDocument
  components : Table Component
  occurrences : Table ComponentOccurrence
  objects : Files

/-! ## Object storage -/

/-- `object_storage_config_state`. -/
inductive StorageState where
  | disabled
  | enabled
  | incomplete
deriving DecidableEq, Repr

/-- The settings of the object store; where the service behind it raises, it does so on every
    request of a call. -/
structure StorageSettings where
  bucket : String
  state : StorageState
  localMirror : Bool
  failure : Option PyError

def sbomObjectKey (organizationId digest : String) : Except PyError String := do
  let segment ← validateOrganizationId organizationId
  pure ("sbom/" ++ segment ++ "/" ++ digest ++ ".json")

def objectUri (bucket key : String) : String := "s3://" ++ bucket ++ "/" ++ key

/-- `_local_sbom_path`, from the key. -/
def localSbomPath (key : String) : String := "storage/" ++ key

section Storage

variable [Sha256]

/-- `put_sbom_object` behind its checks, with the object store and the files. -/
def putObject (settings : StorageSettings) (key : String) (rawBytes : ByteArray) (digest : String)
    (objects files : Files) : Except PyError (Files × Files) := do
  settings.failure.elim (.ok ()) fun e => raiseIf (settings.state = .enabled) e
  let objects :=
    if settings.state = .enabled then
      Function.update objects (objectUri settings.bucket key) (some rawBytes)
    else objects
  if settings.state ≠ .enabled ∨ settings.localMirror then do
    let files ← writeOnce "existing local SBOM digest mismatch" (localSbomPath key) rawBytes digest
      files
    pure (objects, files)
  else pure (objects, files)

/-- `persist_sbom_raw_bytes`: the URI, the objects and the files. -/
def persistSbomRawBytes (settings : StorageSettings) (rawBytes : ByteArray)
    (organizationId digest : String) (objects files : Files) :
    Except PyError (String × Files × Files) := do
  raiseIf (digest ≠ Sha256.hexdigest rawBytes)
    (.valueError "digest does not match raw_bytes content")
  raiseIf (settings.state = .incomplete)
    (.runtimeError ("OBJECT_STORAGE_ENDPOINT, ACCESS_KEY, and SECRET_KEY must all be set "
      ++ "together or left unset; partial configuration is not allowed"))
  let key ← sbomObjectKey organizationId digest
  let (objects, files) ← putObject settings key rawBytes digest objects files
  pure (objectUri settings.bucket key, objects, files)

end Storage

/-! ## One call -/

structure SbomCall where
  env : CallEnv
  raw : Json
  organizationId : String
  correlationId : Option String
  idempotencyKey : Option String

/-- What `ingest` returns. -/
structure SubmissionResult where
  sbomId : String
  submissionId : String
  contentSha256 : String
  status : String
  receivedAt : Instant
deriving DecidableEq, Repr

namespace SbomCall

def sbomId (c : SbomCall) : String := c.env.rowId "sbom_" 12 0

def snapshotId (c : SbomCall) : String := c.env.rowId "ss_" 12 1

def componentId (c : SbomCall) (i : ℕ) : String := c.env.rowId "comp_" 12 (6 + 2 * i)

def occurrenceId (c : SbomCall) (i : ℕ) : String := c.env.rowId "occ_" 12 (7 + 2 * i)

end SbomCall

/-- The host that a document declares for its asset. -/
def declaredHostname (raw : Json) : Option String :=
  ((raw.field "metadata").field "properties").items.findSome? fun property =>
    if (property.field "name").isOneOf ["vulnops:asset.hostname"] then
      (property.field "value").stripped?
    else none

/-- The value of a column that may be absent. -/
def storedOption [Driver] (width : Option ℕ) : Json → Except PyError (Option String)
  | .null => .ok none
  | value => (accepted (Driver.stored width value)).map some

section Ingest

variable [Python] [Driver]

/-- `_declared_asset_id`. -/
def declaredAssetId (aliases : List AssetAlias) (raw : Json) (organizationId : String) :
    Except PyError (Option String) :=
  (declaredHostname raw).elim (.ok none) fun hostname => do
    let result ← reconcileAlias aliases (.str "hostname") (.str hostname) (some organizationId)
    pure (if result.status = .resolved then result.assetId else none)

/-- The columns a parsed component is stored in. -/
def storedFields (pc : ParsedComponent) : Except PyError ComponentFields := do
  let purl ← storedOption none pc.purl
  let ecosystem ← storedOption (some 64) (.ofOption pc.ecosystem)
  let normalizedName ← storedOption (some 512) pc.normalizedName
  let rawName ← accepted (Driver.stored (some 512) pc.rawName)
  let rawVersion ← storedOption (some 128) pc.rawVersion
  let cpe ← storedOption none pc.cpe
  let versionScheme ← storedOption (some 32) (.ofOption pc.versionScheme)
  pure ⟨purl, ecosystem, normalizedName, rawName, rawVersion, cpe, versionScheme⟩

/-- `parsed.serial_number or ... or sbom_id`. -/
def serialOf (c : SbomCall) (parsed : ParsedSbom) : Json :=
  ((parsed.serialNumber.or (parsed.raw.field "serialNumber")).or
    (parsed.raw.field "documentNamespace")).or (.str c.sbomId)

/-- `parsed.raw.get("version") if isinstance(..., int) else None`. -/
def storedVersion : Json → Except PyError (Option ℤ)
  | .int n => (accepted (Driver.storedInt (.int n))).map some
  | .bool b => (accepted (Driver.storedInt (.bool b))).map some
  | _ => .ok none

variable [Sha256]

def SbomCall.digest (c : SbomCall) : String := canonicalDigest c.raw

/-- The rows of the document itself. -/
def documentRows (c : SbomCall) (parsed : ParsedSbom) (uri : String) :
    Except PyError (EvidenceRows × SbomDocument) := do
  let serial := pyStr (serialOf c parsed)
  let recordId ← accepted (Driver.stored (some 256) (.str serial))
  let organization ← accepted (Driver.stored (some 64) (.str c.organizationId))
  let correlationId ← accepted (Driver.stored (some 64) (.str
    (((nonEmpty c.correlationId).or (nonEmpty c.idempotencyKey)).getD (c.env.uuidStr 2))))
  let serialNumber ← accepted (Driver.stored (some 256)
    (.str (String.ofList (serial.toList.take 256))))
  let version ← storedVersion (parsed.raw.field "version")
  let specVersion ← accepted (Driver.stored (some 32) (.str parsed.specVersion))
  pure
    ({ snapshot :=
        { id := c.snapshotId
          source := "sbom"
          sourceRecordId := recordId
          contentSha256 := c.digest
          contentSize := (canonicalBytes c.raw).size
          objectUri := uri
          validationState := "valid"
          adapterVersion := "2026.1"
          organizationId := organization
          correlationId := correlationId
          retrievedAt := c.env.clock 9
          createdAt := c.env.clock 9 }
       audit := c.env.audit 4 "system" "sbom.ingested" "sbom" c.sbomId correlationId none none
        (some "sbom ingestion") organization
       outbox := c.env.outbox 3 "sbom" c.sbomId "vulnops.sbom.processed.v1"
        [("sbom_id", .str c.sbomId), ("organization_id", .str c.organizationId),
          ("content_sha256", .str c.digest), ("format", .str parsed.format),
          ("component_count", .int parsed.components.length)] correlationId },
     { id := c.sbomId
       organizationId := organization
       serialNumber := some serialNumber
       version := version
       format := parsed.format
       specVersion := some specVersion
       contentSha256 := c.digest
       contentSize := (canonicalBytes c.raw).size
       objectUri := uri
       parserVersion := "2026.1"
       validationState := "valid"
       createdAt := c.env.clock 9 })

def componentRow (c : SbomCall) (i : ℕ) (purl : Option String) (fields : ComponentFields) :
    Component where
  id := c.componentId i
  purl := purl
  ecosystem := fields.ecosystem
  normalizedName := fields.normalizedName
  rawName := fields.rawName
  rawVersion := fields.rawVersion
  cpe := fields.cpe
  createdAt := c.env.clock 9

/-- The component of an occurrence, which other documents may share by its purl; without a purl, or
    with an empty one, the component is one of its own, and has none. -/
def componentFor (c : SbomCall) (i : ℕ) (purl : Json) (fields : ComponentFields)
    (components : Table Component) : Except PyError (String × Table Component) := do
  let existing ←
    (if purl.truthy then do
      let text ← accepted (Driver.compared purl)
      pure (components.rows.find? fun component => component.purl = some text)
    else pure none)
  existing.elim
    (do
      let row := componentRow c i (if purl.truthy then fields.purl else none) fields
      let components ← accepted (components.insert row)
      pure (c.componentId i, components))
    fun component => .ok (component.id, components)

def occurrenceRow (c : SbomCall) (assetId : Option String) (i : ℕ) (fields : ComponentFields)
    (componentId : Option String) : ComponentOccurrence where
  id := c.occurrenceId i
  sbomId := c.sbomId
  componentId := componentId
  assetId := assetId
  fields := fields
  source := "sbom"
  evidenceRef := some c.snapshotId
  createdAt := c.env.clock 9

/-- A round of the loop over the parsed components. -/
def addComponent (c : SbomCall) (assetId : Option String) (i : ℕ) (pc : ParsedComponent)
    (s : SbomStore) : Except PyError SbomStore := do
  let fields ← storedFields pc
  let (componentId, components) ← componentFor c i pc.purl fields s.components
  let occurrences ← accepted (s.occurrences.insert
    (occurrenceRow c assetId i fields (some componentId)))
  pure { s with components := components, occurrences := occurrences }

def addComponents (c : SbomCall) (assetId : Option String) :
    ℕ → List ParsedComponent → SbomStore → Except PyError SbomStore
  | _, [], s => .ok s
  | i, pc :: rest, s => do
      let s ← addComponent c assetId i pc s
      addComponents c assetId (i + 1) rest s

/-- The transaction of `ingest`. -/
def insertSbom (c : SbomCall) (parsed : ParsedSbom) (assetId : Option String) (uri : String)
    (s : SbomStore) : Except PyError SbomStore := do
  let (rows, document) ← documentRows c parsed uri
  let evidence ← s.toEvidenceStore.commit rows
  let documents ← accepted (s.documents.insert document)
  addComponents c assetId 0 parsed.components
    { s with toEvidenceStore := evidence, documents := documents }

/-- What `ingest` reads before it writes anything. -/
def readSbom (c : SbomCall) (s : SbomStore) : Except PyError (ParsedSbom × Option String) := do
  let parsed ← parse c.raw
  let assetId ← declaredAssetId s.aliases.rows c.raw c.organizationId
  pure (parsed, assetId)

/-- A document that the organization has not submitted before. -/
def ingestNew (settings : StorageSettings) (c : SbomCall) (parsed : ParsedSbom)
    (assetId : Option String) (s : SbomStore) : Except PyError SubmissionResult × SbomStore :=
  match persistSbomRawBytes settings (canonicalBytes c.raw) c.organizationId c.digest s.objects
      s.files with
  | .error e => (.error e, s)
  | .ok (uri, objects, files) =>
      let s := { s with objects := objects, files := files }
      match insertSbom c parsed assetId uri s with
      | .error e => (.error e, s)
      | .ok t => (.ok ⟨c.sbomId, c.env.rowId "sub_" 8 5, c.digest, "accepted", c.env.clock 10⟩, t)

/-- `SBOMService.ingest`. -/
def ingest (settings : StorageSettings) (c : SbomCall) (s : SbomStore) :
    Except PyError SubmissionResult × SbomStore :=
  match s.documents.byNatural (c.digest, c.organizationId) with
  | some existing =>
      (.ok ⟨existing.id, "sub_" ++ existing.id, c.digest, "accepted", existing.createdAt⟩, s)
  | none =>
      match readSbom c s with
      | .error e => (.error e, s)
      | .ok (parsed, assetId) => ingestNew settings c parsed assetId s

end Ingest

end Sbom

end VulnOpsHub
