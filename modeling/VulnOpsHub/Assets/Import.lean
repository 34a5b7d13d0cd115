import VulnOpsHub.Cases.Service
import VulnOpsHub.Integrations.Mapping
import VulnOpsHub.Lib.Raising

set_option autoImplicit false

/-! # The asset import

`import_assets` reads a CSV file row by row. A row whose hostname is an alias of one asset updates that
asset, a new hostname creates one, and what is ambiguous is skipped. The session flushes nothing on
its own: updates stay pending until the next row that creates an asset or an alias, or the end of the
file, commits them. -/

namespace VulnOpsHub

/-! ## The inventory -/

/-- A row of `assets`. -/
@[ext]
structure InventoryAsset where
  id : String
  name : String
  type : String
  status : String
  environment : Option String
  owner : Option String
  criticality : String
  dataClassification : Option String
  internetExposure : Option String
  organizationId : String
  businessServiceId : Option String
  firstSeen : Option Instant
  lastSeen : Option Instant
  createdAt : Instant
  updatedAt : Instant
deriving DecidableEq, Repr

/-- The columns of a business service that the import reads. -/
structure NamedService where
  id : String
  organizationId : String
  nameNormalized : String
deriving DecidableEq, Repr

instance : Keyed InventoryAsset String := ⟨InventoryAsset.id⟩
instance : Keyed NamedService String := ⟨NamedService.id⟩

structure Inventory where
  assets : Table InventoryAsset
  aliases : Table AssetAlias
  services : Table NamedService

/-! ## Files -/

/-- What `csv.reader` yields for a body: its records, and the error that it raises after them. -/
structure CsvFile where
  records : List (List String)
  fault : Option PyError

/-- `row.get(key)` of a `DictReader`. Of two columns with one name the later one counts, and a record
    that ends before it has `None` there. -/
def csvCell (header record : List String) (key : String) : Option String :=
  (header.zipIdx.reverse.lookup key).bind fun i => record[i]?

/-- `(row.get(key) or "").strip()`. -/
def csvField (header record : List String) (key : String) : String :=
  strip (orElse (csvCell header record key) "")

def validCriticality : List String := ["critical", "high", "medium", "low"]

def validExposure : List String := ["external", "internal", "unknown"]

/-- What a row says. -/
structure HostRow where
  hostname : String
  name : String
  criticality : String
  internetExposure : Option String
  environment : Option String
  ownerColumnPresent : Bool
  owner : Option String
  type : String
  explicitId : Option String
  serviceName : Option String
  ip : String

def hostRow [Python] (header record : List String) : HostRow :=
  let hostname := csvField header record "hostname"
  let criticality := Python.lower (strip (orElse (csvCell header record "criticality") "medium"))
  let internetExposure := Python.lower (csvField header record "internet_exposure")
  let service := orElse (csvCell header record "service")
    (orElse (csvCell header record "service_name") "")
  { hostname
    name := orElse (some (csvField header record "name")) hostname
    criticality := if criticality ∈ validCriticality then criticality else "medium"
    internetExposure := if internetExposure ∈ validExposure then some internetExposure else none
    environment := nonEmpty (some (csvField header record "environment"))
    ownerColumnPresent := "owner" ∈ header
    owner := if "owner" ∈ header then nonEmpty (some (csvField header record "owner")) else none
    type := orElse (some (strip (orElse (csvCell header record "type") "host"))) "host"
    explicitId := nonEmpty (some (csvField header record "business_service_id"))
    serviceName := nonEmpty (some (strip service))
    ip := csvField header record "ip" }

/-! ## Lookups -/

section Lookups

variable [Driver]

/-- The service of the organization with that id. -/
def serviceWithId (services : Table NamedService) (organizationId : String)
    (explicitId : Option String) : Except PyError (Option String) :=
  (nonEmpty explicitId).elim (.ok none) fun id => do
    let org ← accepted (Driver.compared (.str organizationId))
    let key ← accepted (Driver.compared (.str id))
    pure (((services.find? key).filter (·.organizationId = org)).map NamedService.id)

/-- The services of an organization with a name. -/
def servicesNamed (services : Table NamedService) (organizationId name : String) : List String :=
  (services.rows.filter fun s => s.organizationId = organizationId && s.nameNormalized = name).map
    NamedService.id

variable [Python]

/-- The service of the organization with that name. -/
def serviceWithName (services : Table NamedService) (organizationId : String)
    (serviceName : Option String) : Except PyError (Option String) :=
  (nonEmpty serviceName).elim (.ok none) fun name => do
    let org ← accepted (Driver.compared (.str organizationId))
    let key ← accepted (Driver.compared (.str (Python.casefold name)))
    let found := servicesNamed services org key
    raiseIf (1 < found.length) (.valueError "ambiguous business service name")
    pure found.head?

/-- `_resolve_business_service_id`. -/
def resolveBusinessServiceId (services : Table NamedService) (organizationId : String)
    (explicitId serviceName : Option String) : Except PyError (Option String) := do
  let resolved ← serviceWithId services organizationId explicitId
  if (nonEmpty resolved).isSome then pure resolved
  else serviceWithName services organizationId serviceName

/-- `reconcile_alias("hostname", hostname, organization_id=org_id)`. -/
def reconcileHost (aliases : Table AssetAlias) (organizationId hostname : String) :
    Except PyError MappingResult := do
  let _ ← accepted (Driver.compared (.str organizationId))
  reconcileAlias aliases.rows (.str "hostname") (.str hostname) (some organizationId)

omit [Python] in
/-- The alias that an asset has for an address. -/
def ipAlias (aliases : Table AssetAlias) (organizationId assetId ip : String) :
    Except PyError (Option String) := do
  let org ← accepted (Driver.compared (.str organizationId))
  let value ← accepted (Driver.compared (.str ip))
  pure ((aliases.rows.find? fun a => a.assetId = assetId && a.aliasNamespace = "ip" &&
    a.value = value && a.organizationId = org).map AssetAlias.id)

end Lookups

/-! ## The session -/

/-- An entry of `skipped_details`. -/
structure SkippedRow where
  row : ℕ
  reason : String
  service : Option String
  hostname : Option String
deriving DecidableEq, Repr

/-- The answer of the import. -/
structure ImportAnswer where
  created : ℕ
  updated : ℕ
  skipped : ℕ
  skippedDetails : List SkippedRow
  total : ℕ
deriving DecidableEq, Repr

/-- A session in the middle of an import: what is stored, the assets as the session sees them, the
    number of ids drawn, and the counters. -/
structure ImportState where
  stored : Inventory
  assets : Table InventoryAsset
  drawn : ℕ
  answer : ImportAnswer

/-- The columns of an asset that hold text, with their widths. -/
def InventoryAsset.texts (a : InventoryAsset) : List (String × ℕ × Option String) :=
  [("id", 64, some a.id), ("name", 256, some a.name), ("type", 64, some a.type),
    ("status", 32, some a.status), ("environment", 64, a.environment), ("owner", 128, a.owner),
    ("criticality", 32, some a.criticality), ("data_classification", 32, a.dataClassification),
    ("internet_exposure", 32, a.internetExposure), ("organization_id", 64, some a.organizationId),
    ("business_service_id", 64, a.businessServiceId)]

/-- What a flush makes of an asset: `onupdate` sets `updated_at` where a column has changed, or was set
    on a row whose columns had expired. -/
def flushedAsset (stored : Table InventoryAsset) (expired : Option String) (now : Instant)
    (a : InventoryAsset) : InventoryAsset :=
  if stored.find? a.id = some a ∧ expired ≠ some a.id then a else { a with updatedAt := now }

theorem flushedAsset_id (stored : Table InventoryAsset) (expired : Option String) (now : Instant)
    (a : InventoryAsset) : (flushedAsset stored expired now a).id = a.id := by
  unfold flushedAsset
  split_ifs <;> rfl

section Session

variable [Driver]

def storable (width : ℕ) (value : Option String) : Bool :=
  value.all fun s => (Driver.stored (some width) (.str s)).isSome

/-- Whether the database takes the columns of an asset that differ from the stored row. -/
def InventoryAsset.writable (old : Option InventoryAsset) (a : InventoryAsset) : Bool :=
  a.texts.all fun column =>
    old.any (column ∈ ·.texts) || storable column.2.1 column.2.2

def AssetAlias.writable (a : AssetAlias) : Bool :=
  storable 64 (some a.id) && storable 64 (some a.assetId) && storable 64 (some a.aliasNamespace) &&
    storable 512 (some a.value) && storable 64 (some a.organizationId)

namespace ImportState

/-- `session.commit()`, with an alias that has been added. -/
def commit (now : Instant) (expired : Option String) (added : Option AssetAlias) (s : ImportState) :
    Option ImportState :=
  if s.assets.rows.all fun a => a.writable (s.stored.assets.find? a.id) then
    (added.elim (some s.stored.aliases) fun a =>
        if a.writable then s.stored.aliases.insert a else none).map fun aliases =>
      let assets := s.assets.project (flushedAsset s.stored.assets expired now)
        (flushedAsset_id s.stored.assets expired now)
      { s with stored := ⟨assets, aliases, s.stored.services⟩, assets }
  else none

def skip (detail : SkippedRow) (s : ImportState) : ImportState :=
  { s with answer :=
      { s.answer with
        skipped := s.answer.skipped + 1
        skippedDetails := s.answer.skippedDetails ++ [detail] } }

/-- `total += 1`. -/
def count (s : ImportState) : ImportState :=
  { s with answer := { s.answer with total := s.answer.total + 1 } }

def countCreated (s : ImportState) : ImportState :=
  { s with answer := { s.answer with created := s.answer.created + 1 } }

def countUpdated (s : ImportState) : ImportState :=
  { s with answer := { s.answer with updated := s.answer.updated + 1 } }

/-- The assets as the session sees them after a change of one of them. -/
def assign (id : String) (p : RowPatch InventoryAsset) (s : ImportState) : ImportState :=
  { s with assets := s.assets.update id p }

end ImportState

/-- An import: the organization of its path, which is not empty, and what it draws. -/
structure ImportCall where
  organizationId : String
  env : CallEnv
  organizationId_ne : organizationId ≠ ""

namespace ImportCall

variable (c : ImportCall)

/-- The asset that `create_asset` adds. -/
def newAsset (row : HostRow) (serviceId : Option String) (drawn : ℕ) : InventoryAsset where
  id := c.env.rowId "ast_" 8 drawn
  name := row.name
  type := row.type
  status := "active"
  environment := row.environment
  owner := row.owner
  criticality := row.criticality
  dataClassification := none
  internetExposure := none
  organizationId := c.organizationId
  businessServiceId := serviceId
  firstSeen := none
  lastSeen := none
  createdAt := c.env.clock drawn
  updatedAt := c.env.clock drawn

/-- `create_asset`. -/
def createAsset (row : HostRow) (serviceId : Option String) : Raising ImportState PyError String := do
  let s ← .get
  let asset := c.newAsset row serviceId s.drawn
  .change (fun s => (s.assets.insert asset).bind fun assets =>
    { s with assets, drawn := s.drawn + 1 }.commit (c.env.clock s.drawn) none none) .databaseError
  pure asset.id

/-- The alias that `add_alias` adds. -/
def newAlias (assetId ns value : String) (drawn : ℕ) : AssetAlias :=
  ⟨c.env.rowId "alias_" 8 drawn, assetId, ns, value, c.organizationId⟩

/-- `add_alias`. Its commit also writes what has been set on the asset that has expired. -/
def addAlias (assetId ns value : String) (expired : Option String) :
    Raising ImportState PyError Unit :=
  .change (fun s => { s with drawn := s.drawn + 1 }.commit (c.env.clock s.drawn) expired
    (some (c.newAlias assetId ns value s.drawn))) .databaseError

end ImportCall

/-- `asset.internet_exposure = internet_exposure`. -/
def exposurePatch (internetExposure : Option String) : RowPatch InventoryAsset where
  apply a := { a with internetExposure }
  key_apply _ := rfl

/-- What a row sets on the asset that its hostname names. -/
def HostRow.patch (row : HostRow) (serviceId : Option String) : RowPatch InventoryAsset where
  apply a :=
    { a with
      criticality := row.criticality
      environment := (nonEmpty row.environment).or a.environment
      owner := if row.ownerColumnPresent then row.owner else a.owner
      businessServiceId := (nonEmpty serviceId).or a.businessServiceId
      internetExposure := (nonEmpty row.internetExposure).or a.internetExposure }
  key_apply _ := rfl

/-! ## The import -/

namespace ImportCall

variable [Python] (c : ImportCall)

/-- The address of a row is kept as an alias. -/
def observeIp (assetId ip : String) : Raising ImportState PyError Unit := do
  if ip = "" then pure ()
  else
    let s ← .get
    let seen ← .ofExcept (ipAlias s.stored.aliases c.organizationId assetId ip)
    if (nonEmpty seen).isSome then pure () else c.addAlias assetId "ip" ip none

/-- The branch for a hostname that names one asset. -/
def updateHost (row : HostRow) (serviceId assetId : Option String) :
    Raising ImportState PyError Unit := do
  let s ← .get
  (assetId.bind s.assets.find?).elim (.raise .attributeError) fun asset => do
    .modify (·.assign asset.id (row.patch serviceId))
    .modify .countUpdated
    c.observeIp asset.id row.ip

/-- The branch for a hostname that names none. -/
def createHost (row : HostRow) (serviceId : Option String) : Raising ImportState PyError Unit := do
  let id ← c.createAsset row serviceId
  .modify (·.assign id (exposurePatch row.internetExposure))
  c.addAlias id "hostname" row.hostname (some id)
  .modify .countCreated
  c.observeIp id row.ip

/-- What follows once the service of a row is known. -/
def importHost (row : HostRow) (number : ℕ) (serviceId : Option String) :
    Raising ImportState PyError Unit := do
  let s ← .get
  let result ← .ofExcept (reconcileHost s.stored.aliases c.organizationId row.hostname)
  match result.status with
  | .ambiguous => .modify (.skip ⟨number, result.reason, none, some row.hostname⟩)
  | .resolved => c.updateHost row serviceId result.assetId
  | _ => c.createHost row serviceId

/-- The body of the loop. -/
def importRow (header record : List String) (number : ℕ) : Raising ImportState PyError Unit := do
  let row := hostRow header record
  if row.hostname = "" then .modify (.skip ⟨number, "empty hostname", none, none⟩)
  else
    .modify .count
    let s ← .get
    match resolveBusinessServiceId s.stored.services c.organizationId row.explicitId
        row.serviceName with
    | .error (.valueError reason) => .modify (.skip ⟨number, reason, row.serviceName, none⟩)
    | .error e => .raise e
    | .ok serviceId => c.importHost row number serviceId

def importRows (header : List String) :
    List (List String × ℕ) → Raising ImportState PyError Unit
  | [] => pure ()
  | (record, number) :: rest => do
      c.importRow header record number
      importRows header rest

end ImportCall

def ImportAnswer.empty : ImportAnswer := ⟨0, 0, 0, [], 0⟩

/-- The session that an import opens. -/
def Inventory.opened (inv : Inventory) : ImportState := ⟨inv, inv.assets, 0, .empty⟩

/-- `[f.strip().lower() for f in reader.fieldnames]`. -/
def fieldnames [Python] (header : List String) : List String :=
  header.map fun f => Python.lower (strip f)

/-- The rows of a `DictReader`, which passes over blank lines, with their numbers. -/
def dataRows (records : List (List String)) : List (List String × ℕ) :=
  (records.filter (· ≠ [])).zipIdx 2

namespace ImportCall

variable [Python] (c : ImportCall)

/-- The loop, and the commit after it. -/
def importFile (header : List String) (file : CsvFile) (records : List (List String)) :
    Raising ImportState PyError ImportAnswer := do
  c.importRows header (dataRows records)
  file.fault.elim (pure ()) .raise
  .change (fun s => s.commit (c.env.clock s.drawn) none none) .databaseError
  let s ← .get
  pure { s.answer with skippedDetails := s.answer.skippedDetails.take 20 }

/-- `import_assets`. What has not been committed when it raises is lost. -/
def importAssets (file : CsvFile) (inv : Inventory) : Except PyError ImportAnswer × Inventory :=
  match file.records with
  | [] => (file.fault.elim (.ok .empty) .error, inv)
  | header :: records =>
      if header = [] then (.ok .empty, inv)
      else if "hostname" ∉ fieldnames header then
        (.ok { ImportAnswer.empty with
          skippedDetails := [⟨1, "missing required 'hostname' column", none, none⟩] }, inv)
      else
        let (r, s) := c.importFile (fieldnames header) file records inv.opened
        (r, s.stored)

end ImportCall

end Session

end VulnOpsHub
