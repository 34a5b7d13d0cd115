import VulnOpsHub.Intelligence.Batches
import VulnOpsHub.Lib.Canonical
import VulnOpsHub.Lib.Flushing

set_option autoImplicit false

/-! # Persisting advisory records

`intelligence/persistence.py` over the tables of `intelligence/models.py`: vulnerabilities, their
aliases, affected ranges and the assertions of the sources. The ids of the last three are hashes of
their columns. The session does not flush by itself, so a row that was only added is not found
again. -/

namespace VulnOpsHub

namespace Intel

/-! ## Rows -/

structure Vulnerability where
  id : String
  description : Option String
  cvssVector : Option String
  cvssScore : Option ℚ
  aliases : Option (List String)
  modifiedAt : Option Datetime
  updatedAt : Datetime
deriving DecidableEq

structure VulnerabilityAlias where
  id : String
  vulnerabilityId : String
  aliasName : String
  source : Option String
deriving DecidableEq, Repr

structure AffectedRange where
  id : String
  vulnerabilityId : String
  ecosystem : Option String
  purl : Option String
  introduced : Option String
  fixed : Option String
  lastAffected : Option String
  source : String
  confidence : Option String
deriving DecidableEq, Repr

structure AdvisoryAssertion (Content : Type) where
  id : String
  vulnerabilityId : String
  source : String
  sourceSnapshotId : Option String
  content : Option Content
  kev : Option Bool
  epssScore : Option ℚ
  epssPercentile : Option ℚ
  vexStatus : Option String
  retrievedAt : Option Datetime
  sourceUrl : Option String

structure SourceStatus where
  id : String
  source : String
  scope : String
  lastSuccessAt : Option Datetime
  lastCheckedAt : Option Datetime
  lastError : Option String
  freshness : Freshness
  cursor : Option String
  enabled : Bool
deriving DecidableEq, Repr

variable {Content : Type}

instance : Keyed Vulnerability String := ⟨Vulnerability.id⟩
instance : Keyed VulnerabilityAlias String := ⟨VulnerabilityAlias.id⟩
instance : Keyed AffectedRange String := ⟨AffectedRange.id⟩
instance : Keyed (AdvisoryAssertion Content) String := ⟨AdvisoryAssertion.id⟩
instance : Keyed SourceStatus String := ⟨SourceStatus.id⟩

/-- The columns of `uq_vuln_alias`. -/
instance : NaturalKey VulnerabilityAlias (String × String) :=
  ⟨fun a => (a.vulnerabilityId, a.aliasName)⟩

/-- The columns of `uq_source_scope`. -/
instance : NaturalKey SourceStatus (String × String) := ⟨fun s => (s.source, s.scope)⟩

structure IntelDb (Content : Type) where
  vulnerabilities : Table Vulnerability
  aliases : UniqueTable VulnerabilityAlias
  ranges : Table AffectedRange
  assertions : Table (AdvisoryAssertion Content)
  statuses : UniqueTable SourceStatus

def IntelDb.empty : IntelDb Content := ⟨.empty, .empty, .empty, .empty, .empty⟩

/-! ## Statements -/

inductive IntelWrite (Content : Type) where
  | insertVulnerability (row : Vulnerability)
  | insertAlias (row : VulnerabilityAlias)
  | insertRange (row : AffectedRange)
  | insertAssertion (row : AdvisoryAssertion Content)
  | insertStatus (row : SourceStatus)

/-- The rows after a statement; a repeated key is refused. -/
def IntelWrite.apply (db : IntelDb Content) : IntelWrite Content → Option (IntelDb Content)
  | .insertVulnerability row =>
      (db.vulnerabilities.insert row).map fun t => { db with vulnerabilities := t }
  | .insertAlias row => (db.aliases.insert row).map fun t => { db with aliases := t }
  | .insertRange row => (db.ranges.insert row).map fun t => { db with ranges := t }
  | .insertAssertion row => (db.assertions.insert row).map fun t => { db with assertions := t }
  | .insertStatus row => (db.statuses.insert row).map fun t => { db with statuses := t }

abbrev IntelSession (Content : Type) : Type := Unflushed (IntelDb Content) (IntelWrite Content)

/-! ## Vulnerabilities -/

/-- The row that is added for a record. -/
def newVulnerability (now : Datetime) (rec : AdvisoryRecord Content) : Vulnerability where
  id := rec.vulnerabilityId
  description := rec.description
  cvssVector := rec.cvssVector
  cvssScore := rec.cvssScore
  aliases := if rec.aliases = [] then none else some rec.aliases
  modifiedAt := rec.retrievedAt
  updatedAt := now

/-- A stored row that a record refreshes; the aliases are united, in some order. -/
def refreshVulnerability (now : Datetime) (rec : AdvisoryRecord Content) : RowPatch Vulnerability where
  apply := fun row =>
    { row with
      description := (nonEmpty rec.description).or row.description
      cvssVector := (nonEmpty rec.cvssVector).or row.cvssVector
      cvssScore := rec.cvssScore.or row.cvssScore
      aliases := if rec.aliases = [] then row.aliases
        else some ((row.aliases.getD [] ++ rec.aliases).dedup)
      modifiedAt := rec.retrievedAt.or row.modifiedAt
      updatedAt := now }
  key_apply := fun _ => rfl

/-- `_upsert_vulnerability`. -/
def upsertVulnerability (now : Datetime) (s : IntelSession Content) (rec : AdvisoryRecord Content) :
    IntelSession Content :=
  if (s.flushed.vulnerabilities.find? rec.vulnerabilityId).isSome then
    s.change fun db =>
      { db with
        vulnerabilities :=
          db.vulnerabilities.update rec.vulnerabilityId (refreshVulnerability now rec) }
  else s.add (.insertVulnerability (newVulnerability now rec))

section StableIds

variable [Sha256]

/-! ## Stable ids -/

/-- `hashlib.sha256("|".join(parts).encode()).hexdigest()[:16]`. -/
def truncatedDigest (text : String) : String :=
  String.ofList ((Sha256.hexdigest text.toUTF8).toList.take 16)

/-- `_stable_id`. -/
def stableId (tag : String) (parts : List String) : String :=
  tag ++ "_" ++ truncatedDigest ("|".intercalate parts)

/-! ## Aliases -/

/-- The aliases that the loop comes to, after those in `seen`. -/
def distinctAliases (seen : List String) : List String → List String
  | [] => []
  | name :: rest =>
      if name ≠ "" ∧ name ∉ seen then name :: distinctAliases (name :: seen) rest
      else distinctAliases seen rest

def aliasRow (rec : AdvisoryRecord Content) (name : String) : VulnerabilityAlias where
  id := stableId "valias" [rec.vulnerabilityId, name]
  vulnerabilityId := rec.vulnerabilityId
  aliasName := name
  source := some rec.source

/-- The alias is found, by its id or by its columns. -/
def aliasStored (db : IntelDb Content) (row : VulnerabilityAlias) : Bool :=
  (db.aliases.find? row.id).isSome ||
    (db.aliases.byNatural (row.vulnerabilityId, row.aliasName)).isSome

/-- `_upsert_alias`. -/
def upsertAlias (s : IntelSession Content) (row : VulnerabilityAlias) : IntelSession Content :=
  if aliasStored s.flushed row then s else s.add (.insertAlias row)

/-! ## Affected ranges -/

/-- The columns that the id of a range is made of. -/
def rangeParts (rec : AdvisoryRecord Content) (rng : RecordRange) : List String :=
  [rec.vulnerabilityId, rec.source, rng.ecosystem.getD "", rng.purl.getD "", rng.introduced.getD "",
    rng.fixed.getD ""]

def rangeRow (rec : AdvisoryRecord Content) (rng : RecordRange) : AffectedRange where
  id := stableId "rng" (rangeParts rec rng)
  vulnerabilityId := rec.vulnerabilityId
  ecosystem := rng.ecosystem
  purl := rng.purl
  introduced := rng.introduced
  fixed := rng.fixed
  lastAffected := rng.lastAffected
  source := rec.source
  confidence := rng.confidence

def rangeStored (db : IntelDb Content) (row : AffectedRange) : Bool :=
  (db.ranges.find? row.id).isSome

/-- `_upsert_affected_range`. -/
def upsertAffectedRange (s : IntelSession Content) (row : AffectedRange) : IntelSession Content :=
  if rangeStored s.flushed row then s else s.add (.insertRange row)

/-! ## Assertions -/

/-- The row that is added for a record. -/
def newAssertion (rec : AdvisoryRecord Content) : AdvisoryAssertion Content where
  id := stableId "adv" [rec.vulnerabilityId, rec.source]
  vulnerabilityId := rec.vulnerabilityId
  source := rec.source
  sourceSnapshotId := rec.sourceSnapshotId
  content := rec.content
  kev := rec.kev
  epssScore := rec.epssScore
  epssPercentile := rec.epssPercentile
  vexStatus := rec.vexStatus
  retrievedAt := rec.retrievedAt
  sourceUrl := rec.sourceUrl

/-- A stored row that a record refreshes. -/
def refreshAssertion (rec : AdvisoryRecord Content) : RowPatch (AdvisoryAssertion Content) where
  apply := fun row =>
    { row with
      content := rec.content.or row.content
      kev := rec.kev.or row.kev
      epssScore := rec.epssScore.or row.epssScore
      epssPercentile := rec.epssPercentile.or row.epssPercentile
      vexStatus := rec.vexStatus.or row.vexStatus
      retrievedAt := rec.retrievedAt.or row.retrievedAt
      sourceUrl := (nonEmpty rec.sourceUrl).or row.sourceUrl }
  key_apply := fun _ => rfl

/-- The assertion that is found, by its id or else by its columns. -/
def assertionFound (db : IntelDb Content) (rec : AdvisoryRecord Content) :
    Option (AdvisoryAssertion Content) :=
  (db.assertions.find? (newAssertion rec).id).or
    (db.assertions.rows.find? fun row =>
      row.vulnerabilityId = rec.vulnerabilityId ∧ row.source = rec.source)

/-- `_upsert_advisory_assertion`. -/
def upsertAdvisoryAssertion (s : IntelSession Content) (rec : AdvisoryRecord Content) :
    IntelSession Content :=
  match assertionFound s.flushed rec with
  | none => s.add (.insertAssertion (newAssertion rec))
  | some row => s.change fun db =>
      { db with assertions := db.assertions.update row.id (refreshAssertion rec) }

/-! ## Batches -/

/-- The records that are persisted. -/
def validRecords (records : List (AdvisoryRecord Content)) : List (AdvisoryRecord Content) :=
  records.filter fun rec => rec.vulnerabilityId ≠ "" ∧ rec.vulnerabilityId ≠ "unknown"

/-- One round of the second loop. -/
def upsertChildren (s : IntelSession Content) (rec : AdvisoryRecord Content) : IntelSession Content :=
  let s := ((distinctAliases [rec.vulnerabilityId] rec.aliases).map (aliasRow rec)).foldl upsertAlias s
  let s := (rec.affectedRanges.map (rangeRow rec)).foldl upsertAffectedRange s
  upsertAdvisoryAssertion s rec

/-- `upsert_advisory_records`, with the number of records it answers; `none` when the database
    refuses a row. -/
def upsertAdvisoryRecords (now : Datetime) (records : List (AdvisoryRecord Content))
    (s : IntelSession Content) : Option (IntelSession Content × ℕ) :=
  let valid := validRecords records
  let s := valid.foldl (upsertVulnerability now) s
  -- parents are flushed before the rows that refer to them
  let flushed := if valid = [] then some s else s.flush IntelWrite.apply
  flushed.map fun s => (valid.foldl upsertChildren s, valid.length)

/-- An upsert on a session of its own, and its commit. -/
def upsertAndCommit (now : Datetime) (records : List (AdvisoryRecord Content))
    (db : IntelDb Content) : Option (IntelDb Content) := do
  let (s, _) ← upsertAdvisoryRecords now records (.start db)
  let s ← s.commit IntelWrite.apply
  pure s.committed

end StableIds

end Intel

end VulnOpsHub
