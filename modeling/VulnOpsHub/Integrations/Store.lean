import VulnOpsHub.Cases.Service
import VulnOpsHub.Integrations.Mapping
import VulnOpsHub.Lib.UniqueTable
import Mathlib.Logic.Function.Basic

set_option autoImplicit false

/-! # Evidence and its provenance

The rows and files that ingested evidence leaves: a source snapshot with its audit and outbox rows,
written in one commit, and before that the raw bytes under the name of their digest. Both bridges
ingest the same way. -/

namespace VulnOpsHub

/-! ## Rows -/

structure SourceSnapshot where
  id : String
  source : String
  sourceRecordId : String
  contentSha256 : String
  contentSize : ℕ
  objectUri : String
  validationState : String
  adapterVersion : String
  organizationId : String
  correlationId : String
  retrievedAt : Instant
  createdAt : Instant
deriving DecidableEq, Repr

/-- The columns of `uq_snapshot_natural_key`. -/
structure SnapshotKey where
  source : String
  sourceRecordId : String
  contentSha256 : String
deriving DecidableEq, Repr

instance : Keyed SourceSnapshot String := ⟨SourceSnapshot.id⟩
instance : NaturalKey SourceSnapshot SnapshotKey :=
  ⟨fun s => ⟨s.source, s.sourceRecordId, s.contentSha256⟩⟩

/-- The organization an outbox event names. -/
def OutboxEvent.isOf (organizationId : String) (e : OutboxEvent) : Bool :=
  (e.payload.field "organization_id").isOneOf [organizationId]

/-- The files, by their paths. -/
abbrev Files := String → Option ByteArray

structure EvidenceStore where
  snapshots : UniqueTable SourceSnapshot
  auditEvents : Table AuditEvent
  outboxEvents : Table OutboxEvent
  aliases : Table AssetAlias
  files : Files

/-! ## Raw bytes -/

/-- What `validate_organization_id` refuses. -/
def unsafeSegment (value : String) : Bool :=
  strip value = "" || value ∈ [".", ".."] || '/' ∈ value.toList || '\\' ∈ value.toList
    || value.toList.any (·.toNat = 0)

def validateOrganizationId (organizationId : String) : Except PyError String := do
  raiseIf (unsafeSegment organizationId)
    (.valueError "organization_id must be a non-empty path-safe segment")
  pure organizationId

def evidenceLocalPath (organizationId digest : String) : Except PyError String := do
  let segment ← validateOrganizationId organizationId
  pure ("storage/evidence/" ++ segment ++ "/" ++ digest ++ ".json")

theorem validateOrganizationId_eq_ok {organizationId segment : String} :
    validateOrganizationId organizationId = .ok segment ↔
      unsafeSegment organizationId = false ∧ segment = organizationId := by
  simp only [validateOrganizationId, except_bind_eq_ok, raiseIf_eq_ok]
  constructor
  · rintro ⟨u, hsafe, h⟩
    exact ⟨by simpa using hsafe, (Except.ok.inj h).symm⟩
  · rintro ⟨hsafe, rfl⟩
    exact ⟨(), by simpa using hsafe, rfl⟩

/-- The files of two organizations have different paths. -/
theorem evidenceLocalPath_organization {o o' digest digest' path : String}
    (h : evidenceLocalPath o digest = .ok path) (h' : evidenceLocalPath o' digest' = .ok path) :
    o = o' := by
  have hsplit : ∀ {org digest : String}, evidenceLocalPath org digest = .ok path →
      splitHead '/' (path.toList.drop "storage/evidence/".length) = org.toList := by
    intro org digest hlocal
    obtain ⟨segment, hsegment, hpath⟩ := except_bind_eq_ok.1 hlocal
    obtain ⟨hsafe, rfl⟩ := validateOrganizationId_eq_ok.1 hsegment
    have hslash : '/' ∉ segment.toList := by
      intro hmem
      simp [unsafeSegment, hmem] at hsafe
    have hchars : path.toList = "storage/evidence/".toList
        ++ (segment.toList ++ '/' :: (digest.toList ++ ".json".toList)) := by
      rw [← Except.ok.inj hpath]
      simp [String.toList_append]
    rw [hchars, List.drop_left' (by rfl), splitHead_append_cons, splitHead_self hslash]
  have horg : o.toList = o'.toList := (hsplit h).symm.trans (hsplit h')
  exact String.toList_inj.1 horg

section Digests

variable [Sha256]

/-- Write a file that may be there already, with the same content. -/
def writeOnce (mismatch path : String) (rawBytes : ByteArray) (digest : String) (files : Files) :
    Except PyError Files :=
  match files path with
  | some existing =>
      if Sha256.hexdigest existing = digest then .ok files else .error (.runtimeError mismatch)
  | none => .ok (Function.update files path (some rawBytes))

/-- `_write_idempotent`. -/
def writeIdempotent : String → ByteArray → String → Files → Except PyError Files :=
  writeOnce "existing local evidence digest mismatch"

def persistEvidenceBytes (rawBytes : ByteArray) (organizationId digest : String) (files : Files) :
    Except PyError Files := do
  raiseIf (Sha256.hexdigest rawBytes ≠ digest)
    (.valueError "digest does not match raw evidence content")
  let path ← evidenceLocalPath organizationId digest
  writeIdempotent path rawBytes digest files

theorem writeOnce_frame {mismatch path written digest : String} {rawBytes : ByteArray}
    {files files' : Files} (h : writeOnce mismatch written rawBytes digest files = .ok files')
    (hne : path ≠ written) : files' path = files path := by
  unfold writeOnce at h
  split at h
  · split_ifs at h
    rw [← Except.ok.inj h]
  · rw [← Except.ok.inj h, Function.update_of_ne hne]

/-- Whether a file can be written depends on that file alone. -/
theorem writeOnce_congr (mismatch : String) {path digest : String} (rawBytes : ByteArray)
    {files files' : Files} (hfile : files path = files' path) :
    (∃ e, writeOnce mismatch path rawBytes digest files = .error e ∧
        writeOnce mismatch path rawBytes digest files' = .error e) ∨
      ∃ t t', writeOnce mismatch path rawBytes digest files = .ok t ∧
        writeOnce mismatch path rawBytes digest files' = .ok t' ∧ t path = t' path := by
  unfold writeOnce
  rw [hfile]
  cases hcontent : files' path with
  | none => exact Or.inr ⟨_, _, rfl, rfl, by simp⟩
  | some existing =>
      by_cases hsame : Sha256.hexdigest existing = digest
      · simp [hsame, hfile]
      · simp [hsame]

theorem persistEvidenceBytes_frame {rawBytes : ByteArray} {organizationId digest path : String}
    {files files' : Files} (h : persistEvidenceBytes rawBytes organizationId digest files = .ok files')
    (hpath : evidenceLocalPath organizationId digest ≠ .ok path) : files' path = files path := by
  simp only [persistEvidenceBytes, except_bind_eq_ok] at h
  obtain ⟨u, -, written, hwritten, h⟩ := h
  exact writeOnce_frame h fun heq => hpath (heq ▸ hwritten)

/-- `json.dumps(raw, sort_keys=True, separators=(",", ":")).encode()`. -/
def canonicalBytes [Python] (raw : Json) : ByteArray := raw.dumps.toUTF8

/-- The digest of a payload. -/
def canonicalDigest [Python] (raw : Json) : String := Sha256.hexdigest (canonicalBytes raw)

end Digests

/-! ## Ingesting -/

/-- The rows of one commit. -/
structure EvidenceRows where
  snapshot : SourceSnapshot
  audit : AuditEvent
  outbox : OutboxEvent

namespace EvidenceStore

/-- Insert the rows, all or none. -/
def commit (s : EvidenceStore) (rows : EvidenceRows) : Except PyError EvidenceStore := do
  let snapshots ← accepted (s.snapshots.insert rows.snapshot)
  let auditEvents ← accepted (s.auditEvents.insert rows.audit)
  let outboxEvents ← accepted (s.outboxEvents.insert rows.outbox)
  pure { s with snapshots, auditEvents, outboxEvents }

theorem commit_eq_ok {s t : EvidenceStore} {rows : EvidenceRows} :
    s.commit rows = .ok t ↔ s.snapshots.insert rows.snapshot = some t.snapshots ∧
      s.auditEvents.insert rows.audit = some t.auditEvents ∧
      s.outboxEvents.insert rows.outbox = some t.outboxEvents ∧ t.aliases = s.aliases ∧
      t.files = s.files := by
  simp only [commit, except_bind_eq_ok, accepted_eq_ok]
  constructor
  · rintro ⟨snapshots, hsnapshots, audits, haudits, outbox, houtbox, h⟩
    cases h
    exact ⟨hsnapshots, haudits, houtbox, rfl, rfl⟩
  · rintro ⟨hsnapshots, haudits, houtbox, haliases, hfiles⟩
    refine ⟨_, hsnapshots, _, haudits, _, houtbox, ?_⟩
    rw [← haliases, ← hfiles]
    rfl

/-- Fresh rows are committed. -/
theorem commit_of_fresh {s : EvidenceStore} {rows : EvidenceRows}
    (hsnapshot : s.snapshots.Fresh rows.snapshot)
    (haudit : s.auditEvents.find? (Keyed.key rows.audit) = none)
    (houtbox : s.outboxEvents.find? (Keyed.key rows.outbox) = none) :
    ∃ t, s.commit rows = .ok t := by
  cases hsnapshots : s.snapshots.insert rows.snapshot with
  | none => exact absurd hsnapshot (UniqueTable.insert_eq_none.1 hsnapshots)
  | some snapshots =>
      obtain ⟨audits, haudits⟩ := Table.insert_eq_some haudit
      obtain ⟨outbox, houtbox⟩ := Table.insert_eq_some houtbox
      exact ⟨⟨snapshots, audits, outbox, s.aliases, s.files⟩,
        commit_eq_ok.2 ⟨hsnapshots, haudits, houtbox, rfl, rfl⟩⟩

end EvidenceStore

/-- What a bridge makes of a payload. -/
structure EvidenceRecord where
  source : String
  sourceRecordId : String
  raw : Json
  objectUri : String → Json
  actor : String
  action : String
  eventType : String
  mapping : List AssetAlias → Except PyError MappingResult
  scanMetadata : Except PyError Json
  reason : Json → String
  payload : MappingResult → Json → List (String × Json)

/-- What the results of both bridges have in common. -/
structure EvidenceResult where
  sourceSnapshot : SourceSnapshot
  mapping : MappingResult
  scanMetadata : Json

namespace EvidenceRecord

variable [Python] [Driver] [Sha256]

def digest (r : EvidenceRecord) : String := canonicalDigest r.raw

/-- What the duplicate lookup filters by. -/
def key (r : EvidenceRecord) : SnapshotKey := ⟨r.source, r.sourceRecordId, r.digest⟩

/-- The mapping and the scan metadata, which every path needs. -/
def derived (r : EvidenceRecord) (s : EvidenceStore) : Except PyError (MappingResult × Json) := do
  let mapping ← r.mapping s.aliases.rows
  let scanMetadata ← r.scanMetadata
  pure (mapping, scanMetadata)

/-- The rows to commit, as the columns store them. -/
def rows (r : EvidenceRecord) (env : CallEnv) (organizationId : String) (mapping : MappingResult)
    (scanMetadata : Json) : Except PyError EvidenceRows := do
  let sourceRecordId ← accepted (Driver.stored (some 256) (.str r.sourceRecordId))
  let objectUri ← accepted (Driver.stored none (r.objectUri r.digest))
  let organization ← accepted (Driver.stored (some 64) (.str organizationId))
  let reason ← accepted (Driver.stored none (.str (r.reason scanMetadata)))
  let id := env.rowId "ss_" 12 1
  let correlationId := env.uuidStr 2
  pure
    { snapshot :=
        { id := id
          source := r.source
          sourceRecordId := sourceRecordId
          contentSha256 := r.digest
          contentSize := (canonicalBytes r.raw).size
          objectUri := objectUri
          validationState := "valid"
          adapterVersion := "2026.1"
          organizationId := organization
          correlationId := correlationId
          retrievedAt := env.clock 9
          createdAt := env.clock 9 }
      audit := env.audit 3 r.actor r.action "source_snapshot" id correlationId none none (some reason)
        organization
      outbox := env.outbox 4 "evidence" id r.eventType (r.payload mapping scanMetadata) correlationId }

/-- A payload that no snapshot has: the bytes are written, then the rows committed. -/
def ingestNew (r : EvidenceRecord) (env : CallEnv) (organizationId : String)
    (mapping : MappingResult) (scanMetadata : Json) (s : EvidenceStore) :
    Except PyError EvidenceResult × EvidenceStore :=
  match persistEvidenceBytes (canonicalBytes r.raw) organizationId r.digest s.files with
  | .error e => (.error e, s)
  | .ok files =>
      let s := { s with files := files }
      match r.rows env organizationId mapping scanMetadata with
      | .error e => (.error e, s)
      | .ok rows =>
          match s.commit rows with
          | .error e => (.error e, s)
          | .ok s => (.ok ⟨rows.snapshot, mapping, scanMetadata⟩, s)

/-- The part of `ingest_finding` and `ingest_event` that is the same. -/
def ingest (r : EvidenceRecord) (env : CallEnv) (organizationId : String) (s : EvidenceStore) :
    Except PyError EvidenceResult × EvidenceStore :=
  match s.snapshots.byNatural r.key, r.derived s with
  | _, .error e => (.error e, s)
  | some existing, .ok (mapping, scanMetadata) => (.ok ⟨existing, mapping, scanMetadata⟩, s)
  | none, .ok (mapping, scanMetadata) => r.ingestNew env organizationId mapping scanMetadata s

/-- Of the files only the one for the digest may have been written. -/
theorem ingest_files (r : EvidenceRecord) (env : CallEnv) (organizationId : String)
    (s : EvidenceStore) {path : String}
    (hpath : evidenceLocalPath organizationId r.digest ≠ .ok path) :
    (r.ingest env organizationId s).2.files path = s.files path := by
  have hnew : ∀ mapping scanMetadata,
      (r.ingestNew env organizationId mapping scanMetadata s).2.files path = s.files path := by
    intro mapping scanMetadata
    unfold ingestNew
    cases hwrite : persistEvidenceBytes (canonicalBytes r.raw) organizationId r.digest s.files with
    | error e => rfl
    | ok files =>
        have hfiles : files path = s.files path := persistEvidenceBytes_frame hwrite hpath
        cases r.rows env organizationId mapping scanMetadata with
        | error e => exact hfiles
        | ok rows =>
            cases hcommit : EvidenceStore.commit { s with files := files } rows with
            | error e => simpa [hcommit] using hfiles
            | ok t => simpa [hcommit, (EvidenceStore.commit_eq_ok.1 hcommit).2.2.2.2] using hfiles
  unfold ingest
  split
  · rfl
  · rfl
  · exact hnew _ _

end EvidenceRecord

end VulnOpsHub
