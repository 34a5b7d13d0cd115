import Mathlib
import VulnOpsHub.Api.Cases
import VulnOpsHub.Integrations.Replay
import VulnOpsHub.Lib.Raising
import VulnOpsHub.Sbom.RawBytes
import VulnOpsHub.Workers.Pipeline

set_option autoImplicit false

/-! # Raw evidence

`api/evidence.py`: the provenance of a snapshot, and the raw document behind a snapshot or a bill of
materials. The URI of a finding is whatever the finding says, and may name an object of another
organization; what is read by it is compared with the digest of the row. So an organization is given
its own documents only, in every run of the pipeline (`raw_evidence_own`), and is given them as they
came in (`raw_evidence_comes_back`). -/

namespace VulnOpsHub

open Sbom

deriving instance DecidableEq for RawCall

/-! ## The routes -/

/-- What the provenance of a snapshot says. -/
structure SnapshotMetadata where
  id : String
  organizationId : String
  source : String
  sourceRecordId : String
  contentSha256 : String
  contentSize : ℕ
  validationState : String
  retrievedAt : String
  createdAt : String
  objectUri : Option String
deriving DecidableEq, Repr

inductive EvidenceRequest where
  | sourceSnapshot (snapshotId : String)
  | sourceSnapshotRaw (snapshotId : String)
  | sbomRaw (sbomId : String)
deriving DecidableEq, Repr

inductive EvidenceReply where
  | metadata (snapshot : SnapshotMetadata)
  | raw (content : ByteArray) (headers : List (String × String))
  | problem (p : Problem)
  | raised (e : ReadError)
deriving DecidableEq

/-- The headers of a raw document. -/
def rawHeaders (digest : String) : List (String × String) :=
  [("Cache-Control", "private, no-store"),
    ("Content-Disposition", "attachment; filename=\"" ++ digest ++ ".json\""),
    ("X-Content-Type-Options", "nosniff")]

def EvidenceReply.notFound : EvidenceReply := .problem AuthorizationError.resourceNotFound.problem

/-- The answer of the rest, once a check has passed. -/
def EvidenceReply.after (check : Except AuthorizationError Principal) (rest : EvidenceReply) :
    EvidenceReply :=
  match check with
  | .ok _ => rest
  | .error e => .problem e.problem

/-- `_load_snapshot`. -/
def loadSnapshot (s : SbomStore) (orgId snapshotId : String) : Option SourceSnapshot :=
  (s.snapshots.find? snapshotId).filter fun snapshot => snapshot.organizationId = orgId

/-- `_load_sbom`. -/
def loadSbom (s : SbomStore) (orgId sbomId : String) : Option SbomDocument :=
  (s.documents.find? sbomId).filter fun doc => doc.organizationId = orgId

section Routes

variable [Python]

/-- `_snapshot_metadata`. -/
def snapshotMetadata (snapshot : SourceSnapshot) (includeObjectUri : Bool) : SnapshotMetadata where
  id := snapshot.id
  organizationId := snapshot.organizationId
  source := snapshot.source
  sourceRecordId := snapshot.sourceRecordId
  contentSha256 := snapshot.contentSha256
  contentSize := snapshot.contentSize
  validationState := snapshot.validationState
  retrievedAt := Python.isoformat (Datetime.utc snapshot.retrievedAt)
  createdAt := Python.isoformat (Datetime.utc snapshot.createdAt)
  objectUri := if includeObjectUri then some snapshot.objectUri else none

/-- `get_source_snapshot`. -/
def getSourceSnapshot (r : RouteCall) (snapshotId : String) (s : SbomStore) : EvidenceReply :=
  .after (requireOrganization r.orgId r.principal) <|
    match loadSnapshot s r.orgId snapshotId with
    | none => .notFound
    | some snapshot =>
        .after (authorizeCapability r.principal "provenance:read") <|
          .metadata (snapshotMetadata snapshot (r.principal.hasCapability "evidence:raw:read"))

variable [Sha256] [UrlHost]

omit [Python] [UrlHost] in
/-- `_raw_response`. -/
def rawResponse (rawBytes : ByteArray) (digest : String) : EvidenceReply :=
  if Sha256.hexdigest rawBytes ≠ digest then .notFound else .raw rawBytes (rawHeaders digest)

/-- What both raw routes do with the row they have loaded. -/
def answerRaw (settings : StorageSettings) (r : RouteCall) (digest uri : String) (s : SbomStore) :
    EvidenceReply :=
  .after (authorizeCapability r.principal "evidence:raw:read") <|
    match readRawBytes settings s.objects s.files r.orgId digest (some uri) with
    | .error e => .raised e
    | .ok none => .notFound
    | .ok (some rawBytes) => rawResponse rawBytes digest

/-- `get_source_snapshot_raw`. -/
def getSourceSnapshotRaw (settings : StorageSettings) (r : RouteCall) (snapshotId : String)
    (s : SbomStore) : EvidenceReply :=
  .after (requireOrganization r.orgId r.principal) <|
    match loadSnapshot s r.orgId snapshotId with
    | none => .notFound
    | some snapshot => answerRaw settings r snapshot.contentSha256 snapshot.objectUri s

/-- `get_sbom_raw`. -/
def getSbomRaw (settings : StorageSettings) (r : RouteCall) (sbomId : String) (s : SbomStore) :
    EvidenceReply :=
  .after (requireOrganization r.orgId r.principal) <|
    match loadSbom s r.orgId sbomId with
    | none => .notFound
    | some doc => answerRaw settings r doc.contentSha256 doc.objectUri s

def EvidenceRequest.answer (settings : StorageSettings) (r : RouteCall) (s : SbomStore) :
    EvidenceRequest → EvidenceReply
  | .sourceSnapshot snapshotId => getSourceSnapshot r snapshotId s
  | .sourceSnapshotRaw snapshotId => getSourceSnapshotRaw settings r snapshotId s
  | .sbomRaw sbomId => getSbomRaw settings r sbomId s

end Routes

/-! ## The archive -/

/-- The columns by which a raw document is found. -/
structure RawRow where
  organizationId : String
  digest : String
  uri : String
  source : String
deriving DecidableEq, Repr

def SourceSnapshot.rawRow (s : SourceSnapshot) : RawRow :=
  ⟨s.organizationId, s.contentSha256, s.objectUri, s.source⟩

def Sbom.SbomDocument.rawRow (d : SbomDocument) : RawRow :=
  ⟨d.organizationId, d.contentSha256, d.objectUri, "sbom"⟩

namespace Sbom

def SbomStore.rawRows (s : SbomStore) : List RawRow :=
  s.snapshots.rows.map SourceSnapshot.rawRow ++ s.documents.rows.map SbomDocument.rawRow

section Archive

variable [Sha256]

/-- The row that a call leaves. -/
structure RawCall.Enters (settings : StorageSettings) (call : RawCall) (row : RawRow) : Prop where
  organizationId : row.organizationId = call.organizationId
  digest : row.digest = call.digest
  source : row.source = "sbom" ↔ call.kind = .sbom
  uri : call.kind = .sbom → call.uri settings = some row.uri

/-- A document has been stored, and at most rows of its own have been added. -/
structure RawCall.Archived (settings : StorageSettings) (call : RawCall) (s t : SbomStore) :
    Prop where
  persisted : ∃ uri, call.persist settings s.objects s.files = .ok (uri, t.objects, t.files)
  rows : ∀ row ∈ t.rawRows, row ∈ s.rawRows ∨ call.Enters settings row

/-- Ingesting a document leaves the archive as it is, or adds that document. -/
def Archives (settings : StorageSettings) (kind : RawKind) (organizationId : String)
    (rawBytes : ByteArray) (s t : SbomStore) : Prop :=
  (t.objects = s.objects ∧ t.files = s.files ∧ t.rawRows = s.rawRows) ∨
    ∃ safe, RawCall.Archived settings ⟨kind, organizationId, rawBytes, safe⟩ s t

/-- Everything that is stored is a document of `calls`, and every row is of one for its
    organization. -/
structure Archive (calls : List RawCall) (s : SbomStore) : Prop where
  objects : Named calls s.objects
  files : Named calls s.files
  rows : ∀ row ∈ s.rawRows, ∃ call ∈ calls,
    row.organizationId = call.organizationId ∧ row.digest = call.digest

/-- Every row leads to the document it is of. -/
def Shelved (settings : StorageSettings) (calls : List RawCall) (s : SbomStore) : Prop :=
  ∀ row ∈ s.rawRows, ∃ call ∈ calls,
    call.Enters settings row ∧ call.Stored settings s.objects s.files

variable {settings : StorageSettings} {calls : List RawCall} {call : RawCall}
  {objects files objects' files' : Files} {s t : SbomStore}

/-! ### One document -/

/-- What has been persisted was persisted by a store that can be used. -/
theorem persistSbomRawBytes_ready {rawBytes : ByteArray} {organizationId digest : String}
    {x : String × Files × Files}
    (h : persistSbomRawBytes settings rawBytes organizationId digest objects files = .ok x) :
    settings.Ready := by
  simp only [persistSbomRawBytes, putObject, except_bind_eq_ok, raiseIf_eq_ok] at h
  obtain ⟨-, -, -, hstate, _, -, _, ⟨_, hfailure, -⟩, -⟩ := h
  refine ⟨hstate, fun henabled => ?_⟩
  cases hf : settings.failure with
  | none => rfl
  | some e =>
      rw [hf] at hfailure
      exact absurd henabled (raiseIf_eq_ok.1 hfailure)

/-- **A call that returns** keeps what is stored, and stores its document. -/
theorem persist_keeps {uri : Option String} (hdigested : Digested calls) (hcall : call ∈ calls)
    (hobjects : Named calls objects) (hfiles : Named calls files)
    (h : call.persist settings objects files = .ok (uri, objects', files')) :
    Kept settings calls [call] objects files objects' files' := by
  cases hkind : call.kind with
  | sbom =>
      have hready : settings.Ready := by
        have hpersist := h
        simp only [RawCall.persist, hkind, except_bind_eq_ok] at hpersist
        obtain ⟨x, hx, -⟩ := hpersist
        exact persistSbomRawBytes_ready hx
      obtain ⟨objects'', files'', hresult, hkept⟩ :=
        persist_kept hready hdigested hcall hobjects hfiles
      cases h.symm.trans hresult
      exact hkept
  | evidence =>
      -- the settings do not matter
      have hready : StorageSettings.Ready ⟨"", .disabled, true, none⟩ :=
        ⟨by decide, fun _ => rfl⟩
      obtain ⟨objects'', files'', hresult, hkept⟩ :=
        persist_kept hready hdigested hcall hobjects hfiles
      have hsame : call.persist settings objects files
          = call.persist ⟨"", .disabled, true, none⟩ objects files := by
        simp only [RawCall.persist, hkind]
      cases (hsame.symm.trans h).symm.trans hresult
      refine ⟨hkept.objects_named, hkept.files_named, hkept.objects_extends, hkept.files_extends,
        fun other hother => ?_⟩
      obtain rfl := List.mem_singleton.1 hother
      have hnot : ∀ hsbom : other.kind = .sbom, False := by
        intro hsbom
        rw [hkind] at hsbom
        cases hsbom
      exact ⟨fun hsbom => (hnot hsbom).elim, fun hsbom => (hnot hsbom).elim,
        (hkept.stored other (List.mem_singleton.2 rfl)).evidenceFile⟩

theorem Archive.archived (harchive : Archive calls s) (hdigested : Digested calls)
    (hcall : call ∈ calls) (h : call.Archived settings s t) : Archive calls t := by
  obtain ⟨uri, hpersist⟩ := h.persisted
  have hkept := persist_keeps hdigested hcall harchive.objects harchive.files hpersist
  refine ⟨hkept.objects_named, hkept.files_named, fun row hrow => ?_⟩
  rcases h.rows row hrow with hold | henters
  · exact harchive.rows row hold
  · exact ⟨call, hcall, henters.organizationId, henters.digest⟩

theorem Shelved.archived (hshelved : Shelved settings calls s) (harchive : Archive calls s)
    (hdigested : Digested calls) (hcall : call ∈ calls) (h : call.Archived settings s t) :
    Shelved settings calls t := by
  obtain ⟨uri, hpersist⟩ := h.persisted
  have hkept := persist_keeps hdigested hcall harchive.objects harchive.files hpersist
  intro row hrow
  rcases h.rows row hrow with hold | henters
  · obtain ⟨own, hown, henters, hstored⟩ := hshelved row hold
    exact ⟨own, hown, henters, hstored.mono hkept.objects_extends hkept.files_extends⟩
  · exact ⟨call, hcall, henters, hkept.stored call (List.mem_singleton.2 rfl)⟩

/-- **The step lemma** of the archive. -/
theorem Archive.archives (harchive : Archive calls s) (hdigested : Digested calls) {kind : RawKind}
    {organizationId : String} {rawBytes : ByteArray}
    (hcalls : ∀ safe, ⟨kind, organizationId, rawBytes, safe⟩ ∈ calls)
    (h : Archives settings kind organizationId rawBytes s t) : Archive calls t := by
  rcases h with ⟨hobjects, hfiles, hrows⟩ | ⟨safe, harchived⟩
  · exact ⟨hobjects ▸ harchive.objects, hfiles ▸ harchive.files, hrows ▸ harchive.rows⟩
  · exact harchive.archived hdigested (hcalls safe) harchived

theorem Shelved.archives (hshelved : Shelved settings calls s) (harchive : Archive calls s)
    (hdigested : Digested calls) {kind : RawKind} {organizationId : String} {rawBytes : ByteArray}
    (hcalls : ∀ safe, ⟨kind, organizationId, rawBytes, safe⟩ ∈ calls)
    (h : Archives settings kind organizationId rawBytes s t) : Shelved settings calls t := by
  rcases h with ⟨hobjects, hfiles, hrows⟩ | ⟨safe, harchived⟩
  · unfold Shelved
    rw [hobjects, hfiles, hrows]
    exact hshelved
  · exact hshelved.archived harchive hdigested (hcalls safe) harchived

omit [Sha256] in
theorem mem_rawRows {row : RawRow} : row ∈ s.rawRows ↔
    (∃ snapshot ∈ s.snapshots.rows, snapshot.rawRow = row) ∨
      ∃ document ∈ s.documents.rows, document.rawRow = row := by
  simp [SbomStore.rawRows]

end Archive

end Sbom

/-! ### Ingesting -/

section Ingesting

variable [Python] [Driver] [Sha256]

omit [Python] [Driver] in
theorem safe_of_persistEvidenceBytes {rawBytes : ByteArray} {organizationId digest : String}
    {files files' : Files}
    (h : persistEvidenceBytes rawBytes organizationId digest files = .ok files') :
    unsafeSegment organizationId = false := by
  simp only [persistEvidenceBytes, evidenceLocalPath, except_bind_eq_ok] at h
  obtain ⟨-, -, path, ⟨segment, hsegment, -⟩, -⟩ := h
  exact (validateOrganizationId_eq_ok.1 hsegment).1

/-- Ingesting a record stores its payload, if anything. -/
theorem EvidenceRecord.ingest_archives {r : EvidenceRecord} (hsource : r.source ≠ "sbom")
    (settings : StorageSettings) (env : CallEnv) (organizationId : String) (s : SbomStore) :
    Archives settings .evidence organizationId (canonicalBytes r.raw) s
      { s with toEvidenceStore := (r.ingest env organizationId s.toEvidenceStore).2 } := by
  unfold ingest
  cases hkey : s.snapshots.byNatural r.key with
  | some existing => cases r.derived s.toEvidenceStore <;> exact Or.inl ⟨rfl, rfl, rfl⟩
  | none =>
      cases r.derived s.toEvidenceStore with
      | error e => exact Or.inl ⟨rfl, rfl, rfl⟩
      | ok d =>
          simp only [ingestNew]
          cases hpersist : persistEvidenceBytes (canonicalBytes r.raw) organizationId r.digest
              s.files with
          | error e => exact Or.inl ⟨rfl, rfl, rfl⟩
          | ok files =>
              have hsafe := safe_of_persistEvidenceBytes hpersist
              have hcall : RawCall.persist settings
                  ⟨.evidence, organizationId, canonicalBytes r.raw, hsafe⟩ s.objects s.files
                    = .ok (none, s.objects, files) := by
                show (persistEvidenceBytes (canonicalBytes r.raw) organizationId r.digest s.files >>= _)
                  = _
                rw [hpersist]
                rfl
              cases hrows : r.rows env organizationId d.1 d.2 with
              | error e => exact Or.inr ⟨hsafe, ⟨none, hcall⟩, fun row hrow => Or.inl hrow⟩
              | ok rows =>
                  dsimp only
                  cases hcommit : EvidenceStore.commit { s.toEvidenceStore with files := files } rows with
                  | error e => exact Or.inr ⟨hsafe, ⟨none, hcall⟩, fun row hrow => Or.inl hrow⟩
                  | ok t =>
                      have hsnapshots := (EvidenceStore.commit_written hcommit).snapshots
                      have hfiles : t.files = files := (EvidenceStore.commit_eq_ok.1 hcommit).2.2.2.2
                      have hdescribes := describes_of_rows hrows
                      refine Or.inr ⟨hsafe, ⟨none, by rw [hcall, ← hfiles]⟩, fun row hrow => ?_⟩
                      rcases mem_rawRows.1 hrow with ⟨snapshot, hsnapshot, rfl⟩ | hdocument
                      · rw [hsnapshots] at hsnapshot
                        rcases List.mem_append.1 hsnapshot with hold | hnew
                        · exact Or.inl (mem_rawRows.2 (Or.inl ⟨snapshot, hold, rfl⟩))
                        · obtain rfl : snapshot = rows.snapshot := by simpa using hnew
                          have hnatural := hdescribes.natural_eq
                          refine Or.inr ⟨hdescribes.organizationId_eq,
                            congrArg SnapshotKey.contentSha256 hnatural,
                            iff_of_false (fun hsbom => hsource ?_) (fun hkind => by cases hkind),
                            fun hkind => by cases hkind⟩
                          exact (congrArg SnapshotKey.source hnatural).symm.trans hsbom
                      · exact Or.inl (mem_rawRows.2 (Or.inr hdocument))

/-- A bridge stores the payload it is called with, if anything. -/
theorem Bridge.deliver_archives [PythonDigits] (settings : StorageSettings) (b : Bridge)
    (env : CallEnv) (raw : Json) (organizationId : String) (s : SbomStore) :
    Archives settings .evidence organizationId (canonicalBytes raw) s
      { s with toEvidenceStore := (b.deliver env raw organizationId s.toEvidenceStore).2 } := by
  cases hrecord : b.record env raw organizationId with
  | error e =>
      rw [Bridge.deliver_of_error hrecord]
      exact Or.inl ⟨rfl, rfl, rfl⟩
  | ok r =>
      rw [Bridge.deliver_of_record hrecord]
      obtain ⟨hsource, hraw, -, -⟩ := Bridge.record_eq hrecord
      have hnot : r.source ≠ "sbom" := by
        rw [hsource]
        cases b <;> decide
      rw [← hraw]
      exact r.ingest_archives hnot settings env organizationId s

namespace Sbom

omit [Python] [Sha256] in
theorem addComponents_objects {c : SbomCall} {assetId : Option String} {s t : SbomStore} {i : ℕ}
    {pcs : List ParsedComponent} (h : addComponents c assetId i pcs s = .ok t) :
    t.objects = s.objects := by
  induction pcs generalizing i s with
  | nil =>
      cases h
      rfl
  | cons pc rest ih =>
      obtain ⟨u, hu, h⟩ := except_bind_eq_ok.1 h
      obtain ⟨fields, component, table, -, -, -, rfl⟩ := addComponent_eq_ok.1 hu
      have hrest := ih h
      exact hrest

/-- Both rows of a document lead to it in the same way. -/
theorem documentRows_rawRow {c : SbomCall} {parsed : ParsedSbom} {uri : String}
    {rows : EvidenceRows × SbomDocument} (h : documentRows c parsed uri = .ok rows) :
    rows.1.snapshot.rawRow = ⟨c.organizationId, c.digest, uri, "sbom"⟩ ∧
      rows.2.rawRow = ⟨c.organizationId, c.digest, uri, "sbom"⟩ := by
  simp only [documentRows, except_bind_eq_ok, accepted_eq_ok] at h
  obtain ⟨id, -, org, horg, _, -, _, -, _, -, _, -, h⟩ := h
  cases h
  obtain rfl := Driver.eq_of_stored horg
  exact ⟨rfl, rfl⟩

/-- Submitting a bill of materials stores it, if anything. -/
theorem ingest_archives (settings : StorageSettings) (c : SbomCall) (s : SbomStore) :
    Archives settings .sbom c.organizationId (canonicalBytes c.raw) s (ingest settings c s).2 := by
  unfold ingest
  cases s.documents.byNatural (c.digest, c.organizationId) with
  | some existing => exact Or.inl ⟨rfl, rfl, rfl⟩
  | none =>
      dsimp only
      cases readSbom c s with
      | error e => exact Or.inl ⟨rfl, rfl, rfl⟩
      | ok read =>
          obtain ⟨parsed, assetId⟩ := read
          simp only [ingestNew]
          cases hpersist : persistSbomRawBytes settings (canonicalBytes c.raw) c.organizationId
              c.digest s.objects s.files with
          | error e => exact Or.inl ⟨rfl, rfl, rfl⟩
          | ok x =>
              obtain ⟨uri, objects, files⟩ := x
              obtain ⟨key, hkey, huri⟩ := persistSbomRawBytes_key hpersist
              obtain ⟨hsafe, rfl⟩ := sbomObjectKey_eq_ok.1 hkey
              dsimp only
              have hcall : RawCall.persist settings
                  ⟨.sbom, c.organizationId, canonicalBytes c.raw, hsafe⟩ s.objects s.files
                    = .ok (some uri, objects, files) := by
                show (persistSbomRawBytes settings (canonicalBytes c.raw) c.organizationId c.digest
                  s.objects s.files >>= _) = _
                rw [hpersist]
                rfl
              have henters : RawCall.Enters settings
                  ⟨.sbom, c.organizationId, canonicalBytes c.raw, hsafe⟩
                  ⟨c.organizationId, c.digest, uri, "sbom"⟩ :=
                ⟨rfl, rfl, iff_of_true rfl rfl, fun _ => congrArg some huri.symm⟩
              cases hinsert : insertSbom c parsed assetId uri
                  { s with objects := objects, files := files } with
              | error e => exact Or.inr ⟨hsafe, ⟨_, hcall⟩, fun row hrow => Or.inl hrow⟩
              | ok t =>
                  obtain ⟨rows, occurrences, hrows, -, hstored, hfiles⟩ := insertSbom_stored hinsert
                  obtain ⟨hsnapshot, hdocument⟩ := documentRows_rawRow hrows
                  have hobjects : t.objects = objects := by
                    simp only [insertSbom, except_bind_eq_ok] at hinsert
                    obtain ⟨_, -, _, -, _, -, hcomponents⟩ := hinsert
                    exact addComponents_objects hcomponents
                  refine Or.inr ⟨hsafe, ⟨some uri, ?_⟩, fun row hrow => ?_⟩
                  · rw [hcall, hobjects, hfiles]
                  · rcases mem_rawRows.1 hrow with ⟨snapshot, hmem, rfl⟩ | ⟨document, hmem, rfl⟩
                    · rw [hstored.evidence.snapshots] at hmem
                      rcases List.mem_append.1 hmem with hold | hnew
                      · exact Or.inl (mem_rawRows.2 (Or.inl ⟨snapshot, hold, rfl⟩))
                      · obtain rfl : snapshot = rows.1.snapshot := by simpa using hnew
                        exact Or.inr (hsnapshot ▸ henters)
                    · rw [hstored.documents] at hmem
                      rcases List.mem_append.1 hmem with hold | hnew
                      · exact Or.inl (mem_rawRows.2 (Or.inr ⟨document, hold, rfl⟩))
                      · obtain rfl : document = rows.2 := by simpa using hnew
                        exact Or.inr (hdocument ▸ henters)

end Sbom

end Ingesting

/-! ### Runs -/

section Runs

variable [Python] [Sha256]

/-- The documents that are ingested are those of `calls`. -/
def PipelineAct.Ingests (calls : List RawCall) : PipelineAct → Prop
  | .deliver _ _ raw organizationId =>
      ∀ safe, ⟨.evidence, organizationId, canonicalBytes raw, safe⟩ ∈ calls
  | .submit _ c => ∀ safe, ⟨.sbom, c.organizationId, canonicalBytes c.raw, safe⟩ ∈ calls
  | .work _ => True

/-- Bills of materials go where `settings` say, whether the service works or not. -/
def PipelineAct.StoresBy (settings : StorageSettings) : PipelineAct → Prop
  | .submit settings' _ => settings'.bucket = settings.bucket ∧ settings'.state = settings.state
  | _ => True

instance (calls : List RawCall) : DecidablePred (PipelineAct.Ingests calls)
  | .deliver _ _ _ _ => inferInstanceAs (Decidable (∀ _, _ ∈ _))
  | .submit _ _ => inferInstanceAs (Decidable (∀ _, _ ∈ _))
  | .work _ => inferInstanceAs (Decidable True)

instance (settings : StorageSettings) : DecidablePred (PipelineAct.StoresBy settings)
  | .deliver _ _ _ _ => inferInstanceAs (Decidable True)
  | .submit _ _ => inferInstanceAs (Decidable (_ ∧ _))
  | .work _ => inferInstanceAs (Decidable True)

/-- What an act may do to the archive. -/
def PipelineAct.Archives : PipelineAct → SbomStore → SbomStore → Prop
  | .deliver _ _ raw organizationId, s, t =>
      ∀ settings, Sbom.Archives settings .evidence organizationId (canonicalBytes raw) s t
  | .submit settings c, s, t =>
      Sbom.Archives settings .sbom c.organizationId (canonicalBytes c.raw) s t
  | .work _, s, t => t.objects = s.objects ∧ t.files = s.files ∧ t.rawRows = s.rawRows

variable {settings settings' : StorageSettings} {calls : List RawCall} {s : SbomStore}
  {p p' : Pipeline} {a : PipelineAct}

omit [Python] in
/-- Where a document is depends on the bucket and on whether there is an object store. -/
theorem Sbom.Shelved.congr (hshelved : Shelved settings calls s)
    (hbucket : settings.bucket = settings'.bucket) (hstate : settings.state = settings'.state) :
    Shelved settings' calls s := by
  obtain ⟨bucket, state, mirror, failure⟩ := settings
  obtain ⟨bucket', state', mirror', failure'⟩ := settings'
  obtain rfl : bucket = bucket' := hbucket
  obtain rfl : state = state' := hstate
  intro row hrow
  obtain ⟨call, hcall, henters, hstored⟩ := hshelved row hrow
  exact ⟨call, hcall, ⟨henters.organizationId, henters.digest, henters.source, henters.uri⟩,
    hstored.object, hstored.sbomFile, hstored.evidenceFile⟩

variable [PythonDigits] [Packaging] [Driver]

theorem Pipeline.step_archives (hstep : p.step a = some p') : a.Archives p.current p'.current := by
  cases a with
  | deliver b env raw organizationId =>
      cases hstep
      exact fun settings => b.deliver_archives settings env raw organizationId p.current
  | submit settings c =>
      cases hstep
      exact Sbom.ingest_archives settings c p.current
  | work a =>
      obtain ⟨crew, -, rfl⟩ := Option.map_eq_some_iff.1 hstep
      exact ⟨rfl, rfl, rfl⟩

theorem Pipeline.archive_step (hdigested : Digested calls) (harchive : Archive calls p.current)
    (ha : a.Ingests calls) (hstep : p.step a = some p') : Archive calls p'.current := by
  have harchives := Pipeline.step_archives hstep
  cases a with
  | deliver b env raw organizationId =>
      exact harchive.archives hdigested ha (harchives ⟨"", .disabled, true, none⟩)
  | submit settings c => exact harchive.archives hdigested ha harchives
  | work a =>
      obtain ⟨hobjects, hfiles, hrows⟩ := harchives
      exact ⟨hobjects ▸ harchive.objects, hfiles ▸ harchive.files, hrows ▸ harchive.rows⟩

theorem Pipeline.shelved_step (hdigested : Digested calls) (harchive : Archive calls p.current)
    (hshelved : Shelved settings calls p.current) (ha : a.Ingests calls)
    (hsettings : a.StoresBy settings) (hstep : p.step a = some p') :
    Shelved settings calls p'.current := by
  have harchives := Pipeline.step_archives hstep
  cases a with
  | deliver b env raw organizationId =>
      exact hshelved.archives harchive hdigested ha (harchives settings)
  | submit settings' c =>
      have hnext := (hshelved.congr hsettings.1.symm hsettings.2.symm).archives harchive hdigested ha
        harchives
      exact hnext.congr hsettings.1 hsettings.2
  | work a =>
      obtain ⟨hobjects, hfiles, hrows⟩ := harchives
      unfold Shelved
      rw [hobjects, hfiles, hrows]
      exact hshelved

omit [Python] [PythonDigits] [Packaging] [Driver] in
theorem Pipeline.start_archive (calls : List RawCall) (workers : List Orchestrator) (db : Hub) :
    Archive calls (Pipeline.current ⟨.empty, .start workers db⟩) := by
  refine ⟨fun _ _ h => ?_, fun _ _ h => ?_, fun row hrow => ?_⟩
  · cases h
  · cases h
  · cases hrow

/-- **Every run of the pipeline** keeps an archive. -/
theorem Pipeline.Run.archive {workers : List Orchestrator} {db : Hub} (hdigested : Digested calls)
    (hrun : Pipeline.Run (PipelineAct.Ingests calls) ⟨.empty, .start workers db⟩ p) :
    Archive calls p.current := by
  induction hrun with
  | start => exact Pipeline.start_archive calls workers db
  | step run a ok next ih => exact Pipeline.archive_step hdigested ih ok next

theorem Pipeline.Run.shelved {workers : List Orchestrator} {db : Hub} (hdigested : Digested calls)
    (hrun : Pipeline.Run (fun a => a.Ingests calls ∧ a.StoresBy settings)
      ⟨.empty, .start workers db⟩ p) :
    Archive calls p.current ∧ Shelved settings calls p.current := by
  induction hrun with
  | start => exact ⟨Pipeline.start_archive calls workers db, fun row hrow => by cases hrow⟩
  | step run a ok next ih =>
      exact ⟨Pipeline.archive_step hdigested ih.1 ok.1 next,
        Pipeline.shelved_step hdigested ih.1 ih.2 ok.1 ok.2 next⟩

end Runs

/-! ## What comes back -/

section Reading

variable [Sha256] [UrlHost] {settings : StorageSettings} {calls : List RawCall}
  {objects files : Files}

omit [Sha256] [UrlHost] in
/-- What is found locally is under one of two names. -/
theorem Sbom.localBytes_mem {organizationId digest : String} {content : ByteArray}
    (h : localBytes files organizationId digest = .ok (some content)) :
    ∃ name, files name = some content := by
  simp only [localBytes, except_bind_eq_ok] at h
  obtain ⟨key, -, path, -, h⟩ := h
  have hfound := Except.ok.inj h
  cases hsbom : files (localSbomPath key) with
  | some own =>
      rw [hsbom] at hfound
      exact ⟨_, hsbom.trans hfound⟩
  | none =>
      rw [hsbom] at hfound
      exact ⟨path, hfound⟩

omit [Sha256] [UrlHost] in
theorem Sbom.eq_some_of_elim {e : ReadError} {found : Option ByteArray} {content : ByteArray}
    (h : found.elim (Except.error e) Except.ok = .ok content) : found = some content := by
  cases found with
  | none => cases h
  | some own =>
      cases h
      rfl

omit [Sha256] [UrlHost] in
theorem Sbom.localObjectBytes_mem {key : String} {content : ByteArray}
    (h : localObjectBytes files key = .ok content) : ∃ name, files name = some content := by
  unfold localObjectBytes at h
  split at h
  · split_ifs at h
    obtain ⟨path, -, hfound⟩ := Raising.except_bind_eq_ok.1 h
    exact ⟨_, eq_some_of_elim hfound⟩
  · cases h

omit [Sha256] in
/-- The object store is asked for any object, not only for those of one organization. -/
theorem Sbom.getObjectBytes_mem {uri : String} {content : ByteArray}
    (h : getObjectBytes settings objects files uri = .ok content) :
    (∃ name, objects name = some content) ∨ ∃ name, files name = some content := by
  simp only [getObjectBytes, Raising.except_bind_eq_ok] at h
  obtain ⟨parsed, -, h⟩ := h
  split at h
  · cases h
  · split at h
    · cases h
    · exact Or.inl ⟨_, eq_some_of_elim h⟩
  · exact Or.inr (localObjectBytes_mem h)

/-- **Whatever is read** has been stored. -/
theorem Sbom.readRawBytes_mem {organizationId digest : String} {uri : Option String}
    {content : ByteArray} (hobjects : Named calls objects) (hfiles : Named calls files)
    (h : readRawBytes settings objects files organizationId digest uri = .ok (some content)) :
    ∃ call ∈ calls, content = call.rawBytes := by
  have hstored : (∃ name, objects name = some content) ∨ ∃ name, files name = some content := by
    have hlocal : (localBytes files organizationId digest).mapError ReadError.raised
        = .ok (some content) → ∃ name, files name = some content := by
      intro hmap
      cases hbytes : localBytes files organizationId digest with
      | error e =>
          rw [hbytes] at hmap
          cases hmap
      | ok found =>
          rw [hbytes] at hmap
          obtain rfl : found = some content := Except.ok.inj hmap
          exact localBytes_mem hbytes
    simp only [readRawBytes, Raising.except_bind_eq_ok] at h
    obtain ⟨-, -, h⟩ := h
    split at h
    · exact Or.inr (hlocal h)
    · split at h
      · next rawBytes hget =>
          cases h
          exact getObjectBytes_mem hget
      · exact Or.inr (hlocal h)
      · cases h
  rcases hstored with ⟨name, hname⟩ | ⟨name, hname⟩
  · obtain ⟨call, hcall, -, hcontent⟩ := hobjects name content hname
    exact ⟨call, hcall, hcontent⟩
  · obtain ⟨call, hcall, -, hcontent⟩ := hfiles name content hname
    exact ⟨call, hcall, hcontent⟩

end Reading

/-! ## What the routes answer -/

theorem loadSnapshot_eq_some {s : SbomStore} {orgId snapshotId : String}
    {snapshot : SourceSnapshot} :
    loadSnapshot s orgId snapshotId = some snapshot ↔
      snapshot ∈ s.snapshots.rows ∧ snapshot.id = snapshotId ∧ snapshot.organizationId = orgId := by
  simp only [loadSnapshot, Option.filter_eq_some_iff, Table.find?_eq_some, decide_eq_true_eq,
    and_assoc]
  exact Iff.rfl

theorem loadSbom_eq_some {s : SbomStore} {orgId sbomId : String} {doc : SbomDocument} :
    loadSbom s orgId sbomId = some doc ↔
      doc ∈ s.documents.rows ∧ doc.id = sbomId ∧ doc.organizationId = orgId := by
  simp only [loadSbom, Option.filter_eq_some_iff, Table.find?_eq_some, decide_eq_true_eq, and_assoc]
  exact Iff.rfl

theorem EvidenceReply.after_eq_raw {check : Except AuthorizationError Principal}
    {rest : EvidenceReply} {content : ByteArray} {headers : List (String × String)}
    (h : EvidenceReply.after check rest = .raw content headers) :
    (∃ q, check = .ok q) ∧ rest = .raw content headers := by
  cases check with
  | error e => cases h
  | ok q => exact ⟨⟨q, rfl⟩, h⟩

section Checks

variable [Python] {p q : Principal} {organizationId : String}

omit [Python] in
theorem hasOrganization_of_required (h : requireOrganization organizationId p = .ok q) :
    p.hasOrganization organizationId = true := by
  unfold requireOrganization at h
  split_ifs at h with _ horganization
  exact horganization

/-- The capability is spelled as the gates spell it. -/
theorem hasCapability_of_authorized (h : authorizeCapability p "evidence:raw:read" = .ok q) :
    p.hasCapability "evidence:raw:read" = true := by
  have hspelled : strip "evidence:raw:read" = "evidence:raw:read" ∧
      IsAscii "evidence:raw:read".toList ∧ asciiLower "evidence:raw:read" = "evidence:raw:read" := by
    decide +kernel
  unfold authorizeCapability at h
  rw [hspelled.1, lower_of_ascii hspelled.2.1 hspelled.2.2] at h
  split_ifs at h with hcapable
  exact hcapable

end Checks

section Answers

variable [Python] [Sha256] [UrlHost] {settings : StorageSettings} {calls : List RawCall}
  {call : RawCall} {s : SbomStore} {r : RouteCall} {row : RawRow} {content : ByteArray}
  {headers : List (String × String)}

/-- What is answered for a row has the digest of the row, so it is the document the row is of. -/
theorem answerRaw_own (hdigested : Digested calls) (harchive : Archive calls s)
    (hrow : row ∈ s.rawRows) (h : answerRaw settings r row.digest row.uri s = .raw content headers) :
    r.principal.hasCapability "evidence:raw:read" = true ∧
      ∃ call ∈ calls, call.organizationId = row.organizationId ∧ content = call.rawBytes := by
  obtain ⟨⟨q, hcapable⟩, h⟩ := EvidenceReply.after_eq_raw h
  refine ⟨hasCapability_of_authorized hcapable, ?_⟩
  split at h
  · cases h
  · cases h
  next rawBytes hread =>
  unfold rawResponse at h
  split_ifs at h with hdigest
  · cases h
  cases h
  obtain ⟨own, hown, horganization, hsame⟩ := harchive.rows row hrow
  obtain ⟨found, hfound, hcontent⟩ := readRawBytes_mem harchive.objects harchive.files hread
  have htold : found.digest = own.digest := by
    rw [← hsame, ← not_not.1 hdigest, hcontent]
    rfl
  exact ⟨own, hown, horganization.symm,
    hcontent.trans (hdigested.told found hfound own hown htold)⟩

/-- The URI of a row leads to its own document, or is no URI of an object. -/
structure RawRow.Plain (row : RawRow) : Prop where
  sbom : row.source = "sbom" → UrlPlain row.organizationId
  evidence : row.source ≠ "sbom" → ¬ "s3://".toList <+: row.uri.toList

omit [Python] in
theorem readRawBytes_plain (hready : settings.Ready) (hbucket : BucketName settings.bucket)
    (hdigested : Digested calls) (harchive : Archive calls s) (hcall : call ∈ calls)
    (henters : call.Enters settings row) (hstored : call.Stored settings s.objects s.files)
    (hplain : row.Plain) : readRawBytes settings s.objects s.files row.organizationId row.digest
      (some row.uri) = .ok (some call.rawBytes) := by
  rw [henters.organizationId, henters.digest]
  cases hkind : call.kind with
  | sbom =>
      have hurl : UrlPlain call.organizationId :=
        henters.organizationId ▸ hplain.sbom (henters.source.2 hkind)
      rw [← henters.uri hkind]
      exact readRawBytes_sbom hready hbucket (hdigested.hex call hcall) hurl hstored hkind
  | evidence =>
      have hsource : row.source ≠ "sbom" := by
        intro hsbom
        rw [henters.source.1 hsbom] at hkind
        cases hkind
      have hread := readRawBytes_evidence hdigested hcall harchive.files hstored hkind
      rw [RawCall.uri_evidence hkind] at hread
      have hnone : (some row.uri).filter (fun uri => decide ("s3://".toList <+: uri.toList)) = none := by
        rw [Option.filter_some, if_neg (by simpa using hplain.evidence hsource)]
      rw [← hread]
      unfold readRawBytes
      rw [hnone]
      rfl

/-- What a raw route answers for a row that leads to its document. -/
theorem answerRaw_plain (hready : settings.Ready) (hbucket : BucketName settings.bucket)
    (hdigested : Digested calls) (harchive : Archive calls s) (hshelved : Shelved settings calls s)
    (hrow : row ∈ s.rawRows) (horganization : row.organizationId = r.orgId) (hplain : row.Plain)
    {q : Principal} (hcapable : authorizeCapability r.principal "evidence:raw:read" = .ok q) :
    ∃ call ∈ calls, call.organizationId = r.orgId ∧ call.digest = row.digest ∧
      answerRaw settings r row.digest row.uri s = .raw call.rawBytes (rawHeaders row.digest) := by
  obtain ⟨call, hcall, henters, hstored⟩ := hshelved row hrow
  have hread := readRawBytes_plain hready hbucket hdigested harchive hcall henters hstored hplain
  refine ⟨call, hcall, henters.organizationId.symm.trans horganization, henters.digest.symm, ?_⟩
  unfold answerRaw
  rw [hcapable, ← horganization]
  show (match readRawBytes settings s.objects s.files row.organizationId row.digest (some row.uri) with
    | .error e => EvidenceReply.raised e
    | .ok none => EvidenceReply.notFound
    | .ok (some rawBytes) => rawResponse rawBytes row.digest) = _
  rw [hread]
  exact if_neg (not_not.2 henters.digest.symm)

variable [PythonDigits] [Packaging] [Driver] {p : Pipeline}

/-- **Only one's own evidence**: bridges and submissions bring in the documents of `calls`, in any
    order and while any number of workers handle the outbox. Whatever URI a finding carries, what
    a raw route answers is a document that came in for the organization of the path, and the caller
    is one of its members who may read raw evidence. -/
theorem raw_evidence_own (calls : List RawCall) (hdigested : Digested calls)
    (workers : List Orchestrator) (db : Hub)
    (hrun : Pipeline.Run (PipelineAct.Ingests calls) ⟨.empty, .start workers db⟩ p)
    (settings : StorageSettings) (r : RouteCall) (request : EvidenceRequest)
    (h : request.answer settings r p.current = .raw content headers) :
    r.principal.hasOrganization r.orgId = true ∧
      r.principal.hasCapability "evidence:raw:read" = true ∧
      ∃ call ∈ calls, call.organizationId = r.orgId ∧ content = call.rawBytes := by
  have harchive := hrun.archive hdigested
  cases request with
  | sourceSnapshot snapshotId =>
      obtain ⟨-, h⟩ := EvidenceReply.after_eq_raw h
      split at h
      · cases h
      · obtain ⟨-, h⟩ := EvidenceReply.after_eq_raw h
        cases h
  | sourceSnapshotRaw snapshotId =>
      obtain ⟨⟨q, hmember⟩, h⟩ := EvidenceReply.after_eq_raw h
      split at h
      · cases h
      next snapshot hload =>
      obtain ⟨hmem, -, horganization⟩ := loadSnapshot_eq_some.1 hload
      have hrow : snapshot.rawRow ∈ p.current.rawRows := mem_rawRows.2 (Or.inl ⟨snapshot, hmem, rfl⟩)
      obtain ⟨hcapable, call, hcall, hown, hcontent⟩ := answerRaw_own hdigested harchive hrow h
      exact ⟨hasOrganization_of_required hmember, hcapable, call, hcall, hown.trans horganization,
        hcontent⟩
  | sbomRaw sbomId =>
      obtain ⟨⟨q, hmember⟩, h⟩ := EvidenceReply.after_eq_raw h
      split at h
      · cases h
      next doc hload =>
      obtain ⟨hmem, -, horganization⟩ := loadSbom_eq_some.1 hload
      have hrow : doc.rawRow ∈ p.current.rawRows := mem_rawRows.2 (Or.inr ⟨doc, hmem, rfl⟩)
      obtain ⟨hcapable, call, hcall, hown, hcontent⟩ := answerRaw_own hdigested harchive hrow h
      exact ⟨hasOrganization_of_required hmember, hcapable, call, hcall, hown.trans horganization,
        hcontent⟩

/-- **Evidence comes back**: where the bills of materials go by `settings`, each row whose URI is
    plain is answered, to a member who may read raw evidence, with the very document it was made
    of, whatever has been ingested since and whatever the workers do. -/
theorem raw_evidence_comes_back (settings : StorageSettings) (hready : settings.Ready)
    (hbucket : BucketName settings.bucket) (calls : List RawCall) (hdigested : Digested calls)
    (workers : List Orchestrator) (db : Hub)
    (hrun : Pipeline.Run (fun a => a.Ingests calls ∧ a.StoresBy settings)
      ⟨.empty, .start workers db⟩ p)
    (r : RouteCall) {q q' : Principal} (hmember : requireOrganization r.orgId r.principal = .ok q)
    (hcapable : authorizeCapability r.principal "evidence:raw:read" = .ok q') :
    (∀ snapshot ∈ p.current.snapshots.rows, snapshot.organizationId = r.orgId →
      snapshot.rawRow.Plain → ∃ call ∈ calls, call.organizationId = r.orgId ∧
        call.digest = snapshot.contentSha256 ∧
        (EvidenceRequest.sourceSnapshotRaw snapshot.id).answer settings r p.current
          = .raw call.rawBytes (rawHeaders snapshot.contentSha256)) ∧
    ∀ doc ∈ p.current.documents.rows, doc.organizationId = r.orgId → doc.rawRow.Plain →
      ∃ call ∈ calls, call.organizationId = r.orgId ∧ call.digest = doc.contentSha256 ∧
        (EvidenceRequest.sbomRaw doc.id).answer settings r p.current
          = .raw call.rawBytes (rawHeaders doc.contentSha256) := by
  obtain ⟨harchive, hshelved⟩ := hrun.shelved hdigested
  refine ⟨fun snapshot hmem horganization hplain => ?_, fun doc hmem horganization hplain => ?_⟩
  · have hrow : snapshot.rawRow ∈ p.current.rawRows := mem_rawRows.2 (Or.inl ⟨snapshot, hmem, rfl⟩)
    have hload := loadSnapshot_eq_some.2 ⟨hmem, rfl, horganization⟩
    have hroute : (EvidenceRequest.sourceSnapshotRaw snapshot.id).answer settings r p.current
        = answerRaw settings r snapshot.contentSha256 snapshot.objectUri p.current := by
      simp only [EvidenceRequest.answer, getSourceSnapshotRaw, hmember, hload]
      rfl
    rw [hroute]
    exact answerRaw_plain hready hbucket hdigested harchive hshelved hrow horganization hplain
      hcapable
  · have hrow : doc.rawRow ∈ p.current.rawRows := mem_rawRows.2 (Or.inr ⟨doc, hmem, rfl⟩)
    have hload := loadSbom_eq_some.2 ⟨hmem, rfl, horganization⟩
    have hroute : (EvidenceRequest.sbomRaw doc.id).answer settings r p.current
        = answerRaw settings r doc.contentSha256 doc.objectUri p.current := by
      simp only [EvidenceRequest.answer, getSbomRaw, hmember, hload]
      rfl
    rw [hroute]
    exact answerRaw_plain hready hbucket hdigested harchive hshelved hrow horganization hplain
      hcapable

end Answers

/-! ### Submitted documents and a reader -/

def evidenceSbomRaw : Json := .obj [("bomFormat", .str "CycloneDX")]

/-- The document of another organization. -/
def otherSbomRaw : Json := .obj [("bomFormat", .str "CycloneDX"), ("specVersion", .str "1.5")]

/-- The digests of the two documents. -/
@[reducible]
def evidenceDigests : Sha256 :=
  knownDigests
    [("\x7b\"bomFormat\":\"CycloneDX\"\x7d",
        "2e01b8740d2b1c7ff47487ab94ff0f7f4d2853f3d985cd6d7e381c4aa5ef9afa"),
      ("\x7b\"bomFormat\":\"CycloneDX\",\"specVersion\":\"1.5\"\x7d",
        "d07d06ae82e1789a5b505731f3ec3add106e23a55395213c9a881c7e816c695c")]

theorem globex_safe : unsafeSegment "globex" = false := by decide +kernel

theorem acme_safe : unsafeSegment "acme" = false := by decide +kernel

def evidenceCalls : List RawCall :=
  [⟨.sbom, "globex", @canonicalBytes asciiPython evidenceSbomRaw, globex_safe⟩,
    ⟨.sbom, "acme", @canonicalBytes asciiPython otherSbomRaw, acme_safe⟩]

def evidenceActs : List PipelineAct :=
  [.submit snapshotSettings ⟨sampleEnv 2, otherSbomRaw, "acme", none, none⟩,
    .submit snapshotSettings ⟨sampleEnv 1, evidenceSbomRaw, "globex", none, none⟩, .work (.claim 0)]

/-- A service of the organization that reads raw evidence. -/
def globexReader : RouteCall where
  orgId := "globex"
  principal :=
    { subject := "auditor"
      principalType := .service
      organizationIds := ["globex"]
      roles := []
      scopes := ["evidence:raw:read"]
      permissions := []
      organizations_stripped := by decide +kernel }
  requestId := none
  correlationId := none

theorem globexReader_member : ∃ q, requireOrganization globexReader.orgId globexReader.principal
    = .ok q := by
  unfold requireOrganization
  rw [if_neg (by decide +kernel), if_pos (by decide +kernel)]
  exact ⟨_, rfl⟩

theorem globexReader_capable : ∃ q, @authorizeCapability asciiPython globexReader.principal
    "evidence:raw:read" = .ok q := by
  unfold authorizeCapability
  rw [if_pos (by decide +kernel)]
  exact ⟨_, rfl⟩

theorem urlPlain_globex : UrlPlain "globex" := by
  have hall : ("globex".toList.all fun c => c ∉ Url.special) = true := by decide +kernel
  exact List.all_iff_forall_prop.1 hall

theorem evidenceCalls_digested : @Digested evidenceDigests evidenceCalls := by
  let _ := evidenceDigests
  have hdigests : evidenceCalls.map RawCall.digest
      = ["2e01b8740d2b1c7ff47487ab94ff0f7f4d2853f3d985cd6d7e381c4aa5ef9afa",
        "d07d06ae82e1789a5b505731f3ec3add106e23a55395213c9a881c7e816c695c"] := by decide +kernel
  have hnodup : (evidenceCalls.map RawCall.digest).Nodup := by
    rw [hdigests]
    decide +kernel
  have hhex : ((evidenceCalls.map RawCall.digest).all fun d => d.toList.all
      fun c => c ∈ "0123456789abcdef".toList) = true := by
    rw [hdigests]
    decide +kernel
  refine ⟨fun call hcall => ?_, fun call hcall call' hcall' hsame => ?_⟩
  · exact List.all_iff_forall_prop.1 (List.all_eq_true.1 hhex _ (List.mem_map_of_mem hcall))
  · rw [List.inj_on_of_nodup_map hnodup hcall hcall' hsame]

/-- A state of the pipeline with both documents. -/
theorem evidenceRun : ∃ p, @Pipeline.Run asciiPython asciiDigitTable dottedPackaging sqliteDriver
    evidenceDigests
    (fun a => @PipelineAct.Ingests asciiPython evidenceCalls a ∧ a.StoresBy snapshotSettings)
    ⟨.empty, .start [sampleOrchestrator] Hub.empty⟩ p ∧
    (@EvidenceRequest.answer asciiPython evidenceDigests plainHosts snapshotSettings
        globexReader p.current (.sbomRaw "sbom_100000000000")
      = .raw (@canonicalBytes asciiPython evidenceSbomRaw)
          (rawHeaders "2e01b8740d2b1c7ff47487ab94ff0f7f4d2853f3d985cd6d7e381c4aa5ef9afa") ∧
    p.current.documents.rows.map (fun doc => (doc.id, doc.organizationId))
      = [("sbom_200000000000", "acme"), ("sbom_100000000000", "globex")]) := by
  have hacts : ((@Pipeline.runActs asciiPython asciiDigitTable dottedPackaging sqliteDriver
      evidenceDigests (fun a => decide (@PipelineAct.Ingests asciiPython evidenceCalls a ∧
        a.StoresBy snapshotSettings))
      ⟨.empty, .start [sampleOrchestrator] Hub.empty⟩ evidenceActs).any fun p => decide
        (@EvidenceRequest.answer asciiPython evidenceDigests plainHosts snapshotSettings
          globexReader p.current (.sbomRaw "sbom_100000000000")
            = .raw (@canonicalBytes asciiPython evidenceSbomRaw)
                (rawHeaders "2e01b8740d2b1c7ff47487ab94ff0f7f4d2853f3d985cd6d7e381c4aa5ef9afa") ∧
        p.current.documents.rows.map (fun doc => (doc.id, doc.organizationId))
          = [("sbom_200000000000", "acme"), ("sbom_100000000000", "globex")])) = true := by
    decide +kernel
  obtain ⟨p, hp, hanswers⟩ := (Option.any_eq_true _ _).1 hacts
  exact ⟨p, @Pipeline.Run.of_acts asciiPython asciiDigitTable dottedPackaging sqliteDriver
    evidenceDigests _ _ _ _ _ _ (@Pipeline.Run.start asciiPython asciiDigitTable dottedPackaging
      sqliteDriver evidenceDigests _ _) hp, of_decide_eq_true hanswers⟩

/-- What the organization is given is its own document. -/
theorem raw_evidence_own_globex : ∃ p content headers,
    @EvidenceRequest.answer asciiPython evidenceDigests plainHosts snapshotSettings
        globexReader p (.sbomRaw "sbom_100000000000")
      = .raw content headers ∧
    ∃ call ∈ evidenceCalls, call.organizationId = "globex" ∧ content = call.rawBytes := by
  obtain ⟨p, hrun, hown, -⟩ := evidenceRun
  exact ⟨p.current, _, _, hown,
    (@raw_evidence_own asciiPython evidenceDigests plainHosts _ _ asciiDigitTable dottedPackaging
      sqliteDriver p _ evidenceCalls_digested _ _
      (@Pipeline.Run.mono asciiPython asciiDigitTable dottedPackaging sqliteDriver evidenceDigests
        _ _ _ _ (fun _ h => h.1) hrun) _ _ _ hown).2.2⟩

theorem raw_evidence_comes_back_globex : ∃ p call, call ∈ evidenceCalls ∧
    @EvidenceRequest.answer asciiPython evidenceDigests plainHosts snapshotSettings
        globexReader p (.sbomRaw "sbom_100000000000")
      = .raw call.rawBytes (rawHeaders (@RawCall.digest evidenceDigests call)) := by
  obtain ⟨p, hrun, -, hdocuments⟩ := evidenceRun
  obtain ⟨doc, hdoc, hids⟩ : ∃ doc ∈ p.current.documents.rows,
      (doc.id, doc.organizationId) = ("sbom_100000000000", "globex") := by
    rw [← List.mem_map, hdocuments]
    exact List.mem_cons_of_mem _ List.mem_cons_self
  obtain ⟨hid, horganization⟩ := Prod.mk.inj hids
  obtain ⟨q, hmember⟩ := globexReader_member
  obtain ⟨q', hcapable⟩ := globexReader_capable
  obtain ⟨-, hback⟩ := @raw_evidence_comes_back asciiPython evidenceDigests plainHosts
    asciiDigitTable dottedPackaging sqliteDriver p _ snapshotSettings_ready bucketName_snapshots _
    evidenceCalls_digested _ _ hrun _ q q' hmember hcapable
  have hplain : doc.rawRow.Plain := by
    refine ⟨fun _ => ?_, fun hsource => absurd rfl hsource⟩
    show UrlPlain doc.organizationId
    rw [horganization]
    exact urlPlain_globex
  obtain ⟨call, hcall, -, hdigest, hanswer⟩ := hback doc hdoc horganization hplain
  rw [hid, ← hdigest] at hanswer
  exact ⟨p.current, call, hcall, hanswer⟩

end VulnOpsHub
