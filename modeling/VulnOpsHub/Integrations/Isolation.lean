import VulnOpsHub.Cases.Runs
import VulnOpsHub.Integrations.Writes

set_option autoImplicit false

/-! # Bridges and organizations

`uq_snapshot_natural_key` and the duplicate lookup know no organization: a payload that another
organization has ingested is not ingested again, and its snapshot is returned. Everything else a
bridge reads belongs to the organization it is called for. -/

namespace VulnOpsHub

/-! ## Rows of an organization -/

/-- Two stores have the same rows and files of an organization, the rows in any order. -/
structure AgreeOn (organizationId : String) (s s' : EvidenceStore) : Prop where
  snapshots : (s.snapshots.rows.filter (·.organizationId = organizationId)).Perm
    (s'.snapshots.rows.filter (·.organizationId = organizationId))
  auditEvents : (s.auditEvents.rows.filter (·.organizationId = organizationId)).Perm
    (s'.auditEvents.rows.filter (·.organizationId = organizationId))
  outboxEvents : (s.outboxEvents.rows.filter (OutboxEvent.isOf organizationId)).Perm
    (s'.outboxEvents.rows.filter (OutboxEvent.isOf organizationId))
  aliases : SameAliases organizationId s.aliases.rows s'.aliases.rows
  files : ∀ digest path, evidenceLocalPath organizationId digest = .ok path →
    s.files path = s'.files path

/-- No row has an id that the call draws. -/
structure FreshIds (env : CallEnv) (s : EvidenceStore) : Prop where
  snapshot : env.rowId "ss_" 12 1 ∉ s.snapshots.rows.map Keyed.key
  audit : s.auditEvents.find? (env.rowId "aud_" 12 3) = none
  outbox : s.outboxEvents.find? (env.rowId "evt_" 12 4) = none

/-- Two calls have the same outcome for an organization: the same result, a snapshot of its own if
    there is one, and the same rows written, which are its own. -/
structure SameIngest (organizationId : String) (s s' : EvidenceStore)
    (x x' : Except PyError SourceSnapshot × EvidenceStore) : Prop where
  result : x.1 = x'.1
  own : ∀ snapshot, x.1 = .ok snapshot → snapshot.organizationId = organizationId
  written : ∃ w : List EvidenceRows, Written s w x.2 ∧ Written s' w x'.2 ∧
    ∀ rows ∈ w, rows.snapshot.organizationId = organizationId

theorem SameIngest.failed (organizationId : String) (s s' : EvidenceStore) (e : PyError) :
    SameIngest organizationId s s' (.error e, s) (.error e, s') :=
  ⟨rfl, fun _ h => (by cases h), [], Written.refl s, Written.refl s', by simp⟩

section Calls

variable [Python] [PythonDigits] [Driver] [Sha256]

namespace EvidenceRecord

omit [PythonDigits]

variable {r : EvidenceRecord} {env : CallEnv} {organizationId : String} {mapping : MappingResult}
  {scanMetadata : Json} {rows : EvidenceRows}

omit [Driver] in
/-- Rows with fresh ids are committed where no snapshot has their natural key. -/
theorem Describes.commit {s : EvidenceStore} (h : r.Describes env organizationId rows)
    (hids : FreshIds env s) (hkey : s.snapshots.byNatural r.key = none) :
    ∃ t, s.commit rows = .ok t := by
  have hfresh : s.snapshots.Fresh rows.snapshot := by
    rw [UniqueTable.fresh_iff, h.snapshot_id, h.natural_eq]
    exact ⟨hids.snapshot, hkey⟩
  exact EvidenceStore.commit_of_fresh hfresh (h.audit_id ▸ hids.audit) (h.outbox_id ▸ hids.outbox)

omit [Python] [Driver] in
/-- Whether the bytes can be written depends on the file of that name alone. -/
theorem persistEvidenceBytes_congr (bytes : ByteArray) {digest : String} {files files' : Files}
    (hfiles : ∀ path, evidenceLocalPath organizationId digest = .ok path → files path = files' path) :
    (∃ e, persistEvidenceBytes bytes organizationId digest files = .error e ∧
        persistEvidenceBytes bytes organizationId digest files' = .error e) ∨
      ∃ t t', persistEvidenceBytes bytes organizationId digest files = .ok t ∧
        persistEvidenceBytes bytes organizationId digest files' = .ok t' := by
  unfold persistEvidenceBytes
  cases raiseIf (Sha256.hexdigest bytes ≠ digest)
      (.valueError "digest does not match raw evidence content") with
  | error e => exact Or.inl ⟨e, rfl, rfl⟩
  | ok u =>
      cases hpath : evidenceLocalPath organizationId digest with
      | error e => exact Or.inl ⟨e, rfl, rfl⟩
      | ok path =>
          simp only [except_ok_bind]
          rcases writeOnce_congr _ bytes (hfiles path hpath) with hfailed | ⟨t, t', ht, ht', -⟩
          · exact Or.inl hfailed
          · exact Or.inr ⟨t, t', ht, ht'⟩

/-- A record of which neither store has a snapshot. -/
theorem ingestNew_sameIngest {s s' : EvidenceStore} (hagree : AgreeOn organizationId s s')
    (hids : FreshIds env s) (hids' : FreshIds env s') (hkey : s.snapshots.byNatural r.key = none)
    (hkey' : s'.snapshots.byNatural r.key = none) :
    SameIngest organizationId s s'
      ((r.ingestNew env organizationId mapping scanMetadata s).1.map EvidenceResult.sourceSnapshot,
        (r.ingestNew env organizationId mapping scanMetadata s).2)
      ((r.ingestNew env organizationId mapping scanMetadata s').1.map EvidenceResult.sourceSnapshot,
        (r.ingestNew env organizationId mapping scanMetadata s').2) := by
  unfold ingestNew
  rcases persistEvidenceBytes_congr (canonicalBytes r.raw) (hagree.files r.digest) with
    ⟨e, hwrite, hwrite'⟩ | ⟨files, files', hwrite, hwrite'⟩
  · rw [hwrite, hwrite']
    exact SameIngest.failed _ s s' e
  · rw [hwrite, hwrite']
    cases hrows : r.rows env organizationId mapping scanMetadata with
    | error e => exact ⟨rfl, fun _ h => (by cases h), [], ⟨(List.append_nil _).symm,
        (List.append_nil _).symm, (List.append_nil _).symm⟩, ⟨(List.append_nil _).symm,
        (List.append_nil _).symm, (List.append_nil _).symm⟩, by simp⟩
    | ok rows =>
        have hrow := describes_of_rows hrows
        obtain ⟨t, ht⟩ := hrow.commit (s := { s with files := files })
          ⟨hids.snapshot, hids.audit, hids.outbox⟩ hkey
        obtain ⟨t', ht'⟩ := hrow.commit (s := { s' with files := files' })
          ⟨hids'.snapshot, hids'.audit, hids'.outbox⟩ hkey'
        have hw := EvidenceStore.commit_written ht
        have hw' := EvidenceStore.commit_written ht'
        simp only [ht, ht']
        refine ⟨rfl, fun snapshot h => ?_, [rows], ⟨hw.1, hw.2, hw.3⟩, ⟨hw'.1, hw'.2, hw'.3⟩, ?_⟩
        · cases h
          exact hrow.organizationId_eq
        · intro rows' hmem
          rw [List.mem_singleton.1 hmem]
          exact hrow.organizationId_eq

/-- A snapshot that answers the lookup belongs to the organization. -/
def OwnKey (r : EvidenceRecord) (organizationId : String) (s : EvidenceStore) : Prop :=
  ∀ row ∈ s.snapshots.rows, NaturalKey.natural row = r.key → row.organizationId = organizationId

omit [Driver] in
/-- Then the stores have the same one. -/
theorem OwnKey.byNatural_eq {s s' : EvidenceStore} (hagree : AgreeOn organizationId s s')
    (hown : r.OwnKey organizationId s) (hown' : r.OwnKey organizationId s') :
    s.snapshots.byNatural r.key = s'.snapshots.byNatural r.key := by
  ext row
  simp only [UniqueTable.byNatural_eq_some]
  have hmem : ∀ row : SourceSnapshot, row.organizationId = organizationId →
      (row ∈ s.snapshots.rows ↔ row ∈ s'.snapshots.rows) := by
    intro row horg
    have hiff := hagree.snapshots.mem_iff (a := row)
    simpa [List.mem_filter, horg] using hiff
  constructor
  · rintro ⟨hrow, hkey⟩
    exact ⟨(hmem row (hown row hrow hkey)).1 hrow, hkey⟩
  · rintro ⟨hrow, hkey⟩
    exact ⟨(hmem row (hown' row hrow hkey)).2 hrow, hkey⟩

/-- **One record, two stores.** -/
theorem ingest_sameIngest_iff {s s' : EvidenceStore} (hagree : AgreeOn organizationId s s')
    (hids : FreshIds env s) (hids' : FreshIds env s') (hderived : r.derived s = r.derived s') :
    SameIngest organizationId s s'
      ((r.ingest env organizationId s).1.map EvidenceResult.sourceSnapshot,
        (r.ingest env organizationId s).2)
      ((r.ingest env organizationId s').1.map EvidenceResult.sourceSnapshot,
        (r.ingest env organizationId s').2) ↔
      ((∃ d, r.derived s = .ok d) → r.OwnKey organizationId s ∧ r.OwnKey organizationId s') := by
  unfold ingest
  rw [← hderived]
  cases r.derived s with
  | error e =>
      refine iff_of_true ?_ ?_
      · cases s.snapshots.byNatural r.key <;> cases s'.snapshots.byNatural r.key <;>
          exact SameIngest.failed _ s s' e
      · rintro ⟨d, hd⟩
        cases hd
  | ok d =>
      obtain ⟨mapping, scanMetadata⟩ := d
      constructor
      · intro h _
        have hown := h.own
        have hown' := h.result ▸ h.own
        constructor
        · intro row hrow hkey
          rw [UniqueTable.byNatural_eq_some.2 ⟨hrow, hkey⟩] at hown
          exact hown row rfl
        · intro row hrow hkey
          rw [UniqueTable.byNatural_eq_some.2 ⟨hrow, hkey⟩] at hown'
          exact hown' row rfl
      · intro h
        obtain ⟨hown, hown'⟩ := h ⟨_, rfl⟩
        have hsame := OwnKey.byNatural_eq hagree hown hown'
        cases hkey : s.snapshots.byNatural r.key with
        | none =>
            rw [← hsame, hkey]
            exact ingestNew_sameIngest hagree hids hids' hkey (hsame ▸ hkey)
        | some existing =>
            rw [← hsame, hkey]
            obtain ⟨hmem, hnatural⟩ := UniqueTable.byNatural_eq_some.1 hkey
            refine ⟨rfl, fun snapshot h => ?_, [], Written.refl s, Written.refl s', by simp⟩
            cases h
            exact hown existing hmem hnatural

end EvidenceRecord

/-! ## The bridges -/

variable {b : Bridge} {env : CallEnv} {raw : Json} {organizationId : String} {s s' : EvidenceStore}

omit [Sha256] in
/-- The mapping of a payload depends on the aliases of the organization alone. -/
theorem Bridge.derived_congr {r : EvidenceRecord} (horg : organizationId ≠ "")
    (haliases : SameAliases organizationId s.aliases.rows s'.aliases.rows)
    (h : b.record env raw organizationId = .ok r) : r.derived s = r.derived s' := by
  have hmapping : r.mapping s.aliases.rows = r.mapping s'.aliases.rows := by
    rcases Bridge.record_cases h with ⟨-, -, rfl⟩ | ⟨-, event, -, rfl⟩
    · exact mapDefectdojo_congr horg haliases raw
    · exact mapWazuh_congr horg haliases raw
  simp only [EvidenceRecord.derived, hmapping]

/-- No other organization has ingested the payload under the same key, unless the bridge refuses it
    before it looks. -/
def Bridge.Unshadowed (b : Bridge) (env : CallEnv) (raw : Json) (organizationId : String)
    (s : EvidenceStore) : Prop :=
  ∀ r, b.record env raw organizationId = .ok r → (∃ d, r.derived s = .ok d) →
    r.OwnKey organizationId s

/-- **When the bridges keep organizations apart.** In two stores that agree on an organization, a
    call for it has the same outcome exactly when neither store has a snapshot of another
    organization under the key of the payload. -/
theorem bridges_isolated_iff (horg : organizationId ≠ "") (hagree : AgreeOn organizationId s s')
    (hids : FreshIds env s) (hids' : FreshIds env s') :
    SameIngest organizationId s s' (b.deliver env raw organizationId s)
        (b.deliver env raw organizationId s') ↔
      b.Unshadowed env raw organizationId s ∧ b.Unshadowed env raw organizationId s' := by
  cases hrecord : b.record env raw organizationId with
  | error e =>
      have hshadow : ∀ t, b.Unshadowed env raw organizationId t := by
        intro t r h
        rw [hrecord] at h
        cases h
      rw [Bridge.deliver_of_error hrecord, Bridge.deliver_of_error hrecord]
      exact iff_of_true (SameIngest.failed _ s s' e) ⟨hshadow s, hshadow s'⟩
  | ok r =>
      have hderived : r.derived s = r.derived s' :=
        Bridge.derived_congr horg hagree.aliases hrecord
      have hshadow : ∀ t, b.Unshadowed env raw organizationId t ↔
          ((∃ d, r.derived t = .ok d) → r.OwnKey organizationId t) := by
        intro t
        simp [Bridge.Unshadowed, hrecord]
      rw [Bridge.deliver_of_record hrecord, Bridge.deliver_of_record hrecord,
        EvidenceRecord.ingest_sameIngest_iff hagree hids hids' hderived, hshadow, hshadow,
        ← hderived, ← imp_and]

end Calls

/-! ## Two organizations with one finding -/

/-- The digests of the findings that are delivered here and below. -/
@[reducible]
def findingDigests : Sha256 :=
  knownDigests
    [("\x7b\"component_name\":\"openssl\",\"cve\":\"CVE-2024-0001\",\"id\":\"7\"\x7d",
        "f970e3d58e17a7b8be87095eb946393232b7d605f7e78fbc26cb43ce45440a3b"),
      ("\x7b\"component_name\":\"openssl\",\"cve\":\"CVE-2024-0001\",\"id\":\"8\"\x7d",
        "dcedf759cce4d11bc2bcf9aaf4864bc05154599285c472524f53887513ac9b34"),
      ("\x7b\"component_name\":\"openssl\",\"cve\":\"CVE-2024-0001\"\x7d",
        "9001361887ae36a2339e6ccc11f29ad75a359aa7cb838fc0b3afefd5db557f34")]

def EvidenceStore.empty : EvidenceStore :=
  ⟨UniqueTable.empty, Table.empty, Table.empty, Table.empty, fun _ => none⟩

def sampleFindingRaw (id : String) : Json :=
  .obj [("id", .str id), ("cve", .str "CVE-2024-0001"), ("component_name", .str "openssl")]

/-- Call `k` delivers a finding to the DefectDojo bridge. -/
def sampleDeliver (k : ℕ) (raw : Json) (organizationId : String) (s : EvidenceStore) :
    Except PyError SourceSnapshot × EvidenceStore :=
  @Bridge.deliver asciiPython asciiDigitTable sqliteDriver findingDigests .defectdojo (sampleEnv k) raw
    organizationId s

/-- The organization `acme` has ingested finding 7. -/
def sampleIngested : EvidenceStore := (sampleDeliver 1 (sampleFindingRaw "7") "acme" .empty).2

/-- What the second organization has: nothing. -/
theorem sampleIngested_agrees : AgreeOn "globex" sampleIngested .empty := by
  refine ⟨?_, ?_, ?_, List.Perm.nil, fun digest path hpath => ?_⟩
  · rw [show sampleIngested.snapshots.rows.filter (·.organizationId = "globex") = [] by
      decide +kernel]
    exact List.Perm.nil
  · rw [show sampleIngested.auditEvents.rows.filter (·.organizationId = "globex") = [] by
      decide +kernel]
    exact List.Perm.nil
  · have hnone : (sampleIngested.outboxEvents.rows.filter (OutboxEvent.isOf "globex")).isEmpty := by
      decide +kernel
    rw [List.isEmpty_iff.1 hnone]
    exact List.Perm.nil
  · refine @EvidenceRecord.ingest_files asciiPython sqliteDriver findingDigests
      (@findingRecord asciiPython asciiDigitTable sqliteDriver (sampleEnv 1) (sampleFindingRaw "7") "acme")
      (sampleEnv 1) "acme" .empty path fun hacme => ?_
    have hsame : "acme" = "globex" := evidenceLocalPath_organization hacme hpath
    exact absurd hsame (by decide)

theorem sampleIngested_fresh : FreshIds (sampleEnv 2) sampleIngested :=
  ⟨by decide +kernel, by decide +kernel, Table.find?_eq_none.2 (by decide +kernel)⟩

theorem EvidenceStore.empty_fresh (env : CallEnv) : FreshIds env .empty :=
  ⟨List.not_mem_nil, rfl, rfl⟩

/-- The second organization is handed the snapshot of the first. -/
theorem bridges_not_isolated : ∃ s s', AgreeOn "globex" s s' ∧ FreshIds (sampleEnv 2) s ∧
    FreshIds (sampleEnv 2) s' ∧ ¬ SameIngest "globex" s s'
      (sampleDeliver 2 (sampleFindingRaw "7") "globex" s)
      (sampleDeliver 2 (sampleFindingRaw "7") "globex" s') := by
  refine ⟨sampleIngested, .empty, sampleIngested_agrees, sampleIngested_fresh,
    EvidenceStore.empty_fresh _, fun h => ?_⟩
  have hshadow : (sampleDeliver 2 (sampleFindingRaw "7") "globex" sampleIngested).1.toOption.map
      SourceSnapshot.organizationId = some "acme" := by
    decide +kernel
  have hown := h.own
  cases houtcome : (sampleDeliver 2 (sampleFindingRaw "7") "globex" sampleIngested).1 with
  | error e => rw [houtcome] at hshadow; cases hshadow
  | ok snapshot =>
      rw [houtcome] at hshadow
      have hforeign : snapshot.organizationId = "acme" := Option.some.inj hshadow
      rw [hown snapshot houtcome] at hforeign
      exact absurd hforeign (by decide)

/-- Another finding is ingested as if the first organization were not there. -/
theorem bridges_isolated_other : SameIngest "globex" sampleIngested .empty
    (sampleDeliver 2 (sampleFindingRaw "8") "globex" sampleIngested)
    (sampleDeliver 2 (sampleFindingRaw "8") "globex" .empty) := by
  refine (@bridges_isolated_iff asciiPython asciiDigitTable sqliteDriver findingDigests .defectdojo
    (sampleEnv 2) (sampleFindingRaw "8") "globex" sampleIngested .empty (by decide)
    sampleIngested_agrees sampleIngested_fresh (EvidenceStore.empty_fresh _)).2 ⟨?_, ?_⟩
  · intro r hr _ row hrow hkey
    obtain rfl := Except.ok.inj hr
    have hids : ∀ id ∈ sampleIngested.snapshots.rows.map SourceSnapshot.sourceRecordId, id = "7" := by
      decide +kernel
    have hseven := hids _ (List.mem_map_of_mem hrow)
    have height : row.sourceRecordId = "8" := congrArg SnapshotKey.sourceRecordId hkey
    rw [hseven] at height
    exact absurd height (by decide)
  · intro r hr _ row hrow
    cases hrow

end VulnOpsHub
