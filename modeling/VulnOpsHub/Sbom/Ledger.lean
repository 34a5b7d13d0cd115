import VulnOpsHub.Lib.Register
import VulnOpsHub.Sbom.Storable

set_option autoImplicit false

/-! # The ledger of bills of materials

What ingesting is for: a register in which a document is filed once for each organization. As long as
documents can be stored, `ingest` answers as the register does, and the store holds its entries. -/

namespace VulnOpsHub

namespace Sbom

section Ledger

variable [Python] [Driver] [Sha256]

/-- What a document is filed under. -/
def SbomCall.key (c : SbomCall) : String × String := (c.digest, c.organizationId)

def sbomRegister (aliases : List AssetAlias) :
    Register (StorageSettings × SbomCall) (String × String) SbomRows PyError where
  key := fun x => x.2.key
  make := fun x => newRows aliases x.1 x.2

/-- The answer of `ingest` when the register has filed the call. -/
def SbomCall.answer (c : SbomCall) (filed : Filed SbomRows) : SubmissionResult :=
  if filed.new then c.accepted else c.found filed.entry.document

/-- What the rows filed under a key say. -/
structure SbomRows.FiledUnder (rows : SbomRows) (k : String × String) : Prop where
  document : NaturalKey.natural rows.document = k
  snapshot : rows.evidence.snapshot.source = "sbom" ∧
    (rows.evidence.snapshot.contentSha256, rows.evidence.snapshot.organizationId) = k
  audit : rows.evidence.audit.subjectType = "sbom" ∧
    rows.evidence.audit.subjectId = rows.document.id ∧ rows.evidence.audit.organizationId = k.2
  outbox : rows.evidence.outbox.aggregateType = "sbom" ∧
    rows.evidence.outbox.aggregateId = rows.document.id ∧
    ∀ o, rows.evidence.outbox.isOf o = decide (k.2 = o)
  occurrences : ∀ o ∈ rows.occurrences, o.sbomId = rows.document.id

variable {aliases : List AssetAlias} {settings : StorageSettings} {c : SbomCall} {rows : SbomRows}

omit [Python] [Sha256] in
theorem occurrenceRows_sbomId {assetId : Option String} {i : ℕ} {pcs : List ParsedComponent}
    {occurrences : List ComponentOccurrence} (h : occurrenceRows c assetId i pcs = .ok occurrences) :
    ∀ o ∈ occurrences, o.sbomId = c.sbomId := by
  induction pcs generalizing i occurrences with
  | nil =>
      cases h
      simp
  | cons pc rest ih =>
      simp only [occurrenceRows, except_bind_eq_ok] at h
      obtain ⟨fields, -, others, hothers, h⟩ := h
      cases h
      intro o ho
      rcases List.mem_cons.1 ho with rfl | ho
      · rfl
      · exact ih hothers o ho

omit [Python] [Sha256] in
/-- Occurrences repeat what was parsed. -/
theorem occurrenceRows_parsed {assetId : Option String} {i : ℕ} {pcs : List ParsedComponent}
    {occurrences : List ComponentOccurrence} (h : occurrenceRows c assetId i pcs = .ok occurrences)
    (hcolumns : ∀ pc ∈ pcs, StoredAsParsed pc) : occurrences.map (·.fields.parsed) = pcs := by
  induction pcs generalizing i occurrences with
  | nil =>
      cases h
      rfl
  | cons pc rest ih =>
      simp only [occurrenceRows, except_bind_eq_ok] at h
      obtain ⟨fields, hfields, others, hothers, h⟩ := h
      cases h
      obtain ⟨⟨fields', hfields', hparsed⟩, -⟩ := hcolumns pc List.mem_cons_self
      obtain rfl := Except.ok.inj (hfields.symm.trans hfields')
      rw [List.map_cons, ih hothers fun pc hpc => hcolumns pc (List.mem_cons_of_mem _ hpc)]
      exact congrArg (· :: rest) hparsed

/-- What `newRows` reads. -/
theorem newRows_eq_ok (h : newRows aliases settings c = .ok rows) :
    ∃ parsed assetId uri, parse c.raw = .ok parsed ∧
      documentRows c parsed uri = .ok (rows.evidence, rows.document) ∧
      occurrenceRows c assetId 0 parsed.components = .ok rows.occurrences := by
  simp only [newRows, except_bind_eq_ok] at h
  obtain ⟨parsed, hparse, assetId, -, key, -, x, hrows, occurrences, hoccurrences, h⟩ := h
  cases h
  exact ⟨parsed, assetId, _, hparse, hrows, hoccurrences⟩

theorem newRows_filedUnder (h : newRows aliases settings c = .ok rows) :
    rows.FiledUnder c.key ∧ rows.document.id = c.sbomId := by
  obtain ⟨parsed, assetId, uri, -, hrows, hoccurrences⟩ := newRows_eq_ok h
  have hdescribes := documentRows_describes hrows
  have hid : rows.document.id = c.sbomId := hdescribes.document_id
  obtain ⟨haudit, hsubject⟩ := hdescribes.audit_subject
  obtain ⟨houtbox, haggregate⟩ := hdescribes.outbox_aggregate
  have hkey := hdescribes.snapshot_key
  refine ⟨⟨hdescribes.document_key, ⟨congrArg SnapshotKey.source hkey,
    Prod.ext (congrArg SnapshotKey.contentSha256 hkey) hdescribes.snapshot_organization⟩,
    ⟨haudit, hsubject.trans hid.symm, hdescribes.audit_organization⟩,
    ⟨houtbox, haggregate.trans hid.symm, hdescribes.outbox_organization⟩, fun o ho => ?_⟩, hid⟩
  rw [hid]
  exact occurrenceRows_sbomId hoccurrences o ho

/-! ## What the store holds -/

/-- No bill of materials has been ingested, and no file is corrupt. -/
structure Pristine (s : SbomStore) : Prop where
  documents : s.documents.rows = []
  occurrences : s.occurrences.rows = []
  snapshots : ∀ r ∈ s.snapshots.rows, r.source ≠ "sbom"
  auditEvents : ∀ r ∈ s.auditEvents.rows, r.subjectType ≠ "sbom"
  outboxEvents : ∀ r ∈ s.outboxEvents.rows, r.aggregateType ≠ "sbom"
  files : SoundFiles s.files

/-- The store holds the entries of a ledger, besides what was there before. -/
structure Holds (s₀ : SbomStore) (w : List ((String × String) × SbomRows)) (s : SbomStore) :
    Prop where
  stored : Stored s₀ (w.map Prod.snd) s
  files : SoundFiles s.files
  filed : ∀ p ∈ w, p.2.FiledUnder p.1

/-- A document that can be stored, in a state that has neither its ids nor a snapshot of another
    organization under its key. -/
structure Admitted (settings : StorageSettings) (c : SbomCall) (parsed : ParsedSbom)
    (s : SbomStore) : Prop where
  storable : Storable s.aliases.rows settings c parsed
  fresh : FreshSbomIds c parsed.components.length s
  unshadowed : ∀ row ∈ s.snapshots.rows, NaturalKey.natural row = c.snapshotKey parsed →
    row.organizationId = c.organizationId

/-- **The condition on a call**: if its document is new for the organization and accepted by the
    parser, it is admitted. -/
def Admissible (settings : StorageSettings) (c : SbomCall) (s : SbomStore) : Prop :=
  s.documents.byNatural c.key = none → ∀ parsed, parse c.raw = .ok parsed →
    Admitted settings c parsed s

variable {parsed : ParsedSbom} {assetId : Option String} {s s₀ t : SbomStore}
  {w : List ((String × String) × SbomRows)}

/-- Ingesting corrupts no file. -/
theorem ingest_files_sound (settings : StorageSettings) (c : SbomCall)
    (hsound : SoundFiles s.files) : SoundFiles (ingest settings c s).2.files := by
  have hnew : ∀ parsed assetId, SoundFiles (ingestNew settings c parsed assetId s).2.files := by
    intro parsed assetId
    unfold ingestNew
    cases hpersist : persistSbomRawBytes settings (canonicalBytes c.raw) c.organizationId c.digest
        s.objects s.files with
    | error e => exact hsound
    | ok x =>
        obtain ⟨uri, objects, files⟩ := x
        have hfiles : SoundFiles files := hsound.persist hpersist
        dsimp only
        cases hinsert : insertSbom c parsed assetId uri
            { s with objects := objects, files := files } with
        | error e => exact hfiles
        | ok t =>
            obtain ⟨-, -, -, -, -, ht⟩ := insertSbom_stored hinsert
            show SoundFiles t.files
            rw [ht]
            exact hfiles
  unfold ingest
  split
  · exact hsound
  · split
    · exact hsound
    · exact hnew _ _

/-- Ingesting keeps occurrences and components together. -/
theorem ingest_linked (hadmissible : Admissible settings c s) (hlinked : Linked s) :
    Linked (ingest settings c s).2 := by
  unfold ingest
  split
  · exact hlinked
  · next hnone =>
      cases hread : readSbom c s with
      | error e => exact hlinked
      | ok x =>
          simp only [readSbom, except_bind_eq_ok] at hread
          obtain ⟨parsed, hparse, assetId, -, hx⟩ := hread
          cases hx
          have hcolumns := (hadmissible hnone parsed hparse).storable.components
          unfold ingestNew
          dsimp only
          split
          · exact hlinked
          · split
            · exact hlinked
            · next hinsert =>
                simp only [insertSbom, except_bind_eq_ok] at hinsert
                obtain ⟨rows, -, evidence, -, documents, -, hcomponents⟩ := hinsert
                refine addComponents_linked hcolumns ?_ hcomponents
                exact hlinked

/-- The transaction of a document that is admitted goes through. -/
theorem insertSbom_ok (assetId : Option String) {uri : String}
    (hrows : ∃ rows, documentRows c parsed uri = .ok rows)
    (hcolumns : ∀ pc ∈ parsed.components, StoredAsParsed pc)
    (hfresh : FreshSbomIds c parsed.components.length s) (hnone : s.documents.byNatural c.key = none)
    (hkey : s.snapshots.byNatural (c.snapshotKey parsed) = none) :
    ∃ t, insertSbom c parsed assetId uri s = .ok t := by
  obtain ⟨rows, hrows⟩ := hrows
  have hdescribes := documentRows_describes hrows
  have hsnapshot : s.snapshots.Fresh rows.1.snapshot := by
    rw [UniqueTable.fresh_iff, hdescribes.snapshot_id, hdescribes.snapshot_key]
    exact ⟨hfresh.snapshot, hkey⟩
  have hdocument : s.documents.Fresh rows.2 := by
    rw [UniqueTable.fresh_iff, hdescribes.document_key]
    refine ⟨?_, hnone⟩
    rw [show Keyed.key rows.2 = c.sbomId from hdescribes.document_id]
    exact hfresh.sbom
  obtain ⟨evidence, hcommit⟩ := EvidenceStore.commit_of_fresh hsnapshot
    (hdescribes.audit_id ▸ hfresh.audit) (hdescribes.outbox_id ▸ hfresh.outbox)
  cases hinsert : s.documents.insert rows.2 with
  | none => exact absurd hdocument (UniqueTable.insert_eq_none.1 hinsert)
  | some documents =>
      obtain ⟨t, ht⟩ := addComponents_ok assetId (i := 0) hcolumns
        (s := { s with toEvidenceStore := evidence, documents := documents })
        ⟨hfresh.components.components, hfresh.components.occurrences, hfresh.components.distinct⟩
        (Nat.zero_add _)
      refine ⟨t, ?_⟩
      simp only [insertSbom, hrows, hcommit, accepted_eq_ok.2 hinsert, except_ok_bind]
      exact ht

/-- **An admitted document is ingested.** -/
theorem ingest_ok (hnone : s.documents.byNatural c.key = none) (hparse : parse c.raw = .ok parsed)
    (hadmitted : Admitted settings c parsed s) (hsound : SoundFiles s.files)
    (hkey : s.snapshots.byNatural (c.snapshotKey parsed) = none) :
    (ingest settings c s).1 = .ok c.accepted := by
  obtain ⟨assetId, hasset⟩ := hadmitted.storable.asset
  have hdigest : c.digest = Sha256.hexdigest (canonicalBytes c.raw) := rfl
  obtain ⟨⟨uri, objects, files⟩, hpersist⟩ := hadmitted.storable.ready.persist_ok s.objects
    hadmitted.storable.segment hdigest hsound
  have hfresh := hadmitted.fresh
  obtain ⟨t, ht⟩ := insertSbom_ok (s := { s with objects := objects, files := files }) assetId
    (hadmitted.storable.rows uri) hadmitted.storable.components
    ⟨hfresh.sbom, hfresh.snapshot, hfresh.audit, hfresh.outbox, ⟨hfresh.components.components,
      hfresh.components.occurrences, hfresh.components.distinct⟩⟩ hnone hkey
  have hnone' : s.documents.byNatural (c.digest, c.organizationId) = none := hnone
  simp only [ingest, hnone', readSbom, hparse, hasset, except_ok_bind, pure, Except.pure, ingestNew,
    hpersist, ht]
  rfl

end Ledger

end Sbom

end VulnOpsHub
