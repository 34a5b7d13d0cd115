import VulnOpsHub.Integrations.Writes
import VulnOpsHub.Sbom.Service

set_option autoImplicit false

/-! # What ingesting a bill of materials writes

A call that raises has written no row. A call that returns has found the document of the organization,
or has added its document with one row of each kind and an occurrence for each parsed component. -/

namespace VulnOpsHub

namespace Sbom

/-! ## Rows -/

/-- The rows of one transaction, but for the components, which other documents may share. -/
structure SbomRows where
  evidence : EvidenceRows
  document : SbomDocument
  occurrences : List ComponentOccurrence

/-- An occurrence without the reference to its component. -/
def ComponentOccurrence.unlinked (o : ComponentOccurrence) : ComponentOccurrence :=
  { o with componentId := none }

/-- The rows that have been added. -/
structure Stored (s : SbomStore) (w : List SbomRows) (t : SbomStore) : Prop where
  evidence : Written s.toEvidenceStore (w.map SbomRows.evidence) t.toEvidenceStore
  documents : t.documents.rows = s.documents.rows ++ w.map SbomRows.document
  occurrences : t.occurrences.rows.map ComponentOccurrence.unlinked
    = s.occurrences.rows.map ComponentOccurrence.unlinked ++ w.flatMap SbomRows.occurrences
  aliases : t.aliases = s.aliases

theorem Stored.refl (s : SbomStore) : Stored s [] s :=
  ⟨Written.refl _, (List.append_nil _).symm, (List.append_nil _).symm, rfl⟩

theorem Stored.trans {s t u : SbomStore} {w v : List SbomRows} (hw : Stored s w t)
    (hv : Stored t v u) : Stored s (w ++ v) u := by
  refine ⟨?_, ?_, ?_, hv.aliases.trans hw.aliases⟩
  · rw [List.map_append]
    exact hw.evidence.trans hv.evidence
  · rw [hv.documents, hw.documents, List.map_append, List.append_assoc]
  · rw [hv.occurrences, hw.occurrences, List.flatMap_append, List.append_assoc]

/-- Two stores with the same rows. -/
structure SameRows (s t : SbomStore) : Prop where
  snapshots : t.snapshots = s.snapshots
  auditEvents : t.auditEvents = s.auditEvents
  outboxEvents : t.outboxEvents = s.outboxEvents
  documents : t.documents = s.documents
  components : t.components = s.components
  occurrences : t.occurrences = s.occurrences
  aliases : t.aliases = s.aliases

theorem SameRows.refl (s : SbomStore) : SameRows s s := ⟨rfl, rfl, rfl, rfl, rfl, rfl, rfl⟩

theorem SameRows.stored {s t : SbomStore} (h : SameRows s t) : Stored s [] t := by
  refine ⟨⟨?_, ?_, ?_⟩, ?_, ?_, h.aliases⟩
  · simp [h.snapshots]
  · simp [h.auditEvents]
  · simp [h.outboxEvents]
  · simp [h.documents]
  · simp [h.occurrences]

/-- What the columns say was parsed. -/
def ComponentFields.parsed (f : ComponentFields) : ParsedComponent where
  rawName := .str f.rawName
  rawVersion := .ofOption f.rawVersion
  purl := .ofOption f.purl
  ecosystem := f.ecosystem
  normalizedName := .ofOption f.normalizedName
  cpe := .ofOption f.cpe
  versionScheme := f.versionScheme

section Components

variable [Python] [Driver]

/-- The occurrences of the components from the `i`-th on. -/
def occurrenceRows (c : SbomCall) (assetId : Option String) :
    ℕ → List ParsedComponent → Except PyError (List ComponentOccurrence)
  | _, [] => .ok []
  | i, pc :: rest => do
      let fields ← storedFields pc
      let others ← occurrenceRows c assetId (i + 1) rest
      pure (occurrenceRow c assetId i fields none :: others)

variable {c : SbomCall} {assetId : Option String} {s t : SbomStore}

omit [Python] in
/-- A round that is not refused. -/
theorem addComponent_eq_ok {i : ℕ} {pc : ParsedComponent} :
    addComponent c assetId i pc s = .ok t ↔ ∃ fields component occurrences,
      storedFields pc = .ok fields ∧ componentFor c i pc.purl fields s.components = .ok component ∧
      s.occurrences.insert (occurrenceRow c assetId i fields (some component.1)) = some occurrences ∧
      t = { s with components := component.2, occurrences := occurrences } := by
  simp only [addComponent, except_bind_eq_ok, accepted_eq_ok]
  constructor
  · rintro ⟨fields, hfields, ⟨id, components⟩, hcomponent, occurrences, hinsert, h⟩
    exact ⟨fields, (id, components), occurrences, hfields, hcomponent, hinsert,
      (Except.ok.inj h).symm⟩
  · rintro ⟨fields, ⟨id, components⟩, occurrences, hfields, hcomponent, hinsert, rfl⟩
    exact ⟨fields, hfields, (id, components), hcomponent, occurrences, hinsert, rfl⟩

omit [Python] in
/-- The loop adds the occurrences and touches nothing else but the components. -/
theorem addComponents_stored {i : ℕ} {pcs : List ParsedComponent}
    (h : addComponents c assetId i pcs s = .ok t) :
    ∃ occurrences, occurrenceRows c assetId i pcs = .ok occurrences ∧
      t.occurrences.rows.map ComponentOccurrence.unlinked
        = s.occurrences.rows.map ComponentOccurrence.unlinked ++ occurrences ∧
      t.toEvidenceStore = s.toEvidenceStore ∧ t.documents = s.documents := by
  induction pcs generalizing i s with
  | nil =>
      cases h
      exact ⟨[], rfl, (List.append_nil _).symm, rfl, rfl⟩
  | cons pc rest ih =>
      obtain ⟨u, hu, h⟩ := except_bind_eq_ok.1 h
      obtain ⟨fields, component, table, hfields, -, hinsert, rfl⟩ := addComponent_eq_ok.1 hu
      obtain ⟨occurrences, hothers, hrows, hevidence, hdocuments⟩ := ih h
      refine ⟨occurrenceRow c assetId i fields none :: occurrences, ?_, ?_, hevidence, hdocuments⟩
      · simp only [occurrenceRows, hfields, hothers, except_ok_bind]
        rfl
      · rw [hrows, Table.rows_insert hinsert, List.map_append, List.append_assoc]
        rfl

end Components

section Ingest

variable [Python] [Driver] [Sha256]

/-- The rows of a document that its organization has not submitted before. -/
def newRows (aliases : List AssetAlias) (settings : StorageSettings) (c : SbomCall) :
    Except PyError SbomRows := do
  let parsed ← parse c.raw
  let assetId ← declaredAssetId aliases c.raw c.organizationId
  let key ← sbomObjectKey c.organizationId c.digest
  let (evidence, document) ← documentRows c parsed (objectUri settings.bucket key)
  let occurrences ← occurrenceRows c assetId 0 parsed.components
  pure ⟨evidence, document, occurrences⟩

/-- The answer to a call that has added a document. -/
def SbomCall.accepted (c : SbomCall) : SubmissionResult :=
  ⟨c.sbomId, c.env.rowId "sub_" 8 5, c.digest, "accepted", c.env.clock 10⟩

/-- The answer to a call that has found a document. -/
def SbomCall.found (c : SbomCall) (existing : SbomDocument) : SubmissionResult :=
  ⟨existing.id, "sub_" ++ existing.id, c.digest, "accepted", existing.createdAt⟩

variable {settings : StorageSettings} {c : SbomCall} {parsed : ParsedSbom}
  {assetId : Option String} {uri : String} {s t : SbomStore}

theorem insertSbom_stored (h : insertSbom c parsed assetId uri s = .ok t) :
    ∃ rows occurrences, documentRows c parsed uri = .ok rows ∧
      occurrenceRows c assetId 0 parsed.components = .ok occurrences ∧
      Stored s [⟨rows.1, rows.2, occurrences⟩] t ∧ t.files = s.files := by
  simp only [insertSbom, except_bind_eq_ok, accepted_eq_ok] at h
  obtain ⟨rows, hrows, evidence, hcommit, documents, hinsert, hcomponents⟩ := h
  obtain ⟨occurrences, hoccurrences, hunlinked, hevidence, hdocuments⟩ :=
    addComponents_stored hcomponents
  have hwritten := EvidenceStore.commit_written hcommit
  obtain ⟨-, -, -, haliases, hfiles⟩ := EvidenceStore.commit_eq_ok.1 hcommit
  refine ⟨rows, occurrences, hrows, hoccurrences, ⟨?_, ?_, ?_, ?_⟩, ?_⟩
  · rw [hevidence]
    exact hwritten
  · rw [hdocuments]
    exact (UniqueTable.insert_eq_some.1 hinsert).2
  · simpa using hunlinked
  · rw [hevidence]
    exact haliases
  · rw [hevidence]
    exact hfiles

omit [Python] [Driver] in
theorem persistSbomRawBytes_key {raw : ByteArray} {organizationId digest : String}
    {objects files : Files} {x : String × Files × Files}
    (h : persistSbomRawBytes settings raw organizationId digest objects files = .ok x) :
    ∃ key, sbomObjectKey organizationId digest = .ok key ∧ x.1 = objectUri settings.bucket key := by
  simp only [persistSbomRawBytes, except_bind_eq_ok] at h
  obtain ⟨_, -, _, -, key, hkey, _, -, h⟩ := h
  exact ⟨key, hkey, by rw [← Except.ok.inj h]⟩

theorem ingestNew_cases (hparse : parse c.raw = .ok parsed)
    (hasset : declaredAssetId s.aliases.rows c.raw c.organizationId = .ok assetId) :
    (∃ e, (ingestNew settings c parsed assetId s).1 = .error e ∧
        SameRows s (ingestNew settings c parsed assetId s).2) ∨
      ∃ rows, newRows s.aliases.rows settings c = .ok rows ∧
        (ingestNew settings c parsed assetId s).1 = .ok c.accepted ∧
        Stored s [rows] (ingestNew settings c parsed assetId s).2 := by
  unfold ingestNew
  cases hpersist : persistSbomRawBytes settings (canonicalBytes c.raw) c.organizationId c.digest
      s.objects s.files with
  | error e => exact Or.inl ⟨e, rfl, SameRows.refl s⟩
  | ok x =>
      obtain ⟨uri, objects, files⟩ := x
      obtain ⟨key, hkey, rfl⟩ := persistSbomRawBytes_key hpersist
      dsimp only
      cases hinsert : insertSbom c parsed assetId (objectUri settings.bucket key)
          { s with objects := objects, files := files } with
      | error e => exact Or.inl ⟨e, rfl, rfl, rfl, rfl, rfl, rfl, rfl, rfl⟩
      | ok t =>
          obtain ⟨rows, occurrences, hrows, hoccurrences, hstored, -⟩ := insertSbom_stored hinsert
          refine Or.inr ⟨⟨rows.1, rows.2, occurrences⟩, ?_, rfl, ⟨⟨hstored.evidence.1,
            hstored.evidence.2, hstored.evidence.3⟩, hstored.2, hstored.3, hstored.4⟩⟩
          simp only [newRows, hparse, hasset, hkey, hrows, hoccurrences, except_ok_bind]
          rfl

/-- **How a call can end.** -/
theorem ingest_cases (settings : StorageSettings) (c : SbomCall) (s : SbomStore) :
    (∃ existing, s.documents.byNatural (c.digest, c.organizationId) = some existing ∧
        ingest settings c s = (.ok (c.found existing), s)) ∨
      s.documents.byNatural (c.digest, c.organizationId) = none ∧
        ((∃ e, (ingest settings c s).1 = .error e ∧ SameRows s (ingest settings c s).2) ∨
          ∃ rows, newRows s.aliases.rows settings c = .ok rows ∧
            (ingest settings c s).1 = .ok c.accepted ∧ Stored s [rows] (ingest settings c s).2) := by
  unfold ingest
  cases s.documents.byNatural (c.digest, c.organizationId) with
  | some existing => exact Or.inl ⟨existing, rfl, rfl⟩
  | none =>
      refine Or.inr ⟨rfl, ?_⟩
      dsimp only
      cases hread : readSbom c s with
      | error e => exact Or.inl ⟨e, rfl, SameRows.refl s⟩
      | ok x =>
          simp only [readSbom, except_bind_eq_ok] at hread
          obtain ⟨parsed, hparse, assetId, hasset, hx⟩ := hread
          cases hx
          exact ingestNew_cases hparse hasset

/-- **A rejected call writes no row.** -/
theorem ingest_rejected {e : PyError} (h : (ingest settings c s).1 = .error e) :
    SameRows s (ingest settings c s).2 := by
  rcases ingest_cases settings c s with ⟨existing, -, hfound⟩ | ⟨-, ⟨e', -, hsame⟩ | ⟨_, -, hok, -⟩⟩
  · rw [hfound] at h
    cases h
  · exact hsame
  · rw [hok] at h
    cases h

end Ingest

end Sbom

end VulnOpsHub
