import VulnOpsHub.Integrations.Wazuh

set_option autoImplicit false

/-! # What a bridge writes

A call of a bridge that returns has found the snapshot of its payload, or has committed the rows of a
new one. A call that raises has written no row. -/

namespace VulnOpsHub

/-! ## One commit -/

/-- The rows that have been added. -/
structure Written (s : EvidenceStore) (w : List EvidenceRows) (t : EvidenceStore) : Prop where
  snapshots : t.snapshots.rows = s.snapshots.rows ++ w.map EvidenceRows.snapshot
  auditEvents : t.auditEvents.rows = s.auditEvents.rows ++ w.map EvidenceRows.audit
  outboxEvents : t.outboxEvents.rows = s.outboxEvents.rows ++ w.map EvidenceRows.outbox

theorem Written.refl (s : EvidenceStore) : Written s [] s :=
  ⟨(List.append_nil _).symm, (List.append_nil _).symm, (List.append_nil _).symm⟩

theorem Written.trans {s t u : EvidenceStore} {w v : List EvidenceRows} (hw : Written s w t)
    (hv : Written t v u) : Written s (w ++ v) u := by
  refine ⟨?_, ?_, ?_⟩
  · rw [hv.snapshots, hw.snapshots, List.map_append, List.append_assoc]
  · rw [hv.auditEvents, hw.auditEvents, List.map_append, List.append_assoc]
  · rw [hv.outboxEvents, hw.outboxEvents, List.map_append, List.append_assoc]

theorem EvidenceStore.commit_written {s t : EvidenceStore} {rows : EvidenceRows}
    (h : s.commit rows = .ok t) : Written s [rows] t := by
  obtain ⟨hsnapshots, haudits, houtbox, -, -⟩ := commit_eq_ok.1 h
  exact ⟨(UniqueTable.insert_eq_some.1 hsnapshots).2, Table.rows_insert haudits,
    Table.rows_insert houtbox⟩

section Calls

variable [Python] [PythonDigits] [Driver] [Sha256]

namespace EvidenceRecord

omit [PythonDigits]

variable {r : EvidenceRecord} {env : CallEnv} {organizationId : String} {mapping : MappingResult}
  {scanMetadata : Json} {rows : EvidenceRows} {s : EvidenceStore}

/-- What the rows of a record say. -/
structure Describes (r : EvidenceRecord) (env : CallEnv) (organizationId : String)
    (rows : EvidenceRows) : Prop where
  natural_eq : NaturalKey.natural rows.snapshot = r.key
  organizationId_eq : rows.snapshot.organizationId = organizationId
  snapshot_id : Keyed.key rows.snapshot = env.rowId "ss_" 12 1
  audit_id : Keyed.key rows.audit = env.rowId "aud_" 12 3
  outbox_id : Keyed.key rows.outbox = env.rowId "evt_" 12 4
  action_eq : rows.audit.action = r.action
  eventType_eq : rows.outbox.eventType = r.eventType

theorem describes_of_rows (h : r.rows env organizationId mapping scanMetadata = .ok rows) :
    r.Describes env organizationId rows := by
  simp only [EvidenceRecord.rows, except_bind_eq_ok, accepted_eq_ok] at h
  obtain ⟨id, hid, uri, -, org, horg, reason, -, h⟩ := h
  cases h
  obtain rfl := Driver.eq_of_stored hid
  obtain rfl := Driver.eq_of_stored horg
  exact ⟨rfl, rfl, rfl, rfl, rfl, rfl, rfl⟩

/-- How ingesting a record can end. -/
theorem ingest_cases (r : EvidenceRecord) (env : CallEnv) (organizationId : String)
    (s : EvidenceStore) :
    (∃ e, (r.ingest env organizationId s).1 = .error e ∧ Written s [] (r.ingest env organizationId s).2)
    ∨ (∃ x, (r.ingest env organizationId s).1 = .ok x ∧
        s.snapshots.byNatural r.key = some x.sourceSnapshot ∧ (r.ingest env organizationId s).2 = s)
    ∨ ∃ x rows, (r.ingest env organizationId s).1 = .ok x ∧ s.snapshots.byNatural r.key = none ∧
        r.Describes env organizationId rows ∧ x.sourceSnapshot = rows.snapshot ∧
        Written s [rows] (r.ingest env organizationId s).2 := by
  unfold ingest
  cases hkey : s.snapshots.byNatural r.key with
  | some existing =>
      cases r.derived s with
      | error e => exact Or.inl ⟨e, rfl, Written.refl s⟩
      | ok d => exact Or.inr (Or.inl ⟨_, rfl, rfl, rfl⟩)
  | none =>
      cases r.derived s with
      | error e => exact Or.inl ⟨e, rfl, Written.refl s⟩
      | ok d =>
          simp only [ingestNew]
          cases persistEvidenceBytes (canonicalBytes r.raw) organizationId r.digest s.files with
          | error e => exact Or.inl ⟨e, rfl, Written.refl s⟩
          | ok files =>
              have hfiles := Written.refl { s with files := files }
              cases hrows : r.rows env organizationId d.1 d.2 with
              | error e => exact Or.inl ⟨e, rfl, hfiles.1, hfiles.2, hfiles.3⟩
              | ok rows =>
                  dsimp only
                  cases hcommit : EvidenceStore.commit { s with files := files } rows with
                  | error e => exact Or.inl ⟨e, rfl, hfiles.1, hfiles.2, hfiles.3⟩
                  | ok t =>
                      have hw := EvidenceStore.commit_written hcommit
                      exact Or.inr (Or.inr ⟨_, rows, rfl, trivial, describes_of_rows hrows, rfl,
                        hw.1, hw.2, hw.3⟩)

/-- What cannot be mapped is refused. -/
theorem ingest_of_underived {r : EvidenceRecord} {env : CallEnv} {organizationId : String}
    {s : EvidenceStore} {e : PyError} (h : r.derived s = .error e) :
    r.ingest env organizationId s = (.error e, s) := by
  rw [ingest, h]

theorem ingest_aliases (r : EvidenceRecord) (env : CallEnv) (organizationId : String)
    (s : EvidenceStore) : (r.ingest env organizationId s).2.aliases = s.aliases := by
  have hnew : ∀ mapping scanMetadata,
      (r.ingestNew env organizationId mapping scanMetadata s).2.aliases = s.aliases := by
    intro mapping scanMetadata
    unfold ingestNew
    cases persistEvidenceBytes (canonicalBytes r.raw) organizationId r.digest s.files with
    | error e => rfl
    | ok files =>
        cases r.rows env organizationId mapping scanMetadata with
        | error e => rfl
        | ok rows =>
            cases hcommit : EvidenceStore.commit { s with files := files } rows with
            | error e => simp [hcommit]
            | ok t => simpa [hcommit] using (EvidenceStore.commit_eq_ok.1 hcommit).2.2.2.1
  unfold ingest
  split
  · rfl
  · rfl
  · exact hnew _ _

omit [Python] [Driver] [Sha256] in
/-- The mapping depends on the aliases alone. -/
theorem derived_congr_aliases (r : EvidenceRecord) {s t : EvidenceStore} (h : t.aliases = s.aliases) :
    r.derived t = r.derived s := by
  rw [derived, derived, h]

end EvidenceRecord

/-! ## The bridges -/

variable {b : Bridge} {env : CallEnv} {raw : Json} {organizationId : String} {s : EvidenceStore}

/-- A call of a bridge ingests what the bridge makes of the payload. -/
theorem Bridge.deliver_of_record {r : EvidenceRecord} (h : b.record env raw organizationId = .ok r) :
    b.deliver env raw organizationId s =
      ((r.ingest env organizationId s).1.map EvidenceResult.sourceSnapshot,
        (r.ingest env organizationId s).2) := by
  rcases Bridge.record_cases h with ⟨rfl, ⟨id, hget⟩, rfl⟩ | ⟨rfl, event, hread, rfl⟩
  · simp only [Bridge.deliver, ingestFinding, hget]
    cases ((findingRecord env raw organizationId).ingest env organizationId s).1 <;> rfl
  · simp only [Bridge.deliver, ingestEvent, hread]
    cases ((eventRecord raw event organizationId).ingest env organizationId s).1 <;> rfl

theorem Bridge.deliver_of_error {e : PyError} (h : b.record env raw organizationId = .error e) :
    b.deliver env raw organizationId s = (.error e, s) := by
  cases b with
  | defectdojo =>
      cases hget : raw.get "id" with
      | error e' =>
          simp only [Bridge.record, hget, Except.map, Except.error.injEq] at h
          subst h
          simp [Bridge.deliver, ingestFinding, hget, Except.map]
      | ok id => simp [Bridge.record, hget, Except.map] at h
  | wazuh =>
      cases hread : readWazuhEvent raw with
      | error e' =>
          simp only [Bridge.record, hread, Except.map, Except.error.injEq] at h
          subst h
          simp [Bridge.deliver, ingestEvent, hread, Except.map]
      | ok event => simp [Bridge.record, hread, Except.map] at h

/-- How a call of a bridge can end. -/
theorem Bridge.deliver_cases (b : Bridge) (env : CallEnv) (raw : Json) (organizationId : String)
    (s : EvidenceStore) :
    (∃ e, (b.deliver env raw organizationId s).1 = .error e ∧
      Written s [] (b.deliver env raw organizationId s).2)
    ∨ ∃ r snapshot, b.record env raw organizationId = .ok r ∧
        (b.deliver env raw organizationId s).1 = .ok snapshot ∧
        (s.snapshots.byNatural r.key = some snapshot ∧ (b.deliver env raw organizationId s).2 = s ∨
          s.snapshots.byNatural r.key = none ∧ ∃ rows, r.Describes env organizationId rows ∧
            snapshot = rows.snapshot ∧ Written s [rows] (b.deliver env raw organizationId s).2) := by
  cases hrecord : b.record env raw organizationId with
  | error e =>
      rw [Bridge.deliver_of_error hrecord]
      exact Or.inl ⟨e, rfl, Written.refl s⟩
  | ok r =>
      rw [Bridge.deliver_of_record hrecord]
      rcases r.ingest_cases env organizationId s with ⟨e, he, hw⟩ | ⟨x, hx, hkey, hsame⟩ |
        ⟨x, rows, hx, hkey, hrows, hsnapshot, hw⟩
      · exact Or.inl ⟨e, by simp [he, Except.map], hw⟩
      · exact Or.inr ⟨r, x.sourceSnapshot, rfl, by simp [hx, Except.map], Or.inl ⟨hkey, hsame⟩⟩
      · exact Or.inr ⟨r, x.sourceSnapshot, rfl, by simp [hx, Except.map],
          Or.inr ⟨hkey, rows, hrows, hsnapshot, hw⟩⟩

/-- A call writes no aliases. -/
theorem Bridge.deliver_aliases (b : Bridge) (env : CallEnv) (raw : Json) (organizationId : String)
    (s : EvidenceStore) : (b.deliver env raw organizationId s).2.aliases = s.aliases := by
  cases hrecord : b.record env raw organizationId with
  | error e => rw [Bridge.deliver_of_error hrecord]
  | ok r =>
      rw [Bridge.deliver_of_record hrecord]
      exact r.ingest_aliases env organizationId s

/-- What a call of the bridge accepts has a record and a mapping. -/
theorem Bridge.derived_of_accepted {snapshot : SourceSnapshot}
    (h : (b.deliver env raw organizationId s).1 = .ok snapshot) :
    ∃ r d, b.record env raw organizationId = .ok r ∧ r.derived s = .ok d := by
  cases hrecord : b.record env raw organizationId with
  | error e =>
      rw [Bridge.deliver_of_error hrecord] at h
      cases h
  | ok r =>
      cases hderived : r.derived s with
      | error e =>
          rw [Bridge.deliver_of_record hrecord, EvidenceRecord.ingest_of_underived hderived] at h
          cases h
      | ok d => exact ⟨r, d, rfl, hderived⟩

omit [Sha256] in
/-- Another call makes a record of the same payload, too, and derives the same from it. -/
theorem Bridge.record_again {r : EvidenceRecord} (h : b.record env raw organizationId = .ok r)
    (env' : CallEnv) :
    ∃ r', b.record env' raw organizationId = .ok r' ∧ ∀ s, r'.derived s = r.derived s := by
  rcases Bridge.record_cases h with ⟨rfl, ⟨id, hget⟩, rfl⟩ | ⟨rfl, event, -, rfl⟩
  · refine ⟨findingRecord env' raw organizationId, ?_, fun s => rfl⟩
    rw [Bridge.record, hget]
    rfl
  · exact ⟨_, h, fun s => rfl⟩

/-- A call whose payload has a snapshot and a mapping returns the snapshot. -/
theorem Bridge.deliver_of_found {r : EvidenceRecord} {snapshot : SourceSnapshot}
    {d : MappingResult × Json} (hrecord : b.record env raw organizationId = .ok r)
    (hderived : r.derived s = .ok d) (hfound : s.snapshots.byNatural r.key = some snapshot) :
    (b.deliver env raw organizationId s).1 = .ok snapshot := by
  rw [Bridge.deliver_of_record hrecord, EvidenceRecord.ingest, hfound, hderived]
  rfl

end Calls

end VulnOpsHub
