import VulnOpsHub.Sbom.Writes

set_option autoImplicit false

/-! # When a bill of materials can be stored

A document that the parser accepts is stored when its values fit the columns, the object store can
take it, the ids are fresh, and no other organization has a snapshot under its natural key. -/

namespace VulnOpsHub

namespace Sbom

/-! ## Raw bytes -/

/-- A safe segment ends where the next slash is. -/
theorem segment_inj {a a' b b' : List Char} (ha : '/' ∉ a) (ha' : '/' ∉ a')
    (h : a ++ '/' :: b = a' ++ '/' :: b') : a = a' ∧ b = b' := by
  have hhead := congrArg (splitHead '/') h
  rw [splitHead_append_cons, splitHead_append_cons, splitHead_self ha, splitHead_self ha'] at hhead
  subst hhead
  exact ⟨rfl, (List.cons.inj (List.append_cancel_left h)).2⟩

theorem sbomObjectKey_eq_ok {organizationId digest key : String} :
    sbomObjectKey organizationId digest = .ok key ↔ unsafeSegment organizationId = false ∧
      key = "sbom/" ++ organizationId ++ "/" ++ digest ++ ".json" := by
  simp only [sbomObjectKey, except_bind_eq_ok, validateOrganizationId_eq_ok]
  constructor
  · rintro ⟨segment, ⟨hsafe, rfl⟩, h⟩
    exact ⟨hsafe, (Except.ok.inj h).symm⟩
  · rintro ⟨hsafe, rfl⟩
    exact ⟨_, ⟨hsafe, rfl⟩, rfl⟩

/-- The key of an object tells its digest. -/
theorem sbomObjectKey_inj {o o' digest digest' key : String} (h : sbomObjectKey o digest = .ok key)
    (h' : sbomObjectKey o' digest' = .ok key) : digest = digest' := by
  obtain ⟨hsafe, rfl⟩ := sbomObjectKey_eq_ok.1 h
  obtain ⟨hsafe', hkey⟩ := sbomObjectKey_eq_ok.1 h'
  have hslash : ∀ {org : String}, unsafeSegment org = false → '/' ∉ org.toList := by
    intro org hsafe hmem
    simp [unsafeSegment, hmem] at hsafe
  have hchars := congrArg String.toList hkey
  simp only [String.toList_append, List.append_assoc] at hchars
  have hrest := (segment_inj (hslash hsafe) (hslash hsafe') (List.append_cancel_left hchars)).2
  exact String.toList_inj.1 (List.append_cancel_right hrest)

section Files

variable [Sha256]

/-- Every file under the name of a digest has that digest. -/
def SoundFiles (files : Files) : Prop :=
  ∀ organizationId digest key content, sbomObjectKey organizationId digest = .ok key →
    files (localSbomPath key) = some content → Sha256.hexdigest content = digest

theorem SoundFiles.writeOnce {mismatch organizationId digest key : String} {rawBytes : ByteArray}
    {files files' : Files} (hsound : SoundFiles files)
    (hkey : sbomObjectKey organizationId digest = .ok key)
    (hdigest : Sha256.hexdigest rawBytes = digest)
    (h : writeOnce mismatch (localSbomPath key) rawBytes digest files = .ok files') :
    SoundFiles files' := by
  intro o d k content hk hcontent
  by_cases hpath : localSbomPath k = localSbomPath key
  · have hsame : k = key := by
      have hchars := congrArg String.toList hpath
      simp only [localSbomPath, String.toList_append] at hchars
      exact String.toList_inj.1 (List.append_cancel_left hchars)
    subst hsame
    obtain rfl := sbomObjectKey_inj hk hkey
    unfold VulnOpsHub.writeOnce at h
    split at h
    · split_ifs at h
      rw [← Except.ok.inj h] at hcontent
      exact hsound o d k content hk hcontent
    · rw [← Except.ok.inj h, Function.update_self] at hcontent
      rw [← Option.some.inj hcontent, hdigest]
  · rw [writeOnce_frame h hpath] at hcontent
    exact hsound o d k content hk hcontent

/-- A file that is sound does not stop the next write. -/
theorem SoundFiles.writeOnce_ok {organizationId digest key : String} {files : Files}
    (hsound : SoundFiles files) (mismatch : String) (rawBytes : ByteArray)
    (hkey : sbomObjectKey organizationId digest = .ok key) :
    ∃ files', VulnOpsHub.writeOnce mismatch (localSbomPath key) rawBytes digest files
      = .ok files' := by
  unfold VulnOpsHub.writeOnce
  cases hcontent : files (localSbomPath key) with
  | none => exact ⟨_, rfl⟩
  | some content => exact ⟨files, if_pos (hsound _ _ _ _ hkey hcontent)⟩

variable {settings : StorageSettings} {organizationId digest : String} {rawBytes : ByteArray}
  {objects files : Files}

theorem SoundFiles.persist (hsound : SoundFiles files) {x : String × Files × Files}
    (h : persistSbomRawBytes settings rawBytes organizationId digest objects files = .ok x) :
    SoundFiles x.2.2 := by
  simp only [persistSbomRawBytes, except_bind_eq_ok, raiseIf_eq_ok, not_not] at h
  obtain ⟨-, hdigest, -, -, key, hkey, y, hput, hx⟩ := h
  rw [← Except.ok.inj hx]
  simp only [putObject, except_bind_eq_ok] at hput
  obtain ⟨-, -, hput⟩ := hput
  by_cases hlocal : settings.state ≠ .enabled ∨ settings.localMirror
  · rw [if_pos hlocal] at hput
    obtain ⟨files', hwrite, hy⟩ := except_bind_eq_ok.1 hput
    rw [← Except.ok.inj hy]
    exact hsound.writeOnce hkey hdigest.symm hwrite
  · rw [if_neg hlocal] at hput
    rw [← Except.ok.inj hput]
    exact hsound

/-- The object store can be used. -/
structure StorageSettings.Ready (settings : StorageSettings) : Prop where
  configured : settings.state ≠ .incomplete
  reachable : settings.state = .enabled → settings.failure = none

omit [Sha256] in
/-- A service that is reachable raises nothing. -/
theorem StorageSettings.Ready.failure_ok (hready : settings.Ready) :
    (settings.failure.elim (.ok ()) fun e => raiseIf (settings.state = .enabled) e)
      = (.ok () : Except PyError Unit) := by
  cases hfailure : settings.failure with
  | none => rfl
  | some e =>
      refine raiseIf_eq_ok.2 fun henabled => ?_
      rw [hready.reachable henabled] at hfailure
      cases hfailure

theorem StorageSettings.Ready.persist_ok (hready : settings.Ready) (objects : Files)
    (hsegment : unsafeSegment organizationId = false)
    (hdigest : digest = Sha256.hexdigest rawBytes) (hsound : SoundFiles files) :
    ∃ x, persistSbomRawBytes settings rawBytes organizationId digest objects files = .ok x := by
  obtain ⟨key, hkey⟩ : ∃ key, sbomObjectKey organizationId digest = .ok key :=
    ⟨_, sbomObjectKey_eq_ok.2 ⟨hsegment, rfl⟩⟩
  have hpass : ∀ {p : Prop} [Decidable p] (e : PyError), ¬ p → raiseIf p e = .ok () :=
    fun _ hp => raiseIf_eq_ok.2 hp
  simp only [persistSbomRawBytes, hkey, hpass _ (not_not.2 hdigest), hpass _ hready.configured,
    except_ok_bind, putObject, hready.failure_ok]
  by_cases hlocal : settings.state ≠ .enabled ∨ settings.localMirror
  · obtain ⟨files', hwrite⟩ := hsound.writeOnce_ok "existing local SBOM digest mismatch" rawBytes hkey
    simp only [if_pos hlocal, hwrite, except_ok_bind]
    exact ⟨_, rfl⟩
  · simp only [if_neg hlocal]
    exact ⟨_, rfl⟩

end Files

/-! ## Rows -/

section Rows

variable [Python] [Driver]

/-- The columns store a component as it was parsed. -/
def StoredAsParsed (pc : ParsedComponent) : Prop :=
  (∃ fields, storedFields pc = .ok fields ∧ fields.parsed = pc) ∧
    (pc.purl.truthy = true → ∃ text, Driver.compared pc.purl = some text)

/-- The ids of the components from the `i`-th on are fresh. -/
structure FreshFrom (c : SbomCall) (i n : ℕ) (s : SbomStore) : Prop where
  components : ∀ j, i ≤ j → j < n → s.components.find? (c.componentId j) = none
  occurrences : ∀ j, i ≤ j → j < n → s.occurrences.find? (c.occurrenceId j) = none
  distinct : ∀ j k, j < k → k < n →
    c.componentId j ≠ c.componentId k ∧ c.occurrenceId j ≠ c.occurrenceId k

variable {c : SbomCall} {assetId : Option String} {s : SbomStore}

omit [Python] in
/-- Finding or adding a component takes no id but its own. -/
theorem componentFor_ok {i : ℕ} {purl : Json} {components : Table Component}
    (fields : ComponentFields) (hpurl : purl.truthy = true → ∃ text, Driver.compared purl = some text)
    (hfresh : components.find? (c.componentId i) = none) :
    ∃ x, componentFor c i purl fields components = .ok x ∧
      ∀ k, k ≠ c.componentId i → x.2.find? k = components.find? k := by
  obtain ⟨existing, hexisting⟩ : ∃ existing, (if purl.truthy then do
      let text ← accepted (Driver.compared purl)
      pure (components.rows.find? fun component => component.purl = some text)
    else pure none : Except PyError (Option Component)) = .ok existing := by
    by_cases htruthy : purl.truthy = true
    · obtain ⟨text, htext⟩ := hpurl htruthy
      simp only [htruthy, if_true, accepted_eq_ok.2 htext, except_ok_bind]
      exact ⟨_, rfl⟩
    · simp only [htruthy, Bool.false_eq_true, if_false]
      exact ⟨none, rfl⟩
  simp only [componentFor, hexisting, except_ok_bind]
  cases existing with
  | some component => exact ⟨_, rfl, fun k _ => rfl⟩
  | none =>
      obtain ⟨table, htable⟩ := Table.insert_eq_some
        (r := componentRow c i (if purl.truthy then fields.purl else none) fields) hfresh
      simp only [Option.elim, accepted_eq_ok.2 htable, except_ok_bind]
      refine ⟨_, rfl, fun k hk => ?_⟩
      rw [Table.find?_insert htable]
      exact if_neg (Ne.symm hk)

omit [Python] in
theorem addComponents_ok (assetId : Option String) {i n : ℕ} {pcs : List ParsedComponent}
    (hcolumns : ∀ pc ∈ pcs, StoredAsParsed pc) (hfresh : FreshFrom c i n s)
    (hn : i + pcs.length = n) : ∃ t, addComponents c assetId i pcs s = .ok t := by
  induction pcs generalizing i s with
  | nil => exact ⟨s, rfl⟩
  | cons pc rest ih =>
      rw [List.length_cons] at hn
      obtain ⟨⟨fields, hfields, -⟩, hpurl⟩ := hcolumns pc List.mem_cons_self
      obtain ⟨component, hcomponent, hothers⟩ :=
        componentFor_ok (c := c) fields hpurl (hfresh.components i le_rfl (by omega))
      obtain ⟨table, htable⟩ := Table.insert_eq_some
        (r := occurrenceRow c assetId i fields (some component.1))
        (hfresh.occurrences i le_rfl (by omega))
      have hstep : addComponent c assetId i pc s
          = .ok { s with components := component.2, occurrences := table } :=
        addComponent_eq_ok.2 ⟨fields, component, table, hfields, hcomponent, htable, rfl⟩
      simp only [addComponents, hstep, except_ok_bind]
      refine ih (fun pc hpc => hcolumns pc (List.mem_cons_of_mem _ hpc)) ⟨?_, ?_, hfresh.distinct⟩
        (by omega)
      · intro j hj hjn
        rw [hothers _ (hfresh.distinct i j (by omega) hjn).1.symm]
        exact hfresh.components j (by omega) hjn
      · intro j hj hjn
        rw [Table.find?_insert htable]
        exact (if_neg (hfresh.distinct i j (by omega) hjn).2).trans
          (hfresh.occurrences j (by omega) hjn)

/-- Each occurrence refers to a component with its purl, or without one if its purl is empty. -/
def Linked (s : SbomStore) : Prop :=
  ∀ o ∈ s.occurrences.rows, ∃ component ∈ s.components.rows,
    o.componentId = some component.id ∧ component.purl = nonEmpty o.fields.purl

omit [Python] [Driver] in
/-- Of the texts only the empty one is falsy. -/
theorem if_truthy_purl (fields : ComponentFields) :
    (if fields.parsed.purl.truthy then fields.purl else none) = nonEmpty fields.purl := by
  cases hpurl : fields.purl with
  | none => simp [ComponentFields.parsed, hpurl, Json.ofOption, nonEmpty]
  | some purl =>
      by_cases hempty : purl = "" <;>
        simp [ComponentFields.parsed, hpurl, Json.ofOption, Json.truthy, nonEmpty, Option.filter,
          hempty]

omit [Python] in
/-- A component that is found has the purl that was looked for. -/
theorem componentFor_linked {i : ℕ} {pc : ParsedComponent} {fields : ComponentFields}
    {components : Table Component} {x : String × Table Component} (hparsed : fields.parsed = pc)
    (h : componentFor c i pc.purl fields components = .ok x) :
    (∃ component ∈ x.2.rows, component.id = x.1 ∧ component.purl = nonEmpty fields.purl) ∧
      ∀ component ∈ components.rows, component ∈ x.2.rows := by
  have hown : (if pc.purl.truthy then fields.purl else none) = nonEmpty fields.purl := by
    subst hparsed
    exact if_truthy_purl fields
  obtain ⟨existing, hexisting, h⟩ := except_bind_eq_ok.1 h
  cases existing with
  | none =>
      obtain ⟨table, htable, hx⟩ := except_bind_eq_ok.1 h
      cases hx
      simp only [Table.rows_insert (accepted_eq_ok.1 htable)]
      exact ⟨⟨_, List.mem_append_right _ (List.mem_singleton.2 rfl), rfl, hown⟩,
        fun component hmem => List.mem_append_left _ hmem⟩
  | some component =>
      cases h
      have hfound : ∃ text, pc.purl.truthy = true ∧ Driver.compared pc.purl = some text ∧
          components.rows.find? (fun component => component.purl = some text)
            = some component := by
        by_cases htruthy : pc.purl.truthy = true
        · simp only [htruthy, if_true, except_bind_eq_ok, accepted_eq_ok] at hexisting
          obtain ⟨text, htext, hfind⟩ := hexisting
          exact ⟨text, htruthy, htext, Except.ok.inj hfind⟩
        · simp only [htruthy, Bool.false_eq_true, if_false] at hexisting
          cases hexisting
      obtain ⟨text, htruthy, htext, hfind⟩ := hfound
      have hpurl : component.purl = some text := by simpa using List.find?_some hfind
      refine ⟨⟨component, List.mem_of_find?_eq_some hfind, rfl, ?_⟩, fun _ hmem => hmem⟩
      rw [hpurl, ← hown, if_pos htruthy]
      subst hparsed
      cases hfields : fields.purl with
      | none =>
          simp only [ComponentFields.parsed, hfields, Json.ofOption] at htruthy
          cases htruthy
      | some purl =>
          simp only [ComponentFields.parsed, hfields, Json.ofOption] at htext
          rw [Driver.eq_of_compared htext]

omit [Python] in
theorem addComponents_linked {t : SbomStore} {i : ℕ} {pcs : List ParsedComponent}
    (hcolumns : ∀ pc ∈ pcs, StoredAsParsed pc) (hlinked : Linked s)
    (h : addComponents c assetId i pcs s = .ok t) : Linked t := by
  induction pcs generalizing i s with
  | nil =>
      cases h
      exact hlinked
  | cons pc rest ih =>
      obtain ⟨u, hu, h⟩ := except_bind_eq_ok.1 h
      obtain ⟨fields, component, table, hfields, hcomponent, hinsert, rfl⟩ := addComponent_eq_ok.1 hu
      obtain ⟨⟨fields', hfields', hparsed⟩, -⟩ := hcolumns pc List.mem_cons_self
      obtain rfl := Except.ok.inj (hfields.symm.trans hfields')
      obtain ⟨⟨own, hown, hid, hpurl⟩, hkept⟩ := componentFor_linked hparsed hcomponent
      refine ih (fun pc hpc => hcolumns pc (List.mem_cons_of_mem _ hpc)) (fun o ho => ?_) h
      rw [Table.rows_insert hinsert] at ho
      rcases List.mem_append.1 ho with ho | ho
      · obtain ⟨linked, hmem, hlink⟩ := hlinked o ho
        exact ⟨linked, hkept linked hmem, hlink⟩
      · rw [List.mem_singleton.1 ho]
        exact ⟨own, hown, congrArg some hid.symm, hpurl⟩

variable [Sha256]

/-- **What it takes to store a document**, of the call and the aliases alone. -/
structure Storable (aliases : List AssetAlias) (settings : StorageSettings) (c : SbomCall)
    (parsed : ParsedSbom) : Prop where
  segment : unsafeSegment c.organizationId = false
  ready : settings.Ready
  asset : ∃ assetId, declaredAssetId aliases c.raw c.organizationId = .ok assetId
  rows : ∀ uri, ∃ rows, documentRows c parsed uri = .ok rows
  components : ∀ pc ∈ parsed.components, StoredAsParsed pc

/-- No row has an id that the call draws, and it draws no id twice. -/
structure FreshSbomIds (c : SbomCall) (n : ℕ) (s : SbomStore) : Prop where
  sbom : c.sbomId ∉ s.documents.rows.map Keyed.key
  snapshot : c.snapshotId ∉ s.snapshots.rows.map Keyed.key
  audit : s.auditEvents.find? (c.env.rowId "aud_" 12 4) = none
  outbox : s.outboxEvents.find? (c.env.rowId "evt_" 12 3) = none
  components : FreshFrom c 0 n s

/-- The key under which the snapshot of a document is unique, for all organizations. -/
def SbomCall.snapshotKey (c : SbomCall) (parsed : ParsedSbom) : SnapshotKey :=
  ⟨"sbom", pyStr (serialOf c parsed), c.digest⟩

/-- What the rows of a document say. -/
structure DocumentDescribes (c : SbomCall) (parsed : ParsedSbom)
    (rows : EvidenceRows × SbomDocument) : Prop where
  snapshot_id : Keyed.key rows.1.snapshot = c.snapshotId
  snapshot_key : NaturalKey.natural rows.1.snapshot = c.snapshotKey parsed
  snapshot_organization : rows.1.snapshot.organizationId = c.organizationId
  audit_id : Keyed.key rows.1.audit = c.env.rowId "aud_" 12 4
  audit_subject : rows.1.audit.subjectType = "sbom" ∧ rows.1.audit.subjectId = c.sbomId
  audit_organization : rows.1.audit.organizationId = c.organizationId
  outbox_id : Keyed.key rows.1.outbox = c.env.rowId "evt_" 12 3
  outbox_aggregate : rows.1.outbox.aggregateType = "sbom" ∧ rows.1.outbox.aggregateId = c.sbomId
  outbox_organization : ∀ o, rows.1.outbox.isOf o = decide (c.organizationId = o)
  document_id : rows.2.id = c.sbomId
  document_key : NaturalKey.natural rows.2 = (c.digest, c.organizationId)

theorem documentRows_describes {parsed : ParsedSbom} {uri : String}
    {rows : EvidenceRows × SbomDocument} (h : documentRows c parsed uri = .ok rows) :
    DocumentDescribes c parsed rows := by
  simp only [documentRows, except_bind_eq_ok, accepted_eq_ok] at h
  obtain ⟨id, hid, org, horg, _, -, _, -, _, -, _, -, h⟩ := h
  cases h
  obtain rfl := Driver.eq_of_stored hid
  obtain rfl := Driver.eq_of_stored horg
  refine ⟨rfl, rfl, rfl, rfl, ⟨rfl, rfl⟩, rfl, rfl, ⟨rfl, rfl⟩, fun o => ?_, rfl, rfl⟩
  simp [OutboxEvent.isOf, CallEnv.outbox, Json.field, Json.members, Json.isOneOf, List.lookup_cons]

end Rows

end Sbom

end VulnOpsHub
