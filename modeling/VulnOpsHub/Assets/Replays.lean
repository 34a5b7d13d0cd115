import VulnOpsHub.Assets.Frames

set_option autoImplicit false

/-! # Importing a file again

A file whose import has completed finds everything in place: importing it once more creates nothing and
leaves every asset as it is. A hostname gets an alias only where it has none, whatever is imported. -/

namespace VulnOpsHub

section Rows

variable [Driver] {c : ImportCall} {s t : ImportState}

/-! ## Inventories stay owned -/

/-- What `OwnedInventory` asks for, of a session in the middle of an import. -/
structure Owned (s : ImportState) : Prop where
  view : ∀ a ∈ s.stored.aliases.rows,
    (a.assetId, a.organizationId) ∈ s.assets.rows.map InventoryAsset.identity
  stored : ∀ a ∈ s.stored.aliases.rows,
    (a.assetId, a.organizationId) ∈ s.stored.assets.rows.map InventoryAsset.identity
  named : ∀ a ∈ s.stored.aliases.rows, a.id ≠ ""

omit [Driver] in
theorem Owned.congr (h : Owned s) (hassets : t.assets.rows.map InventoryAsset.identity
    = s.assets.rows.map InventoryAsset.identity) (hstored : t.stored = s.stored) : Owned t where
  view := by rw [hassets, hstored]; exact h.view
  stored := by rw [hstored]; exact h.stored
  named := by rw [hstored]; exact h.named

omit [Driver] in
theorem Committed.identity {now : Instant} {expired : Option String} {added : Option AssetAlias}
    (h : Committed now expired added s t) : t.assets.rows.map InventoryAsset.identity
      = s.assets.rows.map InventoryAsset.identity := by
  rw [h.assets, List.map_map]
  refine List.map_congr_left fun a _ => ?_
  show (flushedAsset _ _ _ a).identity = a.identity
  unfold flushedAsset
  split_ifs <;> rfl

omit [Driver] in
theorem Owned.commit {now : Instant} {expired : Option String} {added : Option AssetAlias}
    (h : Owned s) (hcommit : Committed now expired added s t)
    (hadded : ∀ x ∈ added, x.id ≠ "" ∧
      (x.assetId, x.organizationId) ∈ s.assets.rows.map InventoryAsset.identity) : Owned t := by
  have hview : ∀ a ∈ t.stored.aliases.rows,
      (a.assetId, a.organizationId) ∈ t.assets.rows.map InventoryAsset.identity := by
    intro a ha
    rw [hcommit.identity]
    rw [hcommit.aliases] at ha
    rcases List.mem_append.1 ha with ha | ha
    · exact h.view a ha
    · exact (hadded a (Option.mem_toList.1 ha)).2
  refine ⟨hview, by rw [hcommit.stored]; exact hview, fun a ha => ?_⟩
  rw [hcommit.aliases] at ha
  rcases List.mem_append.1 ha with ha | ha
  · exact h.named a ha
  · exact (hadded a (Option.mem_toList.1 ha)).1

omit [Driver] in
theorem newAlias_id_ne (assetId ns value : String) (i : ℕ) :
    (c.newAlias assetId ns value i).id ≠ "" := by
  intro h
  have := congrArg String.toList h
  simp [ImportCall.newAlias, CallEnv.rowId] at this

theorem Owned.observed {assetId ip : String} {r : Except PyError Unit} (h : Owned s)
    (hasset : (assetId, c.organizationId) ∈ s.assets.rows.map InventoryAsset.identity)
    (hip : Observed c assetId ip s r t) : Owned t := by
  cases hip with
  | quiet => exact h
  | failed => exact h
  | added _ _ _ hcommit =>
      refine h.commit hcommit fun x hx => ?_
      cases hx
      exact ⟨newAlias_id_ne _ _ _ _, hasset⟩

variable {row : HostRow} {serviceId : Option String}

omit [Driver] in
theorem identity_update (assets : Table InventoryAsset) (id : String) (p : RowPatch InventoryAsset)
    (hp : ∀ a, (p.apply a).identity = a.identity) :
    (assets.update id p).rows.map InventoryAsset.identity
      = assets.rows.map InventoryAsset.identity :=
  assets.map_update id p InventoryAsset.identity hp

omit [Driver] in
/-- The new asset, once it is stored. -/
theorem Owned.create (h : Owned s) {u : ImportState} (hcreated : Created c row serviceId s u) :
    Owned (u.assign (c.newAsset row serviceId s.drawn).id (exposurePatch row.internetExposure)) ∧
      ((c.newAsset row serviceId s.drawn).id, c.organizationId) ∈
        (u.assign (c.newAsset row serviceId s.drawn).id
          (exposurePatch row.internetExposure)).assets.rows.map InventoryAsset.identity := by
  obtain ⟨assets, now, hinsert, hcommit⟩ := hcreated
  have hrows : assets.rows = s.assets.rows ++ [c.newAsset row serviceId s.drawn] :=
    Table.rows_insert hinsert
  have hassets : Owned { s with assets } := by
    refine ⟨fun a ha => ?_, h.stored, h.named⟩
    rw [hrows, List.map_append]
    exact List.mem_append_left _ (h.view a ha)
  have hu : Owned u := hassets.commit hcommit fun x hx => by cases hx
  have hidentity := identity_update u.assets (c.newAsset row serviceId s.drawn).id
    (exposurePatch row.internetExposure) fun _ => rfl
  refine ⟨hu.congr hidentity rfl, ?_⟩
  show _ ∈ (u.assets.update _ _).rows.map InventoryAsset.identity
  rw [hidentity, hcommit.identity]
  show _ ∈ assets.rows.map InventoryAsset.identity
  rw [hrows, List.map_append]
  exact List.mem_append_right _ (List.mem_singleton.2 rfl)

variable [Python]

theorem RowEnd.owned {r : Except PyError Unit} (h : RowEnd c row s r t) (hs : Owned s) : Owned t := by
  cases h with
  | unnamed => exact hs.congr rfl rfl
  | unserved => exact hs.congr rfl rfl
  | ambiguous => exact hs.congr rfl rfl
  | refused => exact hs.congr rfl rfl
  | @updated serviceId x asset r t hfound hasset hip =>
      have hx := mem_hostAliases.1 (hfound.aliases_eq ▸ List.mem_singleton_self x)
      have hidentity := identity_update s.assets asset.id (row.patch serviceId) fun _ => rfl
      have hupdated : Owned (s.count.assign asset.id (row.patch serviceId)).countUpdated :=
        hs.congr hidentity rfl
      refine hupdated.observed ?_ hip
      show _ ∈ (s.assets.update _ _).rows.map InventoryAsset.identity
      rw [hidentity, show asset.id = x.assetId from Table.key_of_find? hasset, ← hx.2.2.2]
      exact hs.view x hx.1
  | unaliased _ hcreated => exact (Owned.create (s := s.count) (hs.congr rfl rfl) hcreated).1
  | @created serviceId u v now i r t hfound hcreated halias hip =>
      obtain ⟨hu, hid⟩ := Owned.create (s := s.count) (hs.congr rfl rfl) hcreated
      have hv : Owned v := hu.commit halias fun x hx => by
        cases hx
        exact ⟨newAlias_id_ne _ _ _ _, hid⟩
      refine Owned.observed (s := v.countCreated) (hv.congr rfl rfl) ?_ hip
      show _ ∈ v.assets.rows.map InventoryAsset.identity
      rw [halias.identity]
      exact hid

/-! ## Counters -/

/-- The rows that the counters have seen. -/
def ImportAnswer.counted (answer : ImportAnswer) : ℕ :=
  answer.created + answer.updated + answer.skipped

omit [Python] in
theorem Observed.answer {assetId ip : String} {r : Except PyError Unit}
    (h : Observed c assetId ip s r t) : t.answer = s.answer := by
  cases h with
  | quiet => rfl
  | failed => rfl
  | added _ _ _ hcommit => exact hcommit.answer

/-- A row that does not raise is counted once. -/
theorem RowEnd.counted (h : RowEnd c row s (.ok ()) t) :
    t.answer.counted = s.answer.counted + 1 := by
  have hskip : ∀ (s : ImportState) (detail : SkippedRow),
      (s.skip detail).answer.counted = s.answer.counted + 1 := fun _ _ => rfl
  cases h with
  | unnamed => exact hskip s _
  | unserved => exact hskip s.count _
  | ambiguous => exact hskip s.count _
  | updated _ _ hip =>
      rw [hip.answer]
      show s.answer.created + (s.answer.updated + 1) + s.answer.skipped = _
      unfold ImportAnswer.counted
      omega
  | @created serviceId u v now i r t hfound hcreated halias hip =>
      obtain ⟨assets, _, -, hcommit⟩ := hcreated
      have hv : v.answer = s.count.answer := halias.answer.trans hcommit.answer
      rw [hip.answer]
      show v.answer.created + 1 + v.answer.updated + v.answer.skipped = _
      rw [hv]
      show s.answer.created + 1 + s.answer.updated + s.answer.skipped = _
      unfold ImportAnswer.counted
      omega

theorem counted_of_importRows {header : List String} {rows : List (List String × ℕ)}
    (h : c.importRows header rows s = (.ok (), t)) :
    t.answer.counted = s.answer.counted + rows.length := by
  have hstart : s.answer.counted = s.answer.counted + ([] : List (List String × ℕ)).length := rfl
  refine importRows_returns
    (I := fun done t => t.answer.counted = s.answer.counted + done.length) ?_ h hstart
  intro done entry s' t hs hend
  rw [hend.counted, hs, List.length_append, List.length_singleton, Nat.add_assoc]

/-! ## Rows that find everything in place -/

/-- What a row does that has been gone through before. -/
structure Replayed (op : Option (String × AssetPatch)) (s : ImportState) (r : Except PyError Unit)
    (t : ImportState) : Prop where
  returned : r = .ok ()
  stored : t.stored = s.stored
  assets : t.assets = op.elim s.assets fun op =>
    s.assets.update op.1 (Overlay.rowPatch InventoryAsset op.2)
  created : t.answer.created = s.answer.created

omit [Python] in
/-- The alias for the address is found, whichever comes first. -/
theorem ipAlias_of_seen {aliases : Table AssetAlias} {assetId ip : String} (hip : ip ≠ "")
    (h : IpSeen c assetId ip aliases) (hnamed : ∀ a ∈ aliases.rows, a.id ≠ "") :
    ∃ id, ipAlias aliases c.organizationId assetId ip = .ok (some id) ∧ id ≠ "" := by
  obtain ⟨horg, hcomparable, a, ha, hid, hns, hvalue, hown⟩ := h.resolve_left hip
  have hsome : (aliases.rows.find? fun a => a.assetId = assetId && a.aliasNamespace = "ip" &&
      a.value = ip && a.organizationId = c.organizationId).isSome := by
    rw [List.find?_isSome]
    exact ⟨a, ha, by simp [hid, hns, hvalue, hown]⟩
  obtain ⟨b, hb⟩ := Option.isSome_iff_exists.1 hsome
  refine ⟨b.id, ?_, hnamed b (List.mem_of_find?_eq_some hb)⟩
  simp only [ipAlias, except_bind_eq_ok, accepted_compared]
  refine ⟨_, ⟨horg, rfl⟩, _, ⟨hcomparable, rfl⟩, ?_⟩
  rw [hb]
  rfl

omit [Python] in
theorem observeIp_seen {assetId ip : String} (h : IpSeen c assetId ip s.stored.aliases)
    (hnamed : ∀ a ∈ s.stored.aliases.rows, a.id ≠ "") :
    c.observeIp assetId ip s = (.ok (), s) := by
  unfold ImportCall.observeIp
  by_cases hip : ip = ""
  · rw [if_pos hip]
    rfl
  · obtain ⟨id, hid, hne⟩ := ipAlias_of_seen hip h hnamed
    rw [if_neg hip]
    show (Raising.ofExcept (ipAlias s.stored.aliases c.organizationId assetId ip) >>= _) s = _
    rw [Raising.bind_ofExcept hid, if_pos (by simp [nonEmpty, hne])]
    rfl

/-- The lookup of a hostname that is found. -/
theorem reconcileHost_of_found {inv : Inventory} {aliases : List AssetAlias}
    (h : Found c row inv serviceId aliases) :
    reconcileHost inv.aliases c.organizationId row.hostname
      = .ok (reconciled (.str "hostname") (.str row.hostname) aliases) :=
  (reconcileHost_eq_ok c.organizationId_ne).2
    ⟨h.comparable.1, h.comparable.2.1, h.comparable.2.2, by rw [h.aliases_eq]⟩

theorem importHost_matched {a : AssetAlias} {number : ℕ} (h : Found c row s.stored serviceId [a])
    (hip : IpSeen c a.assetId row.ip s.stored.aliases)
    (hnamed : ∀ a ∈ s.stored.aliases.rows, a.id ≠ "")
    (hkey : a.assetId ∈ s.assets.rows.map InventoryAsset.id) :
    (c.importHost row number serviceId).Wp
      (Replayed (some (a.assetId, row.settings serviceId)) s) s := by
  obtain ⟨asset, hasset⟩ := Option.isSome_iff_exists.1 (Table.isSome_find?.2 hkey)
  have hid : asset.id = a.assetId := Table.key_of_find? hasset
  unfold ImportCall.importHost
  refine Raising.wp_bind.2 (Raising.wp_get.2 (Raising.wp_bind.2 (Raising.wp_ofExcept.2 ?_)))
  rw [reconcileHost_of_found h]
  show (c.updateHost row serviceId (some a.assetId)).Wp _ s
  unfold ImportCall.updateHost
  refine Raising.wp_bind.2 (Raising.wp_get.2 ?_)
  show (Option.elim (s.assets.find? a.assetId) _ _ : Raising ImportState PyError Unit).Wp _ s
  rw [hasset]
  refine Raising.wp_bind.2 (Raising.wp_modify.2 (Raising.wp_bind.2 (Raising.wp_modify.2 ?_)))
  have hseen := observeIp_seen (s := (s.assign asset.id (row.patch serviceId)).countUpdated)
    (hid.symm ▸ hip) hnamed
  show Raising.Wp (c.observeIp asset.id row.ip) _ _
  unfold Raising.Wp
  rw [hseen]
  refine ⟨rfl, rfl, ?_, rfl⟩
  show s.assets.update asset.id (row.patch serviceId) = _
  rw [row.update_patch, hid]
  rfl

theorem importHost_ambiguous {aliases : List AssetAlias} {number : ℕ}
    (h : Found c row s.stored serviceId aliases) (hlong : 1 < aliases.length) :
    (c.importHost row number serviceId).Wp (Replayed none s) s := by
  unfold ImportCall.importHost
  refine Raising.wp_bind.2 (Raising.wp_get.2 (Raising.wp_bind.2 (Raising.wp_ofExcept.2 ?_)))
  rw [reconcileHost_of_found h]
  rcases aliases with _ | ⟨a, _ | ⟨b, rest⟩⟩
  · simp at hlong
  · simp at hlong
  · exact ⟨rfl, rfl, rfl, rfl⟩

/-- A row that finds everything in place does no more than set its patch. -/
theorem importRow_seen {header record : List String} {number : ℕ}
    {op : Option (String × AssetPatch)} (h : Seen c (hostRow header record) s.stored op)
    (hnamed : ∀ a ∈ s.stored.aliases.rows, a.id ≠ "")
    (hkeys : ∀ o ∈ op, o.1 ∈ s.assets.rows.map InventoryAsset.id) :
    (c.importRow header record number).Wp (Replayed op s) s := by
  have hcount : ∀ {r : Except PyError Unit} {t : ImportState}, Replayed op s.count r t →
      Replayed op s r t := fun h => ⟨h.returned, h.stored, h.assets, h.created⟩
  unfold ImportCall.importRow
  cases h with
  | unnamed hname =>
      simp only [hname, if_true]
      exact ⟨rfl, rfl, rfl, rfl⟩
  | unserved hname hservice =>
      simp only [hname, if_false]
      refine Raising.wp_bind.2 (Raising.wp_modify.2 (Raising.wp_bind.2 (Raising.wp_get.2 ?_)))
      simp only [Raising.andThen, ImportState.count, hservice]
      exact ⟨rfl, rfl, rfl, rfl⟩
  | ambiguous hfound hlong =>
      simp only [hfound.hostname_ne, if_false]
      refine Raising.wp_bind.2 (Raising.wp_modify.2 (Raising.wp_bind.2 (Raising.wp_get.2 ?_)))
      simp only [Raising.andThen, ImportState.count, hfound.service]
      exact Raising.wp_mono (importHost_ambiguous (s := s.count) hfound hlong) fun _ _ => hcount
  | matched hfound hip =>
      simp only [hfound.hostname_ne, if_false]
      refine Raising.wp_bind.2 (Raising.wp_modify.2 (Raising.wp_bind.2 (Raising.wp_get.2 ?_)))
      simp only [Raising.andThen, ImportState.count, hfound.service]
      exact Raising.wp_mono (importHost_matched (s := s.count) hfound hip hnamed (hkeys _ rfl))
        fun _ _ => hcount

/-- All rows of a file that find everything in place. -/
theorem importRows_seen {header : List String} {rows : List (List String × ℕ)}
    {ops : List (Option (String × AssetPatch))}
    (h : List.Forall₂ (fun entry op => Seen c (hostRow header entry.1) s.stored op) rows ops)
    (hnamed : ∀ a ∈ s.stored.aliases.rows, a.id ≠ "")
    (hkeys : ∀ o ∈ ops.filterMap id, o.1 ∈ s.assets.rows.map InventoryAsset.id) :
    (c.importRows header rows).Wp (fun r t => r = .ok () ∧ t.stored = s.stored ∧
      t.assets = Overlay.replay (ops.filterMap id) s.assets ∧
      t.answer.created = s.answer.created) s := by
  generalize hinv : s.stored = inv at h
  induction h generalizing s with
  | nil => exact ⟨rfl, hinv.symm ▸ hinv, rfl, rfl⟩
  | @cons entry op rest ops hrow _ ih =>
      obtain ⟨record, number⟩ := entry
      have hop : ∀ o ∈ op, o ∈ (op :: ops).filterMap id := by
        intro o ho
        cases ho
        simp
      refine Raising.wp_bind.2 (Raising.wp_mono (importRow_seen (hinv.symm ▸ hrow) hnamed
        fun o ho => hkeys o (hop o ho)) fun r t ht => ?_)
      obtain ⟨rfl, hstored, hassets, hcreated⟩ := ht
      have hids : t.assets.rows.map InventoryAsset.id = s.assets.rows.map InventoryAsset.id := by
        rw [hassets]
        cases op with
        | none => rfl
        | some o => exact s.assets.map_update _ _ InventoryAsset.id fun _ => rfl
      simp only [Raising.andThen]
      refine Raising.wp_mono (ih (s := t) (hstored ▸ hnamed) (fun o ho => ?_)
        (hstored.trans hinv)) fun r u hu => ?_
      · rw [hids]
        refine hkeys o ?_
        cases op with
        | none => exact ho
        | some o' => exact List.mem_cons_of_mem o' ho
      · obtain ⟨hr, hu, hreplay, hu_created⟩ := hu
        refine ⟨hr, hu, ?_, hu_created.trans hcreated⟩
        rw [hreplay, hassets]
        cases op <;> rfl

/-- Ids and times do not matter to what a row finds. -/
theorem Seen.congr {c' : ImportCall} {inv : Inventory} {op : Option (String × AssetPatch)}
    (h : Seen c row inv op) (horg : c'.organizationId = c.organizationId) : Seen c' row inv op := by
  have hfound : ∀ {serviceId : Option String} {aliases : List AssetAlias},
      Found c row inv serviceId aliases → Found c' row inv serviceId aliases := fun h =>
    ⟨h.hostname_ne, horg.symm ▸ h.service, horg.symm ▸ h.comparable, horg.symm ▸ h.aliases_eq⟩
  cases h with
  | unnamed h => exact .unnamed h
  | unserved hname h => exact .unserved hname (horg.symm ▸ h)
  | ambiguous h hlong => exact .ambiguous (hfound h) hlong
  | matched h hip =>
      refine .matched (hfound h) ?_
      unfold IpSeen at hip ⊢
      rwa [horg]

end Rows

/-! ## Imports -/

section Imports

variable [Driver] [Python]

/-- The same import at another time. -/
def ImportCall.again (c : ImportCall) (env : CallEnv) : ImportCall := { c with env }

/-- What imports leave stored, one after the other. -/
def imported (imports : List (ImportCall × CsvFile)) (inv : Inventory) : Inventory :=
  imports.foldl (fun inv i => (i.1.importAssets i.2 inv).2) inv

variable {c : ImportCall} {file : CsvFile} {inv : Inventory}

theorem importAssets_extends : Extends inv (c.importAssets file inv).2 := by
  obtain ⟨t, ht, hstored⟩ : ∃ t : ImportState, Extends inv t.stored ∧
      (c.importAssets file inv).2 = t.stored :=
    importAssets_keeps (I := fun t => Extends inv t.stored)
      (fun _ _ _ _ _ hs hend => hs.trans hend.extends)
      (fun _ _ _ hs hcommit => hs.trans (hcommit.extends fun x hx => by cases hx)) (.refl _)
  rwa [hstored]

theorem imported_extends (imports : List (ImportCall × CsvFile)) :
    Extends inv (imported imports inv) := by
  unfold imported
  induction imports generalizing inv with
  | nil => exact .refl _
  | cons i imports ih => exact importAssets_extends.trans ih

/-- Imports leave inventories as they ask for them. -/
theorem importAssets_owned (inv : OwnedInventory) :
    ∃ inv' : OwnedInventory, (c.importAssets file inv.toInventory).2 = inv'.toInventory := by
  obtain ⟨t, ht, hstored⟩ : ∃ t, Owned t ∧ (c.importAssets file inv.toInventory).2 = t.stored :=
    importAssets_keeps (fun _ _ _ _ _ hs hend => hend.owned hs)
      (fun _ _ _ hs hcommit => hs.commit hcommit fun x hx => by cases hx)
      ⟨inv.owned, inv.owned, inv.named⟩
  exact ⟨⟨t.stored, ht.stored, ht.named⟩, hstored⟩

/-- An import whose rows have left nothing to commit. -/
theorem importAssets_of_rows {s : ImportState} (hname : "hostname" ∈ file.header)
    (hrows : c.importRows file.header file.rows inv.opened = (.ok (), s))
    (hfault : file.fault = none) (hcommit : ∀ now, s.commit now none none = some s) :
    ∃ answer, c.importAssets file inv = (.ok answer, s.stored) ∧
      answer.created = s.answer.created := by
  have hchange : Raising.change (fun s : ImportState => s.commit (c.env.clock s.drawn) none none)
      PyError.databaseError s = (.ok (), s) := by
    simp only [Raising.change, hcommit, Option.elim_some]
  have hfile : c.importFile file.header file file.records.tail inv.opened
      = (.ok { s.answer with skippedDetails := s.answer.skippedDetails.take 20 }, s) := by
    have hrows' : c.importRows file.header (dataRows file.records.tail) inv.opened = (.ok (), s) :=
      hrows
    unfold ImportCall.importFile
    rw [Raising.bind_of_ok hrows', hfault]
    show (Raising.change _ _ >>= _) s = _
    rw [Raising.bind_of_ok hchange]
    rfl
  refine ⟨{ s.answer with skippedDetails := s.answer.skippedDetails.take 20 }, ?_, rfl⟩
  unfold ImportCall.importAssets
  cases hrecords : file.records with
  | nil =>
      rw [CsvFile.header, hrecords] at hname
      cases hname
  | cons header records =>
      rw [CsvFile.header, hrecords, List.headD_cons, List.tail_cons] at hfile
      rw [CsvFile.header, hrecords, List.headD_cons] at hname
      have hempty : header ≠ [] := by
        rintro rfl
        cases hname
      simp only [hempty, hname, not_true_eq_false, if_false]
      rw [hfile]

/-- A file without hostnames gets the same answer every time, and changes nothing. -/
theorem importAssets_of_notMem (hname : "hostname" ∉ file.header) :
    ∃ r, (∀ (c : ImportCall) (inv : Inventory), c.importAssets file inv = (r, inv)) ∧
      ∀ answer, r = .ok answer → answer.created = 0 := by
  unfold ImportCall.importAssets
  cases hrecords : file.records with
  | nil =>
      refine ⟨_, fun _ _ => rfl, fun answer hanswer => ?_⟩
      cases hfault : file.fault with
      | none =>
          rw [hfault] at hanswer
          cases hanswer
          rfl
      | some e =>
          rw [hfault] at hanswer
          cases hanswer
  | cons header records =>
      rw [CsvFile.header, hrecords, List.headD_cons] at hname
      by_cases hempty : header = []
      · simp only [hempty, if_true]
        exact ⟨_, fun _ _ => rfl, fun answer hanswer => by cases hanswer; rfl⟩
      · simp only [hempty, hname, not_false_eq_true, if_true, if_false]
        exact ⟨_, fun _ _ => rfl, fun answer hanswer => by cases hanswer; rfl⟩

/-- A completed import leaves nothing to do for the next one of the file. -/
theorem importAssets_again {answer : ImportAnswer} (inv : OwnedInventory)
    (h : (c.importAssets file inv.toInventory).1 = .ok answer) (env : CallEnv) :
    ∃ answer', (c.again env).importAssets file (c.importAssets file inv.toInventory).2
        = (.ok answer', (c.importAssets file inv.toInventory).2) ∧ answer'.created = 0 := by
  by_cases hname : "hostname" ∈ file.header
  · obtain ⟨s, t, now, hrows, hfault, hcommit, hstored, -⟩ := importAssets_completed hname h
    obtain ⟨inv', howned⟩ := importAssets_owned (c := c) inv
    have hcommitted := committed_of_commit hcommit
    obtain ⟨ops, hseen, hmarked⟩ := progress_of_importRows hrows
    have hfinal := hmarked.commit hcommitted
    rw [howned] at hstored ⊢
    have hassets : inv'.assets = t.assets :=
      (congrArg Inventory.assets hstored).trans hcommitted.stored
    have hext : Extends s.stored inv'.toInventory :=
      hstored ▸ hcommitted.extends fun x hx => by cases hx
    -- the rows find everything in place
    have hseen' : List.Forall₂ (fun entry op =>
        Seen (c.again env) (hostRow file.header entry.1) inv'.toInventory.opened.stored op)
        file.rows ops := hseen.imp fun _ _ hrow => (hrow.extend hext).congr rfl
    have hmarked' : Marked (ops.filterMap id) inv'.toInventory.opened.assets := by
      show Marked _ inv'.assets
      rw [hassets]
      exact hfinal
    have hrun := importRows_seen hseen' inv'.named hmarked'.keys
    rcases hresult : (c.again env).importRows file.header file.rows inv'.toInventory.opened
      with ⟨r, u⟩
    unfold Raising.Wp at hrun
    rw [hresult] at hrun
    obtain ⟨rfl, hu_stored, hu_assets, hu_created⟩ := hrun
    rw [hmarked'.settled.replay_eq] at hu_assets
    have hquiet : u.assets = u.stored.assets := by rw [hu_assets, hu_stored]; rfl
    obtain ⟨answer', hagain, hcreated⟩ :=
      importAssets_of_rows hname hresult hfault fun now => commit_unchanged hquiet
    exact ⟨answer', hagain.trans (by rw [hu_stored]; rfl), hcreated.trans hu_created⟩
  · obtain ⟨r, hsame, hzero⟩ := importAssets_of_notMem hname
    rw [hsame c] at h
    have hr : r = .ok answer := h
    exact ⟨answer, by rw [hsame, hsame, hr], hzero answer hr⟩

/-- **Importing a file again.** After an import that completed, importing the file once more creates no
    asset and no alias and leaves every asset as it is; the counters of a file with a hostname column
    add up to its rows; and whatever is imported, a hostname with at most one alias keeps at most one. -/
theorem importAssets_replay (c : ImportCall) (file : CsvFile) (inv : OwnedInventory) :
    (∀ answer, (c.importAssets file inv.toInventory).1 = .ok answer →
      (∀ env, ∃ answer', (c.again env).importAssets file (c.importAssets file inv.toInventory).2
        = (.ok answer', (c.importAssets file inv.toInventory).2) ∧ answer'.created = 0) ∧
      ("hostname" ∈ file.header →
        answer.created + answer.updated + answer.skipped = file.rows.length)) ∧
    (∀ organizationId hostname,
      (hostAliases inv.aliases organizationId hostname).length ≤ 1 →
      (∀ done, done <+: file.rows →
        (hostAliases (c.importRows file.header done inv.toInventory.opened).2.stored.aliases
          organizationId hostname).length ≤ 1) ∧
      ∀ imports, (hostAliases (imported imports inv.toInventory).aliases
        organizationId hostname).length ≤ 1) := by
  refine ⟨fun answer h => ⟨importAssets_again inv h, fun hname => ?_⟩, ?_⟩
  · obtain ⟨s, t, now, hrows, -, -, -, rfl⟩ := importAssets_completed hname h
    exact (counted_of_importRows hrows).trans (Nat.zero_add _)
  · refine fun organizationId hostname hle => ⟨fun done _ => ?_, fun imports => ?_⟩
    · exact (importRows_extends file.header done).hosts.length_le_one hle
    · exact (imported_extends imports).hosts.length_le_one hle

end Imports

/-- A file of a known host and of a new one, which it names twice. -/
def sampleRepeats : CsvFile :=
  ⟨[["hostname", "criticality"], ["web01", "low"], ["db01", "high"], ["db01", "low"]], none⟩

/-- Imported once more, the file creates nothing. -/
theorem import_again_repeats : ∃ answer',
    @ImportCall.importAssets sqliteDriver asciiPython (sampleImport.again sampleImport.env)
        sampleRepeats (@ImportCall.importAssets sqliteDriver asciiPython sampleImport
          sampleRepeats sampleWebInventory.toInventory).2
      = (.ok answer', (@ImportCall.importAssets sqliteDriver asciiPython sampleImport
          sampleRepeats sampleWebInventory.toInventory).2) ∧ answer'.created = 0 :=
  ((@importAssets_replay sqliteDriver asciiPython sampleImport sampleRepeats
    sampleWebInventory).1 ⟨1, 2, 0, [], 3⟩ (by decide +kernel)).1 sampleImport.env

/-! ## A file without hostnames -/

def sampleNames : CsvFile := ⟨[["name"], ["Web Frontend"]], none⟩

/-- The import of a file without hostnames completes and counts none of its rows. -/
theorem import_uncounted : ∃ answer,
    (@ImportCall.importAssets sqliteDriver asciiPython sampleImport sampleNames
      sampleWebInventory.toInventory).1 = .ok answer ∧
    answer.created + answer.updated + answer.skipped ≠ sampleNames.rows.length :=
  ⟨{ ImportAnswer.empty with
      skippedDetails := [⟨1, "missing required 'hostname' column", none, none⟩] },
    by decide +kernel, by decide +kernel⟩

end VulnOpsHub
