import VulnOpsHub.Assets.Marks
import VulnOpsHub.Lib.Numerals

set_option autoImplicit false

/-! # What an import leaves alone

An import changes the assets that its rows name and no others, and of those only what has a column in
the file. The one exception is the criticality: its default is put in before the row is known to
update an asset, so a file without the column sets it back to `medium`. -/

namespace VulnOpsHub

/-! ## Inventories -/

/-- What ties an asset to its aliases. -/
def InventoryAsset.identity (a : InventoryAsset) : String × String := (a.id, a.organizationId)

/-- The inventories that imports build: an alias names an asset of its own organization, and has an
    id. No other code writes aliases. -/
structure OwnedInventory extends Inventory where
  owned : ∀ a ∈ aliases.rows,
    (a.assetId, a.organizationId) ∈ assets.rows.map InventoryAsset.identity
  named : ∀ a ∈ aliases.rows, a.id ≠ ""

/-! ## Rows without a column -/

section Columns

variable {header record : List String} {key : String}

theorem csvCell_of_notMem (h : key ∉ header) : csvCell header record key = none := by
  have hlookup : header.zipIdx.reverse.lookup key = none := by
    rw [List.lookup_eq_none_iff]
    rintro ⟨name, i⟩ hentry
    have hname : name ∈ header := List.fst_mem_of_mem_zipIdx (List.mem_reverse.1 hentry)
    simpa using fun heq : key = name => h (heq ▸ hname)
  simp [csvCell, hlookup]

theorem csvField_of_notMem (h : key ∉ header) : csvField header record key = "" := by
  rw [csvField, csvCell_of_notMem h]
  show strip "" = ""
  exact strip_of_no_space (by simp)

theorem nonEmpty_csvField (h : key ∉ header) :
    nonEmpty (some (csvField header record key)) = none := by
  rw [csvField_of_notMem h]
  rfl

variable [Python]

theorem criticality_of_notMem (h : "criticality" ∉ header) :
    (hostRow header record).criticality = "medium" := by
  have hlower : Python.lower (strip (orElse (csvCell header record "criticality") "medium"))
      = "medium" := by
    have hstrip : strip (orElse none "medium") = "medium" := rfl
    rw [csvCell_of_notMem h, hstrip]
    exact Python.lower_ascii _ (by decide)
  simp only [hostRow, hlower, ite_self]

theorem environment_of_notMem (h : "environment" ∉ header) :
    (hostRow header record).environment = none := by
  simp only [hostRow]
  exact nonEmpty_csvField h

theorem internetExposure_of_notMem (h : "internet_exposure" ∉ header) :
    (hostRow header record).internetExposure = none := by
  have hlower : Python.lower (csvField header record "internet_exposure") = "" := by
    rw [csvField_of_notMem h]
    exact Python.lower_ascii _ (by decide)
  simp only [hostRow, hlower]
  exact if_neg (by decide)

theorem service_of_notMem [Driver] (hid : "business_service_id" ∉ header)
    (hservice : "service" ∉ header) (hname : "service_name" ∉ header)
    (services : Table NamedService) (organizationId : String) :
    resolveBusinessServiceId services organizationId (hostRow header record).explicitId
      (hostRow header record).serviceName = .ok none := by
  have hexplicit : (hostRow header record).explicitId = none := by
    simp only [hostRow]
    exact nonEmpty_csvField hid
  have hnamed : (hostRow header record).serviceName = none := by
    simp only [hostRow, csvCell_of_notMem hservice, csvCell_of_notMem hname, orElse]
    rw [strip_of_no_space (by simp)]
    rfl
  rw [hexplicit, hnamed]
  rfl

end Columns

/-- The columns that the file does not have are as they were. -/
structure KeptColumns (header : List String) (a a' : InventoryAsset) : Prop where
  criticality : "criticality" ∉ header → a'.criticality = a.criticality
  environment : "environment" ∉ header → a'.environment = a.environment
  owner : "owner" ∉ header → a'.owner = a.owner
  internetExposure : "internet_exposure" ∉ header → a'.internetExposure = a.internetExposure
  businessService : "business_service_id" ∉ header → "service" ∉ header → "service_name" ∉ header →
    a'.businessServiceId = a.businessServiceId

theorem KeptColumns.refl (header : List String) (a : InventoryAsset) : KeptColumns header a a :=
  ⟨fun _ => rfl, fun _ => rfl, fun _ => rfl, fun _ => rfl, fun _ _ _ => rfl⟩

theorem KeptColumns.flushed {header : List String} {a a' : InventoryAsset}
    (h : KeptColumns header a a') (stored : Table InventoryAsset) (expired : Option String)
    (now : Instant) : KeptColumns header a (flushedAsset stored expired now a') := by
  unfold flushedAsset
  split_ifs
  · exact h
  · exact ⟨h.criticality, h.environment, h.owner, h.internetExposure, h.businessService⟩

/-- What a row sets on an asset, when the default criticality does it no harm. -/
theorem KeptColumns.patched [Driver] [Python] {header record : List String} {a a' : InventoryAsset}
    {services : Table NamedService} {organizationId : String} {serviceId : Option String}
    (h : KeptColumns header a a')
    (hservice : resolveBusinessServiceId services organizationId (hostRow header record).explicitId
      (hostRow header record).serviceName = .ok serviceId)
    (hcriticality : "criticality" ∉ header → a.criticality = "medium") :
    KeptColumns header a (((hostRow header record).patch serviceId).apply a') where
  criticality hnot := (criticality_of_notMem hnot).trans (hcriticality hnot).symm
  environment hnot := by
    show (nonEmpty (hostRow header record).environment).or a'.environment = _
    rw [environment_of_notMem hnot]
    exact h.environment hnot
  owner hnot := by
    have hcolumn : (hostRow header record).ownerColumnPresent = false := decide_eq_false hnot
    show (if (hostRow header record).ownerColumnPresent then _ else a'.owner) = _
    rw [hcolumn]
    exact h.owner hnot
  internetExposure hnot := by
    show (nonEmpty (hostRow header record).internetExposure).or a'.internetExposure = _
    rw [internetExposure_of_notMem hnot]
    exact h.internetExposure hnot
  businessService hid hname hlegacy := by
    rw [service_of_notMem hid hname hlegacy] at hservice
    cases hservice
    exact h.businessService hid hname hlegacy

/-! ## The frame -/

section Frame

variable [Python] (c : ImportCall) (file : CsvFile) (inv : Inventory)

/-- A row of the file names the asset, by one of its hostnames in the organization. -/
def Touches (a : InventoryAsset) : Prop :=
  a.organizationId = c.organizationId ∧ ∃ entry ∈ file.rows, ∃ x ∈ inv.aliases.rows,
    x.assetId = a.id ∧ x.aliasNamespace = "hostname" ∧
      x.value = (hostRow file.header entry.1).hostname ∧ x.organizationId = c.organizationId

/-- The rows that may change an asset find `medium` there. -/
def DefaultsMatch : Prop :=
  ∀ entry ∈ file.rows, ∀ x a, (hostRow file.header entry.1).hostname ≠ "" →
    hostAliases inv.aliases c.organizationId (hostRow file.header entry.1).hostname = [x] →
    ¬ (hostRow file.header entry.1).AmbiguousService inv.services c.organizationId →
    inv.assets.find? x.assetId = some a → a.criticality = "medium"

/-- What a session in the middle of the import leaves of the inventory. -/
structure Framed (s : ImportState) : Prop where
  view : ∀ a ∈ inv.assets.rows, ∃ a', s.assets.find? a.id = some a' ∧
    KeptColumns file.header a a' ∧ (¬ Touches c file inv a → a' = a)
  stored : ∀ a ∈ inv.assets.rows, ∃ a', s.stored.assets.find? a.id = some a' ∧
    KeptColumns file.header a a' ∧ (¬ Touches c file inv a → a' = a)
  services : s.stored.services = inv.services
  aliases : ∃ added, s.stored.aliases.rows = inv.aliases.rows ++ added ∧
    ∀ x ∈ added, ∀ a ∈ inv.assets.rows, x.assetId = a.id →
      Touches c file inv a ∧ x.aliasNamespace ≠ "hostname"

variable {c file inv} {s t : ImportState}

theorem framed_opened : Framed c file inv inv.opened where
  view a ha := ⟨a, Table.find?_key_of_mem ha, KeptColumns.refl _ a, fun _ => rfl⟩
  stored a ha := ⟨a, Table.find?_key_of_mem ha, KeptColumns.refl _ a, fun _ => rfl⟩
  services := rfl
  aliases := ⟨[], (List.append_nil _).symm, fun _ hx => absurd hx List.not_mem_nil⟩

/-- Only what the session has and stores counts. -/
theorem Framed.congr (h : Framed c file inv s) (hassets : t.assets = s.assets)
    (hstored : t.stored = s.stored) : Framed c file inv t where
  view := by rw [hassets]; exact h.view
  stored := by rw [hstored]; exact h.stored
  services := by rw [hstored]; exact h.services
  aliases := by rw [hstored]; exact h.aliases

theorem Framed.assign (h : Framed c file inv s) {id : String} {p : RowPatch InventoryAsset}
    (hp : ∀ a ∈ inv.assets.rows, a.id = id → Touches c file inv a ∧
      ∀ a', KeptColumns file.header a a' → KeptColumns file.header a (p.apply a')) :
    Framed c file inv (s.assign id p) where
  view a ha := by
    obtain ⟨a', hfind, hkept, huntouched⟩ := h.view a ha
    show ∃ a'', (s.assets.update id p).find? a.id = some a'' ∧ _
    by_cases hid : a.id = id
    · obtain ⟨htouches, hpatch⟩ := hp a ha hid
      rw [Table.find?_update, if_pos hid, hfind]
      exact ⟨_, rfl, hpatch a' hkept, fun hnot => absurd htouches hnot⟩
    · rw [Table.find?_update, if_neg hid]
      exact ⟨a', hfind, hkept, huntouched⟩
  stored := h.stored
  services := h.services
  aliases := h.aliases

/-- A new asset is none of those there were. -/
theorem Framed.id_ne (h : Framed c file inv s) {new : InventoryAsset}
    {assets : Table InventoryAsset} (hinsert : s.assets.insert new = some assets)
    {a : InventoryAsset} (ha : a ∈ inv.assets.rows) : a.id ≠ new.id := by
  intro hid
  obtain ⟨a', hfind, -⟩ := h.view a ha
  have hnone : s.assets.find? new.id = none := Table.find?_of_insert hinsert
  rw [← hid, hfind] at hnone
  cases hnone

theorem Framed.insert (h : Framed c file inv s) {new : InventoryAsset}
    {assets : Table InventoryAsset} (hinsert : s.assets.insert new = some assets) :
    Framed c file inv { s with assets } where
  view a ha := by
    obtain ⟨a', hfind, hkept⟩ := h.view a ha
    refine ⟨a', ?_, hkept⟩
    rw [← hfind, Table.find?_insert hinsert]
    exact if_neg fun hid => h.id_ne hinsert ha hid.symm
  stored := h.stored
  services := h.services
  aliases := h.aliases

theorem Framed.commit [Driver] (h : Framed c file inv s) {now : Instant} {expired : Option String}
    {added : Option AssetAlias} (hcommit : Committed now expired added s t)
    (hexpired : ∀ a ∈ inv.assets.rows, expired ≠ some a.id)
    (hadded : ∀ x ∈ added, ∀ a ∈ inv.assets.rows, x.assetId = a.id →
      Touches c file inv a ∧ x.aliasNamespace ≠ "hostname") : Framed c file inv t := by
  have hview : ∀ a ∈ inv.assets.rows, ∃ a', t.assets.find? a.id = some a' ∧
      KeptColumns file.header a a' ∧ (¬ Touches c file inv a → a' = a) := by
    intro a ha
    obtain ⟨a', hfind, hkept, huntouched⟩ := h.view a ha
    refine ⟨flushedAsset s.stored.assets expired now a', ?_, hkept.flushed _ _ _, fun hnot => ?_⟩
    · rw [Table.find?_of_rows_map (flushedAsset_id s.stored.assets expired now) hcommit.assets, hfind]
      rfl
    · -- an untouched asset is as it is stored
      obtain ⟨a₀, hfind₀, -, huntouched₀⟩ := h.stored a ha
      rw [huntouched hnot]
      exact if_pos ⟨huntouched₀ hnot ▸ hfind₀, hexpired a ha⟩
  refine ⟨hview, by rw [hcommit.stored]; exact hview, hcommit.services.trans h.services, ?_⟩
  obtain ⟨before, hbefore, hold⟩ := h.aliases
  refine ⟨before ++ added.toList, ?_, fun x hx => ?_⟩
  · rw [hcommit.aliases, hbefore, List.append_assoc]
  · rcases List.mem_append.1 hx with hx | hx
    · exact hold x hx
    · exact hadded x (Option.mem_toList.1 hx)

theorem Framed.observed [Driver] (h : Framed c file inv s) {assetId ip : String}
    {r : Except PyError Unit} (hip : Observed c assetId ip s r t)
    (htouches : ∀ a ∈ inv.assets.rows, assetId = a.id → Touches c file inv a) :
    Framed c file inv t := by
  cases hip with
  | quiet => exact h
  | failed => exact h
  | added _ _ _ hcommit =>
      refine h.commit hcommit (fun a _ => by simp) fun x hx a ha hid => ?_
      cases hx
      refine ⟨htouches a ha hid, ?_⟩
      show "ip" ≠ "hostname"
      decide

end Frame

section Rows

variable [Driver] [Python] {c : ImportCall} {file : CsvFile} {inv : OwnedInventory}
  {s t : ImportState} {entry : List String × ℕ}

/-- The alias by which a row finds an asset of the inventory was there before. -/
theorem Framed.alias_mem (h : Framed c file inv.toInventory s) {row : HostRow}
    {serviceId : Option String} {x : AssetAlias} (hfound : Found c row s.stored serviceId [x])
    {a : InventoryAsset} (ha : a ∈ inv.assets.rows) (hid : x.assetId = a.id) :
    x ∈ inv.aliases.rows := by
  obtain ⟨hx, hns, -⟩ := mem_hostAliases.1 (hfound.aliases_eq ▸ List.mem_singleton_self x)
  obtain ⟨added, haliases, hadded⟩ := h.aliases
  rw [haliases] at hx
  rcases List.mem_append.1 hx with hx | hx
  · exact hx
  · exact absurd hns (hadded x hx a ha hid).2

/-- An asset of the inventory that a row updates is one that the file names. -/
theorem Framed.touches (h : Framed c file inv.toInventory s) (hentry : entry ∈ file.rows)
    {serviceId : Option String} {x : AssetAlias}
    (hfound : Found c (hostRow file.header entry.1) s.stored serviceId [x]) {a : InventoryAsset}
    (ha : a ∈ inv.assets.rows) (hid : x.assetId = a.id) : Touches c file inv.toInventory a := by
  have hx := h.alias_mem hfound ha hid
  obtain ⟨-, hns, hvalue, horg⟩ := mem_hostAliases.1 (hfound.aliases_eq ▸ List.mem_singleton_self x)
  refine ⟨?_, entry, hentry, x, hx, hid, hns, hvalue, horg⟩
  -- an alias names an asset of its own organization
  obtain ⟨b, hb, hidentity⟩ := List.mem_map.1 (inv.owned x hx)
  obtain ⟨hbid, hborg⟩ := Prod.mk.inj hidentity
  have hsame : b = a := List.inj_on_of_nodup_map inv.assets.nodup hb ha (hbid.trans hid)
  rw [← hsame, hborg, horg]

/-- It is the one that the hostname named before. -/
theorem Framed.aliases_eq (h : Framed c file inv.toInventory s) {row : HostRow}
    {serviceId : Option String} {x : AssetAlias} (hfound : Found c row s.stored serviceId [x])
    (hx : x ∈ inv.aliases.rows) : hostAliases inv.aliases c.organizationId row.hostname = [x] := by
  obtain ⟨-, hrest⟩ := mem_hostAliases.1 (hfound.aliases_eq ▸ List.mem_singleton_self x)
  have hmem : x ∈ hostAliases inv.aliases c.organizationId row.hostname :=
    mem_hostAliases.2 ⟨hx, hrest⟩
  obtain ⟨added, haliases, -⟩ := h.aliases
  have hsplit := hfound.aliases_eq
  rw [hostAliases, haliases, List.filter_append] at hsplit
  rcases List.append_eq_singleton_iff.1 hsplit with ⟨hnil, -⟩ | ⟨hone, -⟩
  · rw [hostAliases, hnil] at hmem
    exact absurd hmem List.not_mem_nil
  · exact hone

theorem Framed.row (h : Framed c file inv.toInventory s)
    (hdefault : "criticality" ∈ file.header ∨ DefaultsMatch c file inv.toInventory)
    (hentry : entry ∈ file.rows) {r : Except PyError Unit}
    (hend : RowEnd c (hostRow file.header entry.1) s r t) : Framed c file inv.toInventory t := by
  cases hend with
  | unnamed => exact h.congr rfl rfl
  | unserved => exact h.congr rfl rfl
  | ambiguous => exact h.congr rfl rfl
  | refused => exact h.congr rfl rfl
  | @updated serviceId x asset r t hfound hasset hip =>
      have hassetId : asset.id = x.assetId := Table.key_of_find? hasset
      have htouches : ∀ a ∈ inv.assets.rows, asset.id = a.id → Touches c file inv.toInventory a :=
        fun a ha hid => h.touches hentry hfound ha (hassetId.symm.trans hid)
      have hupdated : Framed c file inv.toInventory
          (s.count.assign asset.id ((hostRow file.header entry.1).patch serviceId)) := by
        refine (h.congr (t := s.count) rfl rfl).assign fun a ha hid => ⟨htouches a ha hid.symm, ?_⟩
        refine fun a' hkept => hkept.patched hfound.service fun hnot => ?_
        have hxa : x.assetId = a.id := hassetId.symm.trans hid.symm
        have hx := h.alias_mem hfound ha hxa
        have hclear := not_ambiguous_of_resolve hfound.service
        rw [h.services] at hclear
        exact (hdefault.resolve_left hnot) entry hentry x a hfound.hostname_ne
          (h.aliases_eq hfound hx) hclear (hxa ▸ Table.find?_key_of_mem ha)
      have hcounted : Framed c file inv.toInventory (s.count.assign asset.id
          ((hostRow file.header entry.1).patch serviceId)).countUpdated := hupdated.congr rfl rfl
      exact hcounted.observed hip htouches
  | @unaliased serviceId u e hfound hcreated =>
      obtain ⟨assets, now, hinsert, hcommit⟩ := hcreated
      have hnew : ∀ a ∈ inv.assets.rows, a.id ≠ _ := fun a ha => h.id_ne hinsert ha
      have hu := (h.congr (t := s.count) rfl rfl).insert hinsert
      exact (hu.commit hcommit (by simp) (by simp)).assign fun a ha hid => absurd hid (hnew a ha)
  | @created serviceId u v now i r t hfound hcreated halias hip =>
      obtain ⟨assets, _, hinsert, hcommit⟩ := hcreated
      have hnew : ∀ a ∈ inv.assets.rows, a.id ≠ _ := fun a ha => h.id_ne hinsert ha
      have hu := (h.congr (t := s.count) rfl rfl).insert hinsert
      have hu := (hu.commit hcommit (by simp) (by simp)).assign
        (p := exposurePatch (hostRow file.header entry.1).internetExposure)
        fun a ha hid => absurd hid (hnew a ha)
      have hv := hu.commit halias (fun a ha hid => hnew a ha (Option.some.inj hid).symm)
        fun x hx a ha hid => by cases hx; exact absurd hid.symm (hnew a ha)
      exact (hv.congr (t := v.countCreated) rfl rfl).observed hip
        fun a ha hid => absurd hid.symm (hnew a ha)

/-! ## Rows that are skipped -/

/-- The hostname of a row names several assets, or its service is ambiguous. -/
def AmbiguousRow (c : ImportCall) (row : HostRow) (inv : Inventory) : Prop :=
  row.hostname ≠ "" ∧ (1 < (hostAliases inv.aliases c.organizationId row.hostname).length ∨
    row.AmbiguousService inv.services c.organizationId)

omit [Driver] in
theorem AmbiguousRow.extend {row : HostRow} {inv inv' : Inventory} (h : AmbiguousRow c row inv)
    (hext : Extends inv inv') : AmbiguousRow c row inv' := by
  refine ⟨h.1, h.2.imp (fun hlong => ?_) fun hservice => ?_⟩
  · rwa [hext.hosts.eq_of_ne_nil (List.length_pos_iff.1 (zero_lt_one.trans hlong))]
  · rwa [hext.services]

/-- What a row finds is not ambiguous. -/
theorem Found.not_ambiguousRow {row : HostRow} {inv : Inventory} {serviceId : Option String}
    {aliases : List AssetAlias} (h : Found c row inv serviceId aliases) (hle : aliases.length ≤ 1) :
    ¬ AmbiguousRow c row inv := by
  rintro ⟨-, hlong | hservice⟩
  · rw [h.aliases_eq] at hlong
    omega
  · exact not_ambiguous_of_resolve h.service hservice

/-- An ambiguous row changes nothing, whether it is skipped or refused. -/
theorem RowEnd.of_ambiguous {row : HostRow} {r : Except PyError Unit} (h : RowEnd c row s r t)
    (hambiguous : AmbiguousRow c row s.stored) : t.stored = s.stored ∧ t.assets = s.assets := by
  cases h with
  | unnamed => exact ⟨rfl, rfl⟩
  | unserved => exact ⟨rfl, rfl⟩
  | ambiguous => exact ⟨rfl, rfl⟩
  | refused => exact ⟨rfl, rfl⟩
  | updated hfound => exact absurd hambiguous (hfound.not_ambiguousRow (by simp))
  | created hfound => exact absurd hambiguous (hfound.not_ambiguousRow (by simp))
  | unaliased hfound => exact absurd hambiguous (hfound.not_ambiguousRow (by simp))

end Rows

/-! ## The import as a whole -/

section Imports

variable [Driver] [Python]

/-- **What an import should leave alone**: the columns that the file does not have, everything at a
    row that is ambiguous, and the assets that the file does not name. -/
structure ImportFrame (c : ImportCall) (file : CsvFile) (inv : Inventory) : Prop where
  columns : ∀ a ∈ inv.assets.rows, ∃ a', (c.importAssets file inv).2.assets.find? a.id = some a' ∧
    KeptColumns file.header a a'
  ambiguous : ∀ done entry rest s, file.rows = done ++ entry :: rest →
    AmbiguousRow c (hostRow file.header entry.1) inv →
    c.importRows file.header done inv.opened = (.ok (), s) →
    (c.importRow file.header entry.1 entry.2 s).2.stored = s.stored ∧
      (c.importRow file.header entry.1 entry.2 s).2.assets = s.assets
  untouched : ∀ a ∈ inv.assets.rows, ¬ Touches c file inv a →
    (c.importAssets file inv).2.assets.find? a.id = some a ∧
      (c.importAssets file inv).2.aliases.rows.filter (·.assetId = a.id)
        = inv.aliases.rows.filter (·.assetId = a.id)

variable {c : ImportCall} {file : CsvFile} {inv : OwnedInventory}

theorem importFrame_of_defaults
    (hdefault : "criticality" ∈ file.header ∨ DefaultsMatch c file inv.toInventory) :
    ImportFrame c file inv.toInventory := by
  obtain ⟨t, ht, hstored⟩ : ∃ t, Framed c file inv.toInventory t ∧
      (c.importAssets file inv.toInventory).2 = t.stored :=
    importAssets_keeps (fun entry hentry s r t hs hend => hs.row hdefault hentry hend)
      (fun now s t hs hcommit => hs.commit hcommit (by simp) (by simp)) framed_opened
  refine ⟨fun a ha => ?_, fun done entry rest s _ hambiguous hdone => ?_, fun a ha hnot => ⟨?_, ?_⟩⟩
  · rw [hstored]
    obtain ⟨a', hfind, hkept, -⟩ := ht.stored a ha
    exact ⟨a', hfind, hkept⟩
  · have hext : Extends inv.toInventory s.stored := by
      have := importRows_extends (c := c) (s := inv.toInventory.opened) file.header done
      rwa [hdone] at this
    have hend : RowEnd c (hostRow file.header entry.1) s
        (c.importRow file.header entry.1 entry.2 s).1
        (c.importRow file.header entry.1 entry.2 s).2 := importRow_ends file.header entry.1
    exact hend.of_ambiguous (hambiguous.extend hext)
  · rw [hstored]
    obtain ⟨a', hfind, -, huntouched⟩ := ht.stored a ha
    rw [hfind, huntouched hnot]
  · rw [hstored]
    obtain ⟨added, haliases, hadded⟩ := ht.aliases
    have hnone : added.filter (·.assetId = a.id) = [] :=
      List.filter_eq_nil_iff.2 fun x hx hid => hnot (hadded x hx a ha (by simpa using hid)).1
    rw [haliases, List.filter_append, hnone, List.append_nil]

omit [Driver] in
/-- A file without hostnames has no rows that could change anything. -/
theorem defaultsMatch_of_notMem (h : "hostname" ∉ file.header) :
    DefaultsMatch c file inv.toInventory :=
  fun _ _ _ _ hname => absurd (csvField_of_notMem h) hname

omit [Driver] [Python] in
/-- Patches that all set the criticality to one value. -/
theorem criticality_total {ps : List AssetPatch} {value : String} (hne : ps ≠ [])
    (h : ∀ p ∈ ps, p.criticality = some value) :
    (Overlay.total ps).criticality = some value := by
  obtain ⟨front, p, rfl⟩ := (List.eq_nil_or_concat' ps).resolve_left hne
  rw [Overlay.total_concat]
  show p.criticality.or _ = _
  rw [h p (by simp)]
  rfl

/-- What a completed import without the column has set. -/
theorem criticality_of_completed {s : ImportState} (hcolumn : "criticality" ∉ file.header)
    (hrows : c.importRows file.header file.rows inv.opened = (.ok (), s))
    {entry : List String × ℕ} (hentry : entry ∈ file.rows) {x : AssetAlias}
    (hname : (hostRow file.header entry.1).hostname ≠ "")
    (halias : hostAliases inv.aliases c.organizationId (hostRow file.header entry.1).hostname = [x])
    (hservice : ¬ (hostRow file.header entry.1).AmbiguousService inv.services c.organizationId) :
    ∃ b, s.assets.find? x.assetId = some b ∧ b.criticality = "medium" := by
  have hext : Extends inv.toInventory s.stored := by
    have := importRows_extends (c := c) (s := inv.toInventory.opened) file.header file.rows
    rwa [hrows] at this
  obtain ⟨ops, hseen, hmarked⟩ := progress_of_importRows hrows
  -- the row has found the asset
  obtain ⟨op, hop, hrow⟩ := exists_of_forall₂ hseen hentry
  have hfound : ∃ serviceId, op = some (x.assetId, (hostRow file.header entry.1).settings serviceId) := by
    have hne : hostAliases inv.aliases c.organizationId (hostRow file.header entry.1).hostname ≠ [] := by
      rw [halias]
      simp
    have hx := hext.hosts.eq_of_ne_nil hne
    rw [halias] at hx
    cases hrow with
    | unnamed h => exact absurd h hname
    | unserved _ h => exact absurd (hext.services ▸ ambiguous_of_resolve h) hservice
    | ambiguous h hlong =>
        rw [← h.aliases_eq, hx] at hlong
        simp at hlong
    | @matched serviceId a h hip =>
        have ha : [a] = [x] := h.aliases_eq.symm.trans hx
        cases ha
        exact ⟨serviceId, rfl⟩
  obtain ⟨serviceId, rfl⟩ := hfound
  have hmem : (x.assetId, (hostRow file.header entry.1).settings serviceId) ∈ ops.filterMap id :=
    List.mem_filterMap.2 ⟨_, hop, rfl⟩
  obtain ⟨b, hb, hid⟩ := List.mem_map.1 (hmarked.keys _ hmem)
  refine ⟨b, Table.find?_eq_some.2 ⟨hb, hid⟩, ?_⟩
  -- the asset bears the mark of the row, and every row sets the default
  have htotal : (Overlay.total (Overlay.patchesAt b.id (ops.filterMap id))).criticality
      = some "medium" := by
    refine criticality_total (List.ne_nil_of_mem (List.mem_map.2 ⟨_, List.mem_filter.2
      ⟨hmem, by simpa using hid.symm⟩, rfl⟩)) fun p hp => ?_
    obtain ⟨⟨k, q⟩, hq, rfl⟩ := List.mem_map.1 hp
    obtain ⟨op', hop', hop'_eq⟩ := List.mem_filterMap.1 (List.mem_filter.1 hq).1
    obtain ⟨entry', -, hrow'⟩ := exists_of_forall₂ hseen.flip hop'
    cases hop'_eq
    cases hrow' with
    | matched => exact congrArg some (criticality_of_notMem hcolumn)
  have hb_eq := congrArg InventoryAsset.criticality (hmarked.settled b hb)
  rw [← hb_eq]
  show (Overlay.total (Overlay.patchesAt b.id (ops.filterMap id))).criticality.getD _ = _
  rw [htotal]
  rfl

/-- **Exactly when an import updates only what the file says**: where the file has a criticality
    column, or every asset that its rows update is `medium` already. -/
theorem importFrame_iff (c : ImportCall) (file : CsvFile) (inv : OwnedInventory) :
    ("criticality" ∈ file.header ∨ DefaultsMatch c file inv.toInventory →
      ImportFrame c file inv.toInventory) ∧
    ((∃ answer, (c.importAssets file inv.toInventory).1 = .ok answer) →
      ImportFrame c file inv.toInventory →
      "criticality" ∈ file.header ∨ DefaultsMatch c file inv.toInventory) := by
  refine ⟨importFrame_of_defaults, ?_⟩
  rintro ⟨answer, hanswer⟩ hframe
  by_cases hcolumn : "criticality" ∈ file.header
  · exact .inl hcolumn
  · by_cases hname : "hostname" ∈ file.header
    · obtain ⟨s, t, now, hrows, -, hcommit, hstored, -⟩ := importAssets_completed hname hanswer
      refine .inr fun entry hentry x a hhost halias hservice hfind => ?_
      obtain ⟨b, hb, hmedium⟩ :=
        criticality_of_completed hcolumn hrows hentry hhost halias hservice
      obtain ⟨a', ha', hkept⟩ := hframe.columns a (Table.mem_of_find? hfind)
      have hcommitted := committed_of_commit hcommit
      have hid : a.id = x.assetId := Table.key_of_find? hfind
      rw [hstored, hcommitted.stored, hid, Table.find?_of_rows_map
        (flushedAsset_id s.stored.assets none now) hcommitted.assets, hb] at ha'
      cases ha'
      rw [← hkept.criticality hcolumn, ← hmedium]
      unfold flushedAsset
      split_ifs <;> rfl
    · exact .inr (defaultsMatch_of_notMem hname)

end Imports

/-! ## A file of hostnames -/

def sampleWebAsset : InventoryAsset :=
  ⟨"ast_1", "Web Frontend", "host", "active", some "prod", some "platform", "critical", none,
    some "external", "org-demo", none, none, none, 0, 0⟩

/-- The inventory of one critical asset, with its hostname. -/
def sampleWebInventory : OwnedInventory where
  assets := ⟨[sampleWebAsset], by decide⟩
  aliases := ⟨[⟨"alias_web01", "ast_1", "hostname", "web01", "org-demo"⟩], by decide⟩
  services := .empty
  owned := by decide
  named := by decide

def sampleImport : ImportCall :=
  ⟨"org-demo", ⟨fun i => i, fun i => Nat.repr i, none⟩, by decide⟩

/-- The file gives the hostname and nothing else. -/
def sampleHostnames : CsvFile := ⟨[["hostname"], ["web01"]], none⟩

def sampleCriticalities : CsvFile := ⟨[["hostname", "criticality"], ["web01", "low"]], none⟩

/-- The import of a file of hostnames sets a critical asset back to `medium`. -/
theorem import_resets_criticality :
    ¬ @ImportFrame sqliteDriver asciiPython sampleImport sampleHostnames
      sampleWebInventory.toInventory := by
  intro h
  obtain ⟨a', hfind, hkept⟩ :=
    @ImportFrame.columns sqliteDriver asciiPython _ _ _ h sampleWebAsset (by decide)
  have hcriticality : ((@ImportCall.importAssets sqliteDriver asciiPython sampleImport sampleHostnames
      sampleWebInventory.toInventory).2.assets.find? "ast_1").map InventoryAsset.criticality
        = some "medium" := by
    decide +kernel
  rw [show (_ : Table InventoryAsset).find? "ast_1" = some a' from hfind] at hcriticality
  have hkept := hkept.criticality (by decide +kernel)
  rw [Option.some.inj hcriticality] at hkept
  exact absurd hkept (by decide)

/-- With a criticality column it updates what the file says. -/
theorem import_frame_sample :
    @ImportFrame sqliteDriver asciiPython sampleImport sampleCriticalities
      sampleWebInventory.toInventory :=
  (@importFrame_iff sqliteDriver asciiPython sampleImport sampleCriticalities sampleWebInventory).1
    (.inl (by decide +kernel))

end VulnOpsHub
