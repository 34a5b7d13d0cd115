import VulnOpsHub.Assets.Rows
import VulnOpsHub.Lib.Overlays

set_option autoImplicit false

/-! # The marks of an import

What a row sets on an asset is a patch that later rows may override. A hostname gets an alias only
when it has none, so every row of a file that has been gone through finds its asset again, and the
assets bear the marks of the patches in the order of the file. -/

namespace VulnOpsHub

/-! ## Patches -/

/-- What is set on an asset; `none` keeps a column. -/
@[ext]
structure AssetPatch where
  criticality : Option String
  environment : Option String
  owner : Option (Option String)
  businessServiceId : Option String
  internetExposure : Option String

instance : Monoid AssetPatch where
  one := ⟨none, none, none, none, none⟩
  mul p q := ⟨p.criticality.or q.criticality, p.environment.or q.environment, p.owner.or q.owner,
    p.businessServiceId.or q.businessServiceId, p.internetExposure.or q.internetExposure⟩
  mul_assoc _ _ _ := AssetPatch.ext Option.or_assoc Option.or_assoc Option.or_assoc Option.or_assoc
    Option.or_assoc
  one_mul _ := rfl
  mul_one _ := AssetPatch.ext Option.or_none Option.or_none Option.or_none Option.or_none
    Option.or_none

instance : MulAction AssetPatch InventoryAsset where
  smul p a :=
    { a with
      criticality := p.criticality.getD a.criticality
      environment := p.environment.or a.environment
      owner := p.owner.getD a.owner
      businessServiceId := p.businessServiceId.or a.businessServiceId
      internetExposure := p.internetExposure.or a.internetExposure }
  one_smul _ := rfl
  mul_smul p q a := by
    have hget : ∀ {α : Type} (x y : Option α) (z : α), (x.or y).getD z = x.getD (y.getD z) := by
      intro α x y z
      cases x <;> rfl
    exact InventoryAsset.ext rfl rfl rfl rfl Option.or_assoc (hget _ _ _) (hget _ _ _) rfl
      Option.or_assoc rfl Option.or_assoc rfl rfl rfl rfl

instance : Overriding AssetPatch where
  mul_mul_self p q := by
    have hor : ∀ {α : Type} (x y : Option α), (x.or y).or x = x.or y := by
      intro α x y
      cases x <;> cases y <;> rfl
    exact AssetPatch.ext (hor _ _) (hor _ _) (hor _ _) (hor _ _) (hor _ _)

instance : Overlay AssetPatch InventoryAsset where
  key_smul _ _ := rfl

/-- What a row sets. -/
def HostRow.settings (row : HostRow) (serviceId : Option String) : AssetPatch where
  criticality := some row.criticality
  environment := nonEmpty row.environment
  owner := if row.ownerColumnPresent then some row.owner else none
  businessServiceId := nonEmpty serviceId
  internetExposure := nonEmpty row.internetExposure

theorem HostRow.patch_apply (row : HostRow) (serviceId : Option String) (a : InventoryAsset) :
    (row.patch serviceId).apply a = row.settings serviceId • a := by
  refine InventoryAsset.ext rfl rfl rfl rfl rfl ?_ rfl rfl rfl rfl rfl rfl rfl rfl rfl
  show (if row.ownerColumnPresent then row.owner else a.owner)
    = (if row.ownerColumnPresent then some row.owner else none).getD a.owner
  cases row.ownerColumnPresent <;> rfl

theorem HostRow.update_patch (row : HostRow) (serviceId : Option String)
    (t : Table InventoryAsset) (id : String) : t.update id (row.patch serviceId)
      = t.update id (Overlay.rowPatch InventoryAsset (row.settings serviceId)) := by
  refine Table.ext (List.map_congr_left fun a _ => ?_)
  rw [row.patch_apply serviceId a]
  rfl

/-- A new asset bears the mark of its row. -/
theorem settings_newAsset (c : ImportCall) (row : HostRow) (serviceId : Option String) (i : ℕ) :
    row.settings serviceId • (exposurePatch row.internetExposure).apply (c.newAsset row serviceId i)
      = (exposurePatch row.internetExposure).apply (c.newAsset row serviceId i) := by
  have hor : ∀ x : Option String, (nonEmpty x).or x = x := by
    intro x
    cases h : nonEmpty x with
    | none => rfl
    | some y => rw [(nonEmpty_eq_some.1 h).1]; rfl
  refine InventoryAsset.ext rfl rfl rfl rfl (hor row.environment) ?_ rfl rfl
    (hor row.internetExposure) rfl (hor serviceId) rfl rfl rfl rfl
  show (if row.ownerColumnPresent then some row.owner else none).getD row.owner = row.owner
  cases row.ownerColumnPresent <;> rfl

/-- No patch sees `updated_at`. -/
theorem smul_flushedAsset (stored : Table InventoryAsset) (expired : Option String) (now : Instant)
    (p : AssetPatch) (a : InventoryAsset) (h : p • a = a) :
    p • flushedAsset stored expired now a = flushedAsset stored expired now a := by
  unfold flushedAsset
  split_ifs
  · exact h
  · show { p • a with updatedAt := now } = { a with updatedAt := now }
    rw [h]

/-! ## Aliases -/

/-- Between two states a hostname keeps its aliases, or it had none and has got one. -/
def HostsGrow (aliases aliases' : Table AssetAlias) : Prop :=
  ∀ organizationId hostname,
    hostAliases aliases' organizationId hostname = hostAliases aliases organizationId hostname ∨
      hostAliases aliases organizationId hostname = [] ∧
        (hostAliases aliases' organizationId hostname).length = 1

theorem HostsGrow.refl (aliases : Table AssetAlias) : HostsGrow aliases aliases :=
  fun _ _ => .inl rfl

theorem HostsGrow.trans {a b c : Table AssetAlias} (hab : HostsGrow a b) (hbc : HostsGrow b c) :
    HostsGrow a c := by
  intro organizationId hostname
  rcases hbc organizationId hostname with hc | ⟨hb, hc⟩
  · rw [hc]
    exact hab organizationId hostname
  · rcases hab organizationId hostname with ha | ⟨-, hone⟩
    · exact .inr ⟨ha ▸ hb, hc⟩
    · simp [hb] at hone

/-- A hostname that has aliases keeps them. -/
theorem HostsGrow.eq_of_ne_nil {a b : Table AssetAlias} (h : HostsGrow a b)
    {organizationId hostname : String} (hne : hostAliases a organizationId hostname ≠ []) :
    hostAliases b organizationId hostname = hostAliases a organizationId hostname :=
  (h organizationId hostname).resolve_right fun hnil => hne hnil.1

/-- A hostname with at most one alias has at most one. -/
theorem HostsGrow.length_le_one {a b : Table AssetAlias} (h : HostsGrow a b)
    {organizationId hostname : String} (hle : (hostAliases a organizationId hostname).length ≤ 1) :
    (hostAliases b organizationId hostname).length ≤ 1 := by
  rcases h organizationId hostname with heq | ⟨-, hone⟩
  · rwa [heq]
  · exact hone.le

theorem hostAliases_append {a b : Table AssetAlias} {added : List AssetAlias}
    (h : b.rows = a.rows ++ added) (organizationId hostname : String) :
    hostAliases b organizationId hostname = hostAliases a organizationId hostname ++
      added.filter fun x => x.aliasNamespace = "hostname" && x.value = hostname &&
        x.organizationId = organizationId := by
  rw [hostAliases, h, List.filter_append]
  rfl

/-- What a row does to the tables other than the assets. -/
structure Extends (s t : Inventory) : Prop where
  services : t.services = s.services
  aliases : ∃ added, t.aliases.rows = s.aliases.rows ++ added
  hosts : HostsGrow s.aliases t.aliases

theorem Extends.refl (s : Inventory) : Extends s s :=
  ⟨rfl, ⟨[], (List.append_nil _).symm⟩, .refl _⟩

theorem Extends.trans {s t u : Inventory} (hst : Extends s t) (htu : Extends t u) : Extends s u := by
  obtain ⟨added, ht⟩ := hst.aliases
  obtain ⟨added', hu⟩ := htu.aliases
  exact ⟨htu.services.trans hst.services, ⟨added ++ added', by rw [hu, ht, List.append_assoc]⟩,
    hst.hosts.trans htu.hosts⟩

/-- Adding an alias that is not a hostname. -/
theorem Committed.extends [Driver] {now : Instant} {expired : Option String}
    {added : Option AssetAlias} {s t : ImportState} (h : Committed now expired added s t)
    (hadded : ∀ x ∈ added, x.aliasNamespace = "hostname" →
      hostAliases s.stored.aliases x.organizationId x.value = []) : Extends s.stored t.stored := by
  refine ⟨h.services, ⟨_, h.aliases⟩, fun organizationId hostname => ?_⟩
  rw [hostAliases_append h.aliases]
  cases added with
  | none => exact .inl (List.append_nil _)
  | some x =>
      by_cases hx : x.aliasNamespace = "hostname" ∧ x.value = hostname ∧
          x.organizationId = organizationId
      · obtain ⟨hns, rfl, rfl⟩ := hx
        right
        rw [hadded x rfl hns]
        simp [hns]
      · left
        simpa [and_assoc] using hx

section Rows

variable [Driver] {c : ImportCall} {s t u : ImportState} {assetId ip : String}
  {r : Except PyError Unit} {row : HostRow} {serviceId : Option String}

theorem Observed.extends (h : Observed c assetId ip s r t) : Extends s.stored t.stored := by
  cases h with
  | quiet => exact .refl _
  | failed => exact .refl _
  | added _ _ _ hcommit =>
      refine hcommit.extends fun x hx hns => ?_
      cases hx
      exact absurd hns (by show "ip" ≠ "hostname"; decide)

theorem Created.extends (h : Created c row serviceId s u) : Extends s.stored u.stored := by
  obtain ⟨assets, now, -, hcommit⟩ := h
  exact hcommit.extends fun x hx => by cases hx

omit [Driver] in
theorem Created.hostAliases_eq (h : Created c row serviceId s u) (organizationId hostname : String) :
    hostAliases u.stored.aliases organizationId hostname
      = hostAliases s.stored.aliases organizationId hostname := by
  obtain ⟨assets, now, -, hcommit⟩ := h
  rw [hostAliases_append hcommit.aliases]
  exact List.append_nil _

variable [Python]

theorem RowEnd.extends (h : RowEnd c row s r t) : Extends s.stored t.stored := by
  cases h with
  | unnamed => exact .refl _
  | unserved => exact .refl _
  | ambiguous => exact .refl _
  | refused => exact .refl _
  | updated _ _ hip => exact hip.extends
  | unaliased _ hcreated => exact hcreated.extends
  | created hfound hcreated halias hip =>
      refine hcreated.extends.trans (.trans (halias.extends fun x hx hns => ?_) hip.extends)
      cases hx
      exact (hcreated.hostAliases_eq _ _).trans hfound.aliases_eq

/-! ## Rows that have been gone through -/

/-- The alias by which an asset has an address. -/
def IpSeen (c : ImportCall) (assetId ip : String) (aliases : Table AssetAlias) : Prop :=
  ip = "" ∨ Comparable c.organizationId ∧ Comparable ip ∧
    ∃ a ∈ aliases.rows, a.assetId = assetId ∧ a.aliasNamespace = "ip" ∧ a.value = ip ∧
      a.organizationId = c.organizationId

/-- What a row finds once it has been gone through, with what it sets on which asset. -/
inductive Seen (c : ImportCall) (row : HostRow) (inv : Inventory) :
    Option (String × AssetPatch) → Prop where
  | unnamed (h : row.hostname = "") : Seen c row inv none
  | unserved {message : String} (hname : row.hostname ≠ "")
      (h : resolveBusinessServiceId inv.services c.organizationId row.explicitId row.serviceName
        = .error (.valueError message)) : Seen c row inv none
  | ambiguous {serviceId : Option String} {aliases : List AssetAlias}
      (h : Found c row inv serviceId aliases) (hlong : 1 < aliases.length) :
      Seen c row inv none
  | matched {serviceId : Option String} {a : AssetAlias}
      (h : Found c row inv serviceId [a])
      (hip : IpSeen c a.assetId row.ip inv.aliases) :
      Seen c row inv (some (a.assetId, row.settings serviceId))

theorem Found.extend {inv inv' : Inventory} {aliases : List AssetAlias}
    (h : Found c row inv serviceId aliases) (hext : Extends inv inv') (hne : aliases ≠ []) :
    Found c row inv' serviceId aliases where
  hostname_ne := h.hostname_ne
  service := by rw [hext.services]; exact h.service
  comparable := h.comparable
  aliases_eq := by
    rw [hext.hosts.eq_of_ne_nil (by rw [h.aliases_eq]; exact hne)]
    exact h.aliases_eq

/-- What a row finds stays what it finds. -/
theorem Seen.extend {inv inv' : Inventory} {op : Option (String × AssetPatch)}
    (h : Seen c row inv op) (hext : Extends inv inv') : Seen c row inv' op := by
  cases h with
  | unnamed h => exact .unnamed h
  | unserved hname h => exact .unserved hname (by rw [hext.services]; exact h)
  | ambiguous h hlong =>
      have hne : _ ≠ [] := List.length_pos_iff.1 (zero_lt_one.trans hlong)
      exact .ambiguous (h.extend hext hne) hlong
  | matched h hip =>
      refine .matched (h.extend hext (by simp)) (hip.imp_right fun hseen => ?_)
      obtain ⟨horg, hcomparable, a, ha, hrest⟩ := hseen
      obtain ⟨added, haliases⟩ := hext.aliases
      exact ⟨horg, hcomparable, a, haliases ▸ List.mem_append_left _ ha, hrest⟩

omit [Python] in
theorem Observed.ipSeen (h : Observed c assetId ip s (.ok ()) t) :
    IpSeen c assetId ip t.stored.aliases := by
  cases h with
  | quiet h => exact h
  | @added now i t hip horg hcomparable hcommit =>
      refine .inr ⟨horg, hcomparable, c.newAlias assetId "ip" ip i, ?_, rfl, rfl, rfl, rfl⟩
      rw [hcommit.aliases]
      exact List.mem_append_right _ (List.mem_singleton.2 rfl)

end Rows

/-! ## Marks -/

/-- The assets bear the marks of patches that went to some of them. -/
structure Marked (ops : List (String × AssetPatch)) (assets : Table InventoryAsset) : Prop where
  settled : Overlay.Settled ops assets.rows
  keys : ∀ op ∈ ops, op.1 ∈ assets.rows.map InventoryAsset.id

section Marks

variable {ops : List (String × AssetPatch)} {assets : Table InventoryAsset} {row : HostRow}
  {serviceId : Option String}

theorem map_flushedAsset_id (stored : Table InventoryAsset) (expired : Option String) (now : Instant)
    (rows : List InventoryAsset) :
    (rows.map (flushedAsset stored expired now)).map InventoryAsset.id
      = rows.map InventoryAsset.id := by
  rw [List.map_map]
  exact List.map_congr_left fun a _ => flushedAsset_id stored expired now a

theorem settled_flushed {rows : List InventoryAsset} (h : Overlay.Settled ops rows)
    (stored : Table InventoryAsset) (expired : Option String) (now : Instant) :
    Overlay.Settled ops (rows.map (flushedAsset stored expired now)) :=
  h.map (flushedAsset_id stored expired now) (smul_flushedAsset stored expired now)

theorem Marked.commit [Driver] {now : Instant} {expired : Option String} {added : Option AssetAlias}
    {s t : ImportState} (h : Marked ops s.assets) (hcommit : Committed now expired added s t) :
    Marked ops t.assets where
  settled := by
    rw [hcommit.assets]
    exact settled_flushed h.settled _ _ _
  keys op hop := by
    rw [hcommit.assets, map_flushedAsset_id]
    exact h.keys op hop

theorem Marked.update (h : Marked ops assets) {id : String}
    (hid : id ∈ assets.rows.map InventoryAsset.id) :
    Marked (ops ++ [(id, row.settings serviceId)]) (assets.update id (row.patch serviceId)) := by
  have hkeys : (assets.update id (row.patch serviceId)).rows.map InventoryAsset.id
      = assets.rows.map InventoryAsset.id :=
    assets.map_update id (row.patch serviceId) InventoryAsset.id fun _ => rfl
  refine ⟨?_, fun op hop => ?_⟩
  · rw [row.update_patch]
    exact h.settled.update id (row.settings serviceId)
  · rw [hkeys]
    rcases List.mem_append.1 hop with hop | hop
    · exact h.keys op hop
    · rw [List.mem_singleton.1 hop]
      exact hid

theorem Marked.observed [Driver] {c : ImportCall} {assetId ip : String} {s t : ImportState}
    {r : Except PyError Unit} (h : Marked ops s.assets) (hip : Observed c assetId ip s r t) :
    Marked ops t.assets := by
  cases hip with
  | quiet => exact h
  | failed => exact h
  | added _ _ _ hcommit => exact h.commit hcommit

/-- A new asset bears the mark of its row, also after it has been flushed. -/
theorem settings_flushed (c : ImportCall) (stored : Table InventoryAsset) (expired : Option String)
    (now : Instant) (i : ℕ) :
    row.settings serviceId • (exposurePatch row.internetExposure).apply
        (flushedAsset stored expired now (c.newAsset row serviceId i))
      = (exposurePatch row.internetExposure).apply
        (flushedAsset stored expired now (c.newAsset row serviceId i)) := by
  have hnew := settings_newAsset c row serviceId i
  unfold flushedAsset
  split_ifs
  · exact hnew
  · exact congrArg (fun a : InventoryAsset => { a with updatedAt := now }) hnew

theorem Marked.create [Driver] {c : ImportCall} {s u : ImportState} (h : Marked ops s.assets)
    (hcreated : Created c row serviceId s u) :
    Marked (ops ++ [((c.newAsset row serviceId s.drawn).id, row.settings serviceId)])
      (u.assign (c.newAsset row serviceId s.drawn).id (exposurePatch row.internetExposure)).assets := by
  obtain ⟨assets, now, hinsert, hcommit⟩ := hcreated
  generalize hnew : c.newAsset row serviceId s.drawn = new at hinsert ⊢
  have hfresh : new.id ∉ s.assets.rows.map InventoryAsset.id :=
    Table.find?_eq_none.1 (Table.find?_of_insert hinsert)
  have hrows : (u.assign new.id (exposurePatch row.internetExposure)).assets.rows
      = s.assets.rows.map (flushedAsset s.stored.assets none now) ++
        [(exposurePatch row.internetExposure).apply
          (flushedAsset s.stored.assets none now new)] := by
    show (u.assets.rows.map _) = _
    rw [hcommit.assets, show assets.rows = s.assets.rows ++ [new] from Table.rows_insert hinsert,
      List.map_append, List.map_append]
    congr 1
    · conv_rhs => rw [← List.map_id (s.assets.rows.map _)]
      refine List.map_congr_left fun a' ha' => if_neg fun hid => hfresh ?_
      rw [← map_flushedAsset_id s.stored.assets none now, ← hid]
      exact List.mem_map_of_mem ha'
    · exact congrArg (fun a => [a]) (if_pos (flushedAsset_id s.stored.assets none now new))
  have hid : ((exposurePatch row.internetExposure).apply
      (flushedAsset s.stored.assets none now new)).id = new.id :=
    flushedAsset_id s.stored.assets none now new
  have hold : (s.assets.rows.map (flushedAsset s.stored.assets none now)).map InventoryAsset.id
      = s.assets.rows.map InventoryAsset.id := map_flushedAsset_id _ _ _ _
  refine ⟨?_, fun op hop => ?_⟩
  · rw [hrows, ← hid]
    refine (settled_flushed h.settled _ _ _).create (fun op hop heq => hfresh ?_)
      (fun r hr heq => hfresh ?_) ?_
    · have hop_id : op.1 = new.id := heq.trans hid
      exact hop_id ▸ h.keys op hop
    · have hr_id : r.id = new.id := heq.symm.trans hid
      rw [← hold, ← hr_id]
      exact List.mem_map_of_mem hr
    · rw [← hnew]
      exact settings_flushed c _ _ _ _
  · rw [hrows, List.map_append, hold, List.map_singleton, hid]
    rcases List.mem_append.1 hop with hop | hop
    · exact List.mem_append_left _ (h.keys op hop)
    · rw [List.mem_singleton.1 hop]
      exact List.mem_append_right _ (List.mem_singleton.2 rfl)

end Marks

/-! ## Progress -/

/-- What the rows that have been gone through have left, with the patches in their order. -/
structure Progress [Driver] [Python] (c : ImportCall) (header : List String)
    (done : List (List String × ℕ)) (ops : List (Option (String × AssetPatch))) (s : ImportState) :
    Prop where
  seen : List.Forall₂ (fun entry op => Seen c (hostRow header entry.1) s.stored op) done ops
  marked : Marked (ops.filterMap id) s.assets

section Progress

variable [Driver] [Python] {c : ImportCall} {s t : ImportState} {row : HostRow}
  {ops : List (String × AssetPatch)}

/-- A row that does not raise finds its asset again afterwards, and the asset bears its mark. -/
theorem RowEnd.marked (h : RowEnd c row s (.ok ()) t) (hs : Marked ops s.assets) :
    ∃ op, Seen c row t.stored op ∧ Marked (ops ++ op.toList) t.assets := by
  have hnone : Marked (ops ++ (none : Option (String × AssetPatch)).toList) s.assets := by
    rwa [Option.toList_none, List.append_nil]
  cases h with
  | unnamed hname => exact ⟨none, .unnamed hname, hnone⟩
  | unserved hname h => exact ⟨none, .unserved hname h, hnone⟩
  | ambiguous hfound hlong => exact ⟨none, .ambiguous hfound hlong, hnone⟩
  | @updated serviceId a asset r t hfound hasset hip =>
      have hid : asset.id = a.assetId := Table.key_of_find? hasset
      rw [hid] at hip
      have hext := hip.extends
      refine ⟨_, .matched (hfound.extend hext (by simp)) hip.ipSeen, ?_⟩
      exact (hs.update (hid ▸ List.mem_map_of_mem (Table.mem_of_find? hasset))).observed hip
  | @created serviceId u v now i r t hfound hcreated halias hip =>
      have hv := (Marked.create (s := s.count) hs hcreated).commit (t := v) halias
      have hmarked := Marked.observed (s := v.countCreated) hv hip
      have haliases : hostAliases v.stored.aliases c.organizationId row.hostname
          = [c.newAlias (c.newAsset row serviceId s.drawn).id "hostname" row.hostname i] := by
        rw [hostAliases_append halias.aliases,
          show hostAliases (u.assign _ _).stored.aliases c.organizationId row.hostname = []
            from (hcreated.hostAliases_eq _ _).trans hfound.aliases_eq]
        simp [ImportCall.newAlias]
      have hservices : v.stored.services = s.stored.services :=
        halias.services.trans hcreated.extends.services
      have hseen : Found c row v.stored serviceId
          [c.newAlias (c.newAsset row serviceId s.drawn).id "hostname" row.hostname i] :=
        ⟨hfound.hostname_ne, by rw [hservices]; exact hfound.service, hfound.comparable, haliases⟩
      exact ⟨_, .matched (hseen.extend hip.extends (by simp)) hip.ipSeen, hmarked⟩

theorem importRows_extends (header : List String) (rows : List (List String × ℕ)) :
    Extends s.stored (c.importRows header rows s).2.stored :=
  importRows_keeps (I := fun t => Extends s.stored t.stored)
    (fun _ _ _ _ _ hs hend => hs.trans hend.extends) (.refl _)

/-- What all rows of a file have left. -/
theorem progress_of_importRows {header : List String} {rows : List (List String × ℕ)}
    (h : c.importRows header rows s = (.ok (), t)) : ∃ ops, Progress c header rows ops t := by
  refine importRows_returns (I := fun done s => ∃ ops, Progress c header done ops s) ?_ h
    ⟨[], .nil, Overlay.settled_nil _, fun op hop => absurd hop List.not_mem_nil⟩
  rintro done entry s t ⟨ops, hops⟩ hend
  obtain ⟨op, hseen, hmarked⟩ := hend.marked hops.marked
  refine ⟨ops ++ [op], ?_, ?_⟩
  · exact List.rel_append (hops.seen.imp fun _ _ h => h.extend hend.extends) (.cons hseen .nil)
  · rw [List.filterMap_append]
    cases op <;> simpa using hmarked

end Progress

end VulnOpsHub
