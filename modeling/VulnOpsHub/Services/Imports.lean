import VulnOpsHub.Assets.Frames
import VulnOpsHub.Assets.Marks
import VulnOpsHub.Services.Races

set_option autoImplicit false

/-! # Services in imported files

A CSV file names the service of an asset as people write it. The import finds it by the key under which
the requests of the API have stored it, and the key belongs to one service of the organization. -/

namespace VulnOpsHub

/-- What is paired with an entry of a list, between what is paired with those before and after it. -/
theorem exists_split_of_forall₂ {α β : Type} {R : α → β → Prop} {before after : List α} {x : α}
    {ys : List β} (h : List.Forall₂ R (before ++ x :: after) ys) :
    ∃ us y vs, ys = us ++ y :: vs ∧ R x y ∧ List.Forall₂ R after vs := by
  have hdrop := List.forall₂_drop before.length h
  rw [List.drop_left, List.forall₂_cons_left_iff] at hdrop
  obtain ⟨y, vs, hxy, hafter, hys⟩ := hdrop
  refine ⟨ys.take before.length, y, vs, ?_, hxy, hafter⟩
  rw [← hys, List.take_append_drop]

/-! ## The services as the import reads them -/

def BusinessService.named (s : BusinessService) : NamedService :=
  ⟨s.id, s.organizationId, s.nameNormalized⟩

def BusinessServices.named (t : BusinessServices) : Table NamedService :=
  t.toTable.project BusinessService.named fun _ => rfl

/-- The import sees at most one service under a name. -/
theorem servicesNamed_eq (t : BusinessServices) (organizationId key : String) :
    servicesNamed t.named organizationId key
      = ((t.byNatural (organizationId, key)).map BusinessService.id).toList := by
  have hfilter : servicesNamed t.named organizationId key = (t.rows.filter fun s =>
      NaturalKey.natural s = (organizationId, key)).map BusinessService.id := by
    simp only [servicesNamed, BusinessServices.named, Table.project, List.filter_map, List.map_map]
    refine congrArg (List.map _) (List.filter_congr fun s _ => ?_)
    rw [Bool.eq_iff_iff, Function.comp_apply, Bool.and_eq_true, decide_eq_true_iff,
      decide_eq_true_iff, decide_eq_true_iff]
    exact (Prod.mk.injEq _ _ _ _).to_iff.symm
  rw [hfilter, UniqueTable.filter_natural]
  cases t.byNatural (organizationId, key) <;> rfl

theorem servicesNamed_length_le (t : BusinessServices) (organizationId key : String) :
    (servicesNamed t.named organizationId key).length ≤ 1 := by
  rw [servicesNamed_eq]
  cases t.byNatural (organizationId, key) <;> simp

/-- No name is ambiguous. -/
theorem not_ambiguousService [Python] (t : BusinessServices) (row : HostRow)
    (organizationId : String) : ¬ row.AmbiguousService t.named organizationId := by
  rintro ⟨-, name, -, hlt⟩
  exact absurd (servicesNamed_length_le t organizationId (Python.casefold name)) (by omega)

/-! ## The service of a row -/

/-- The cell that names the service of a record. -/
def serviceCell (header record : List String) : String :=
  orElse (csvCell header record "service") (orElse (csvCell header record "service_name") "")

section Rows

variable [Python] [Driver] {t : BusinessServices} {made : BusinessService}

/-- A row that gives no id finds the service that its cell names. -/
theorem service_of_resolve {header record : List String} {serviceId : Option String}
    (hmade : made ∈ t.rows) (hname : strip (serviceCell header record) ≠ "")
    (hkey : normalizeBusinessServiceName (serviceCell header record) = made.nameNormalized)
    (hid : (hostRow header record).explicitId = none)
    (h : resolveBusinessServiceId t.named made.organizationId (hostRow header record).explicitId
      (hostRow header record).serviceName = .ok serviceId) : serviceId = some made.id := by
  have hcell : (hostRow header record).serviceName
      = nonEmpty (some (strip (serviceCell header record))) := by
    simp only [hostRow, serviceCell]
  have hsome : nonEmpty (some (strip (serviceCell header record)))
      = some (strip (serviceCell header record)) := by
    simp [nonEmpty, hname]
  have hbyKey : t.byNatural (made.organizationId, made.nameNormalized) = some made :=
    UniqueTable.byNatural_eq_some.2 ⟨hmade, rfl⟩
  obtain ⟨resolved, hresolved, h⟩ := except_bind_eq_ok.1 h
  rw [hid] at hresolved
  cases hresolved
  rw [if_neg (by simp [nonEmpty]), hcell, hsome] at h
  simp only [serviceWithName, hsome, Option.elim_some, except_bind_eq_ok,
    accepted_compared, raiseIf_eq_ok] at h
  obtain ⟨org, ⟨-, rfl⟩, key, ⟨-, rfl⟩, _, -, hfound⟩ := h
  cases hfound
  have hnormal : Python.casefold (strip (serviceCell header record)) = made.nameNormalized := hkey
  rw [hnormal, servicesNamed_eq, hbyKey]
  rfl

/-! ## A file -/

/-- The record gives the service of its host by a name of `made`, and no id. -/
structure GivesService (header record : List String) (made : BusinessService) : Prop where
  hostname_ne : (hostRow header record).hostname ≠ ""
  explicitId : (hostRow header record).explicitId = none
  named : strip (serviceCell header record) ≠ ""
  key : normalizeBusinessServiceName (serviceCell header record)
    = normalizeBusinessServiceName made.name

/-- The only asset that the hostname of a record names. -/
def NamesAsset (inv : Inventory) (organizationId : String) (header record : List String)
    (assetId : String) : Prop :=
  ∃ a, hostAliases inv.aliases organizationId (hostRow header record).hostname = [a] ∧
    a.assetId = assetId

variable {c : ImportCall} {file : CsvFile} {inv : Inventory}

omit [Driver] in
theorem service_id_ne {call : ServiceCall} {made : BusinessService} (h : call.Offers made) :
    made.id ≠ "" := by
  rw [h.id]
  intro hid
  have hchars := congrArg String.toList hid
  simp [ServiceCall.serviceId, CallEnv.rowId] at hchars

/-- What a record that gives a service finds in the end. -/
theorem seen_gives {header record : List String} {op : Option (String × AssetPatch)}
    (h : Seen c (hostRow header record) inv op) (hservices : inv.services = t.named)
    (hmade : made ∈ t.rows) (hsync : made.sync = made)
    (horg : made.organizationId = c.organizationId) (hgives : GivesService header record made)
    (hone : (hostAliases inv.aliases c.organizationId (hostRow header record).hostname).length ≤ 1) :
    ∃ assetId, NamesAsset inv c.organizationId header record assetId ∧
      op = some (assetId, (hostRow header record).settings (some made.id)) := by
  cases h with
  | unnamed h => exact absurd h hgives.hostname_ne
  | unserved _ h =>
      rw [hservices] at h
      exact absurd (ambiguous_of_resolve h) (not_ambiguousService t _ _)
  | ambiguous h hlong =>
      rw [h.aliases_eq] at hone
      exact absurd hone (by omega)
  | @matched serviceId a h =>
      have hkey : normalizeBusinessServiceName (serviceCell header record)
          = made.nameNormalized :=
        hgives.key.trans (congrArg BusinessService.nameNormalized hsync)
      have hservice := h.service
      rw [hservices, ← horg] at hservice
      rw [service_of_resolve hmade hgives.named hkey hgives.explicitId hservice]
      exact ⟨a.assetId, ⟨a, h.aliases_eq, rfl⟩, rfl⟩

/-- **A service created through the API is the service of the hosts that a file gives it.** Whatever
    requests raced to create it and however the file spells its name, the asset that such a row finds
    or creates belongs to it after the import, unless a later row of the file is for the same
    asset. -/
theorem imported_assets_join_services {calls : List ServiceCall} {db : BusinessServices}
    {s : Parallel BusinessServices ServiceCall BodyFault BusinessService}
    (hcalls : ServiceCall.Drawn calls db) (hsync : db.Synced) (hs : ServicesReached calls db s)
    {p : Party BusinessServices ServiceCall BodyFault BusinessService} (hp : p ∈ s.parties)
    (hmade : p.reply? = some (.created made)) (horg : p.call.organizationId = c.organizationId)
    (hservices : inv.services = s.db.named) (hname : "hostname" ∈ file.header)
    {answer : ImportAnswer} (hok : (c.importAssets file inv).1 = .ok answer)
    {before after : List (List String × ℕ)} {entry : List String × ℕ}
    (hrows : file.rows = before ++ entry :: after) (hgives : GivesService file.header entry.1 made)
    (hone : (hostAliases inv.aliases c.organizationId
      (hostRow file.header entry.1).hostname).length ≤ 1) :
    ∃ assetId, NamesAsset (c.importAssets file inv).2 c.organizationId file.header entry.1 assetId ∧
      assetId ∈ (c.importAssets file inv).2.assets.rows.map InventoryAsset.id ∧
      ((∀ e ∈ after,
          ¬ NamesAsset (c.importAssets file inv).2 c.organizationId file.header e.1 assetId) →
        ∀ asset ∈ (c.importAssets file inv).2.assets.rows, asset.id = assetId →
          asset.businessServiceId = some made.id) := by
  obtain ⟨hoffers, hstored⟩ := created_of_reply hcalls hsync hs hp hmade
  have hsynced := (rows_of_reached hcalls hsync hs).2.1
  have hmadeOrg : made.organizationId = c.organizationId := by
    obtain ⟨payload, -, rfl⟩ := hoffers
    exact horg
  obtain ⟨u, v, now, hloop, -, hcommit, hfinal, -⟩ := importAssets_completed hname hok
  rw [hfinal]
  have hcommitted := committed_of_commit hcommit
  have hextLoop : Extends inv u.stored := by
    have hext := importRows_extends (c := c) (s := inv.opened) file.header file.rows
    rwa [hloop] at hext
  have hextCommit : Extends u.stored v.stored := hcommitted.extends fun x hx => by cases hx
  obtain ⟨ops, hseen, hmarked⟩ := progress_of_importRows hloop
  have hmarks : Marked (ops.filterMap id) v.stored.assets := by
    rw [hcommitted.stored]
    exact hmarked.commit hcommitted
  have hfinalSeen := hseen.imp fun _ _ hrow => Seen.extend hrow hextCommit
  rw [hrows] at hfinalSeen
  obtain ⟨earlier, op, later, rfl, hentry, hafter⟩ := exists_split_of_forall₂ hfinalSeen
  have hext := hextLoop.trans hextCommit
  obtain ⟨assetId, hnames, rfl⟩ := seen_gives hentry (hext.services.trans hservices) hstored
    (hsynced made hstored) hmadeOrg hgives (hext.hosts.length_le_one hone)
  rw [List.filterMap_append,
    show (some _ :: later).filterMap id = _ :: later.filterMap id from rfl] at hmarks
  refine ⟨assetId, hnames, hmarks.keys _ (List.mem_append_right _ List.mem_cons_self),
    fun hlast asset hasset hid => ?_⟩
  -- the patch of the row is the last one for its asset
  have hlater : ∀ o ∈ later.filterMap id, o.1 ≠ assetId := by
    intro o ho hoid
    obtain ⟨op, hop, rfl⟩ := List.mem_filterMap.1 ho
    obtain ⟨e, he, hrow⟩ := exists_of_forall₂ hafter.flip hop
    cases hrow with
    | matched h => exact hlast e he ⟨_, h.aliases_eq, hoid⟩
  have hmark := Overlay.Settled.last hmarks.settled hlater hasset hid
  have hservice := congrArg InventoryAsset.businessServiceId hmark
  rw [← hservice]
  show (nonEmpty (some made.id)).or asset.businessServiceId = some made.id
  rw [nonEmpty_eq_some.2 ⟨rfl, service_id_ne hoffers⟩]
  rfl

end Rows

/-! ## One host -/

/-- A host of the service that was asked for as `" Pay"`. -/
def sampleServiceFile : CsvFile := ⟨[["hostname", "service"], ["web01", " PAY "]], none⟩

def sampleServiceInventory : Inventory := ⟨.empty, .empty, ⟨[samplePayService.named], by decide⟩⟩

theorem imported_host_joins_service : ∃ assetId,
    @NamesAsset asciiPython (@ImportCall.importAssets sqliteDriver asciiPython sampleImport
      sampleServiceFile sampleServiceInventory).2 "org-demo" ["hostname", "service"]
      ["web01", " PAY "] assetId ∧
    ∀ asset ∈ (@ImportCall.importAssets sqliteDriver asciiPython sampleImport sampleServiceFile
      sampleServiceInventory).2.assets.rows, asset.id = assetId →
        asset.businessServiceId = some "svc_a1" := by
  let _ := asciiPython
  let _ := sqliteDriver
  obtain ⟨s, hreached, hsummary⟩ := sample_services_reached
  obtain ⟨hrows, hreplies⟩ := Prod.mk.inj hsummary
  obtain ⟨p, hp, hmade⟩ : ∃ p ∈ s.parties, p.reply? = some (.created samplePayService) :=
    List.mem_map.1 (hreplies ▸ List.mem_cons_self)
  have hcall : p.call.organizationId = "org-demo" := by
    have hmem : p.call ∈ sampleServiceCalls := by
      rw [← Parallel.start_calls createBusinessService sampleServiceCalls .empty,
        ← Parallel.Reaches.calls hreached]
      exact List.mem_map_of_mem hp
    simp only [sampleServiceCalls, List.mem_cons, List.not_mem_nil, or_false] at hmem
    rcases hmem with hmem | hmem <;> rw [hmem] <;> rfl
  have hservices : sampleServiceInventory.services = s.db.named :=
    Table.ext (congrArg (List.map BusinessService.named) hrows).symm
  have hok : (sampleImport.importAssets sampleServiceFile sampleServiceInventory).1
      = .ok ⟨1, 0, 0, [], 1⟩ := by decide +kernel
  have hrows : sampleServiceFile.rows = [] ++ (["web01", " PAY "], 2) :: [] := rfl
  have hgives : GivesService sampleServiceFile.header ["web01", " PAY "] samplePayService :=
    ⟨by decide +kernel, by decide +kernel, by decide +kernel, by decide +kernel⟩
  obtain ⟨assetId, hnames, -, hservice⟩ := imported_assets_join_services sample_services_drawn
    (fun row hrow => by cases hrow) hreached hp hmade hcall hservices (by decide +kernel) hok hrows
    hgives (by decide +kernel)
  exact ⟨assetId, hnames, hservice fun e he => by cases he⟩

end VulnOpsHub
