import VulnOpsHub.Assets.Import

set_option autoImplicit false

/-! # What a row does

The lookups of a row read off the tables, what a commit does, and with them every way the body of the
loop can end. -/

namespace VulnOpsHub

/-! ## Lookups -/

/-- A text that statements may compare a column with. -/
def Comparable [Driver] (s : String) : Prop := Driver.compared (.str s) = some s

theorem accepted_compared [Driver] {s t : String} :
    accepted (Driver.compared (.str s)) = .ok t ↔ Comparable s ∧ t = s := by
  rw [accepted_eq_ok]
  constructor
  · intro h
    have ht := Driver.eq_of_compared h
    exact ⟨ht ▸ h, ht⟩
  · rintro ⟨h, rfl⟩
    exact h

/-- The aliases of an organization for a hostname. -/
def hostAliases (aliases : Table AssetAlias) (organizationId hostname : String) : List AssetAlias :=
  aliases.rows.filter fun a =>
    a.aliasNamespace = "hostname" && a.value = hostname && a.organizationId = organizationId

theorem mem_hostAliases {aliases : Table AssetAlias} {organizationId hostname : String}
    {a : AssetAlias} : a ∈ hostAliases aliases organizationId hostname ↔ a ∈ aliases.rows ∧
      a.aliasNamespace = "hostname" ∧ a.value = hostname ∧ a.organizationId = organizationId := by
  simp [hostAliases, and_assoc]

theorem reconcileHost_eq_ok [Driver] [Python] {aliases : Table AssetAlias}
    {organizationId hostname : String} (horg : organizationId ≠ "") {result : MappingResult} :
    reconcileHost aliases organizationId hostname = .ok result ↔
      Comparable organizationId ∧ Comparable "hostname" ∧ Comparable hostname ∧
        result = reconciled (.str "hostname") (.str hostname)
          (hostAliases aliases organizationId hostname) := by
  have hown : nonEmpty (some organizationId) = some organizationId :=
    nonEmpty_eq_some.2 ⟨rfl, horg⟩
  have hfilter : (aliases.rows.filter fun a => a.aliasNamespace = "hostname" && a.value = hostname &&
      (nonEmpty (some organizationId)).all (a.organizationId = ·))
        = hostAliases aliases organizationId hostname := by
    rw [hown]
    rfl
  simp only [reconcileHost, reconcileAlias, except_bind_eq_ok, accepted_compared]
  constructor
  · rintro ⟨_, ⟨ho, -⟩, _, ⟨hn, rfl⟩, _, ⟨hv, rfl⟩, hresult⟩
    rw [hfilter] at hresult
    exact ⟨ho, hn, hv, (Except.ok.inj hresult).symm⟩
  · rintro ⟨ho, hn, hv, rfl⟩
    refine ⟨_, ⟨ho, rfl⟩, _, ⟨hn, rfl⟩, _, ⟨hv, rfl⟩, ?_⟩
    rw [hfilter]
    rfl

/-- No service of the organization has the id that the row gives. -/
def HostRow.NoServiceId (row : HostRow) (services : Table NamedService) (organizationId : String) :
    Prop :=
  ∀ id, nonEmpty row.explicitId = some id →
    ∀ s ∈ services.rows, s.id = id → s.organizationId ≠ organizationId

/-- A row that has to go by the name of its service, and several services have that name. -/
def HostRow.AmbiguousService [Python] (row : HostRow) (services : Table NamedService)
    (organizationId : String) : Prop :=
  row.NoServiceId services organizationId ∧ ∃ name, nonEmpty row.serviceName = some name ∧
    1 < (servicesNamed services organizationId (Python.casefold name)).length

section Services

variable [Driver] {row : HostRow} {services : Table NamedService} {organizationId : String}

/-- The lookup by id finds nothing exactly if no service of the organization has the id. -/
theorem serviceWithId_eq_ok {resolved : Option String}
    (h : serviceWithId services organizationId row.explicitId = .ok resolved) :
    nonEmpty resolved = none ↔ row.NoServiceId services organizationId := by
  unfold serviceWithId at h
  cases hid : nonEmpty row.explicitId with
  | none =>
      rw [hid] at h
      cases h
      exact iff_of_true rfl fun id h => by rw [hid] at h; cases h
  | some id =>
      simp only [hid, Option.elim_some, except_bind_eq_ok, accepted_compared] at h
      obtain ⟨_, ⟨-, horg⟩, _, ⟨-, hkey⟩, h⟩ := h
      rw [horg, hkey] at h
      cases h
      have hne : id ≠ "" := (nonEmpty_eq_some.1 hid).2
      constructor
      · intro hnone id' hid' s hs hsid hown
        rw [hid] at hid'
        cases hid'
        have hfind : services.find? id = some s := Table.find?_eq_some.2 ⟨hs, hsid⟩
        rw [hfind, Option.filter_some_pos (by simpa using hown), Option.map_some, hsid,
          nonEmpty_eq_some.2 ⟨rfl, hne⟩] at hnone
        cases hnone
      · intro hno
        rw [Option.eq_none_iff_forall_ne_some]
        intro key hkey
        obtain ⟨hmap, -⟩ := nonEmpty_eq_some.1 hkey
        obtain ⟨s, hs, -⟩ := Option.map_eq_some_iff.1 hmap
        obtain ⟨hfind, hown⟩ := Option.filter_eq_some_iff.1 hs
        exact hno id hid s (Table.mem_of_find? hfind) (Table.key_of_find? hfind)
          (by simpa using hown)

theorem serviceWithId_ne_valueError {message : String} :
    serviceWithId services organizationId row.explicitId ≠ .error (.valueError message) := by
  intro h
  unfold serviceWithId at h
  cases hid : nonEmpty row.explicitId with
  | none =>
      rw [hid] at h
      cases h
  | some id =>
      simp only [hid, Option.elim_some, except_bind_eq_error] at h
      rcases h with h | ⟨_, -, h | ⟨_, -, h⟩⟩
      · cases hc : Driver.compared (.str organizationId) <;> rw [hc] at h <;> cases h
      · cases hc : Driver.compared (.str id) <;> rw [hc] at h <;> cases h
      · cases h

variable [Python]

theorem serviceWithName_eq_ok {found : Option String}
    (h : serviceWithName services organizationId row.serviceName = .ok found) :
    ∀ name, nonEmpty row.serviceName = some name →
      (servicesNamed services organizationId (Python.casefold name)).length ≤ 1 := by
  intro name hname
  simp only [serviceWithName, hname, Option.elim_some, except_bind_eq_ok, accepted_compared,
    raiseIf_eq_ok] at h
  obtain ⟨_, ⟨-, rfl⟩, _, ⟨-, rfl⟩, _, hle, -⟩ := h
  exact not_lt.1 hle

theorem serviceWithName_eq_valueError {message : String}
    (h : serviceWithName services organizationId row.serviceName = .error (.valueError message)) :
    ∃ name, nonEmpty row.serviceName = some name ∧
      1 < (servicesNamed services organizationId (Python.casefold name)).length := by
  unfold serviceWithName at h
  cases hname : nonEmpty row.serviceName with
  | none =>
      rw [hname] at h
      cases h
  | some name =>
      simp only [hname, Option.elim_some, except_bind_eq_error, accepted_compared,
        raiseIf_eq_error] at h
      refine ⟨name, rfl, ?_⟩
      rcases h with h | ⟨_, ⟨-, rfl⟩, h | ⟨_, ⟨-, rfl⟩, ⟨hlt, -⟩ | ⟨_, -, h⟩⟩⟩
      · cases hc : Driver.compared (.str organizationId) <;> rw [hc] at h <;> cases h
      · cases hc : Driver.compared (.str (Python.casefold name)) <;> rw [hc] at h <;> cases h
      · exact hlt
      · cases h

/-- The service of a row is looked up with an answer only where it is not ambiguous. -/
theorem not_ambiguous_of_resolve {serviceId : Option String}
    (h : resolveBusinessServiceId services organizationId row.explicitId row.serviceName
      = .ok serviceId) : ¬ row.AmbiguousService services organizationId := by
  rintro ⟨hno, name, hname, hlt⟩
  obtain ⟨resolved, hid, h⟩ := except_bind_eq_ok.1 h
  have hnone := (serviceWithId_eq_ok hid).2 hno
  rw [hnone, if_neg (by simp)] at h
  exact absurd (serviceWithName_eq_ok h name hname) (not_le.2 hlt)

/-- The row is skipped for its service only where that is ambiguous. -/
theorem ambiguous_of_resolve {message : String}
    (h : resolveBusinessServiceId services organizationId row.explicitId row.serviceName
      = .error (.valueError message)) : row.AmbiguousService services organizationId := by
  rcases except_bind_eq_error.1 h with h | ⟨resolved, hid, h⟩
  · exact absurd h serviceWithId_ne_valueError
  · by_cases hresolved : (nonEmpty resolved).isSome = true
    · rw [if_pos hresolved] at h
      cases h
    · rw [if_neg hresolved] at h
      rw [Bool.not_eq_true, Option.isSome_eq_false_iff, Option.isNone_iff_eq_none] at hresolved
      exact ⟨(serviceWithId_eq_ok hid).1 hresolved, serviceWithName_eq_valueError h⟩

end Services

/-! ## Commits -/

section Session

variable [Driver]

/-- What a commit has done. -/
structure Committed (now : Instant) (expired : Option String) (added : Option AssetAlias)
    (s t : ImportState) : Prop where
  assets : t.assets.rows = s.assets.rows.map (flushedAsset s.stored.assets expired now)
  stored : t.stored.assets = t.assets
  aliases : t.stored.aliases.rows = s.stored.aliases.rows ++ added.toList
  services : t.stored.services = s.stored.services
  answer : t.answer = s.answer

theorem committed_of_commit {now : Instant} {expired : Option String} {added : Option AssetAlias}
    {s t : ImportState} (h : s.commit now expired added = some t) :
    Committed now expired added s t := by
  unfold ImportState.commit at h
  split at h
  · obtain ⟨aliases, haliases, rfl⟩ := Option.map_eq_some_iff.1 h
    refine ⟨rfl, rfl, ?_, rfl, rfl⟩
    cases added with
    | none =>
        cases haliases
        exact (List.append_nil _).symm
    | some a =>
        rw [Option.elim_some] at haliases
        split at haliases
        · exact Table.rows_insert haliases
        · cases haliases
  · cases h

/-- A commit without a change. -/
theorem commit_unchanged {now : Instant} {s : ImportState} (h : s.assets = s.stored.assets) :
    s.commit now none none = some s := by
  have hwritable : (s.assets.rows.all fun a => a.writable (s.stored.assets.find? a.id)) = true := by
    rw [List.all_eq_true]
    intro a ha
    rw [← h, show s.assets.find? a.id = some a from Table.find?_key_of_mem ha]
    exact List.all_eq_true.2 fun column hcolumn => by simp [hcolumn]
  have hassets : s.assets.project (flushedAsset s.stored.assets none now)
      (flushedAsset_id s.stored.assets none now) = s.stored.assets := by
    rw [← h]
    refine Table.ext ?_
    conv_rhs => rw [← List.map_id s.assets.rows]
    refine List.map_congr_left fun a ha => if_pos ⟨?_, by simp⟩
    exact Table.find?_key_of_mem ha
  unfold ImportState.commit
  rw [if_pos hwritable, Option.elim_none, Option.map_some, hassets]
  cases s
  simp_all

/-! ## Ends of a row -/

variable (c : ImportCall)

/-- How the look at the address of a row ends. -/
inductive Observed (assetId ip : String) (s : ImportState) :
    Except PyError Unit → ImportState → Prop where
  | quiet (h : ip = "" ∨ Comparable c.organizationId ∧ Comparable ip ∧
      ∃ a ∈ s.stored.aliases.rows, a.assetId = assetId ∧ a.aliasNamespace = "ip" ∧ a.value = ip ∧
        a.organizationId = c.organizationId) : Observed assetId ip s (.ok ()) s
  | added {now : Instant} {i : ℕ} {t : ImportState} (hip : ip ≠ "")
      (horg : Comparable c.organizationId) (hcomparable : Comparable ip)
      (h : Committed now none (some (c.newAlias assetId "ip" ip i)) s t) :
      Observed assetId ip s (.ok ()) t
  | failed {e : PyError} : Observed assetId ip s (.error e) s

/-- What `create_asset` does. -/
def Created (row : HostRow) (serviceId : Option String) (s t : ImportState) : Prop :=
  ∃ assets now, s.assets.insert (c.newAsset row serviceId s.drawn) = some assets ∧
    Committed now none none { s with assets } t

/-- What the lookups of a row that is not skipped have found. -/
structure Found [Python] (row : HostRow) (inv : Inventory) (serviceId : Option String)
    (aliases : List AssetAlias) : Prop where
  hostname_ne : row.hostname ≠ ""
  service : resolveBusinessServiceId inv.services c.organizationId row.explicitId row.serviceName
    = .ok serviceId
  comparable : Comparable c.organizationId ∧ Comparable "hostname" ∧ Comparable row.hostname
  aliases_eq : hostAliases inv.aliases c.organizationId row.hostname = aliases

/-- How the body of the loop ends. -/
inductive RowEnd [Python] (row : HostRow) (s : ImportState) :
    Except PyError Unit → ImportState → Prop where
  | unnamed {detail : SkippedRow} (h : row.hostname = "") : RowEnd row s (.ok ()) (s.skip detail)
  | unserved {detail : SkippedRow} {message : String} (hname : row.hostname ≠ "")
      (h : resolveBusinessServiceId s.stored.services c.organizationId row.explicitId
        row.serviceName = .error (.valueError message)) :
      RowEnd row s (.ok ()) (s.count.skip detail)
  | ambiguous {detail : SkippedRow} {serviceId : Option String} {aliases : List AssetAlias}
      (h : Found c row s.stored serviceId aliases) (hlong : 1 < aliases.length) :
      RowEnd row s (.ok ()) (s.count.skip detail)
  | updated {serviceId : Option String} {a : AssetAlias} {asset : InventoryAsset}
      {r : Except PyError Unit} {t : ImportState} (h : Found c row s.stored serviceId [a])
      (hasset : s.assets.find? a.assetId = some asset)
      (hip : Observed c asset.id row.ip
        (s.count.assign asset.id (row.patch serviceId)).countUpdated r t) : RowEnd row s r t
  | created {serviceId : Option String} {u v : ImportState} {now : Instant} {i : ℕ}
      {r : Except PyError Unit} {t : ImportState} (h : Found c row s.stored serviceId [])
      (hcreated : Created c row serviceId s.count u)
      (halias : Committed now (some (c.newAsset row serviceId s.drawn).id)
        (some (c.newAlias (c.newAsset row serviceId s.drawn).id "hostname" row.hostname i))
        (u.assign (c.newAsset row serviceId s.drawn).id (exposurePatch row.internetExposure)) v)
      (hip : Observed c (c.newAsset row serviceId s.drawn).id row.ip v.countCreated r t) :
      RowEnd row s r t
  | unaliased {serviceId : Option String} {u : ImportState} {e : PyError}
      (h : Found c row s.stored serviceId []) (hcreated : Created c row serviceId s.count u) :
      RowEnd row s (.error e)
        (u.assign (c.newAsset row serviceId s.drawn).id (exposurePatch row.internetExposure))
  | refused {e : PyError} : RowEnd row s (.error e) s.count

variable {c} {assetId ip : String} {s : ImportState}

theorem observeIp_ends : (c.observeIp assetId ip).Wp (Observed c assetId ip s) s := by
  unfold ImportCall.observeIp
  by_cases hip : ip = ""
  · rw [if_pos hip]
    exact .quiet (.inl hip)
  · rw [if_neg hip]
    refine Raising.wp_bind.2 (Raising.wp_get.2 (Raising.wp_bind.2 (Raising.wp_ofExcept.2 ?_)))
    cases hseen : ipAlias s.stored.aliases c.organizationId assetId ip with
    | error e => exact .failed
    | ok seen =>
        simp only [ipAlias, except_bind_eq_ok, accepted_compared] at hseen
        obtain ⟨_, ⟨horg, ho⟩, _, ⟨hcomparable, hv⟩, hseen⟩ := hseen
        rw [ho, hv] at hseen
        show (if _ then _ else _ : Raising ImportState PyError Unit).Wp _ s
        split_ifs with hfound
        · refine .quiet (.inr ⟨horg, hcomparable, ?_⟩)
          obtain ⟨id, hid⟩ := Option.isSome_iff_exists.1 hfound
          rw [← Except.ok.inj hseen] at hid
          obtain ⟨a, ha, -⟩ := Option.map_eq_some_iff.1 (nonEmpty_eq_some.1 hid).1
          have hmatch := List.find?_some ha
          simp only [Bool.and_eq_true, decide_eq_true_eq, and_assoc] at hmatch
          exact ⟨a, List.mem_of_find?_eq_some ha, hmatch⟩
        · refine Raising.wp_change (fun t ht => ?_) .failed
          obtain ⟨h1, h2, h3, h4, h5⟩ := committed_of_commit ht
          exact .added hip horg hcomparable ⟨h1, h2, h3, h4, h5⟩

variable [Python] {row : HostRow} {number : ℕ} {serviceId : Option String}

theorem updateHost_ends {a : AssetAlias} (h : Found c row s.stored serviceId [a]) :
    (c.updateHost row serviceId (some a.assetId)).Wp (RowEnd c row s) s.count := by
  unfold ImportCall.updateHost
  refine Raising.wp_bind.2 (Raising.wp_get.2 ?_)
  show (Option.elim (s.assets.find? a.assetId) _ _ : Raising ImportState PyError Unit).Wp _ _
  cases hasset : s.assets.find? a.assetId with
  | none => exact .refused
  | some asset =>
      refine Raising.wp_bind.2 (Raising.wp_modify.2 (Raising.wp_bind.2 (Raising.wp_modify.2 ?_)))
      exact Raising.wp_mono observeIp_ends fun r t hip => .updated h hasset hip

omit [Python] in
theorem createAsset_ends {Q : Except PyError String → ImportState → Prop}
    (hok : ∀ u, Created c row serviceId s u → Q (.ok (c.newAsset row serviceId s.drawn).id) u)
    (herror : ∀ e, Q (.error e) s) : (c.createAsset row serviceId).Wp Q s := by
  unfold ImportCall.createAsset
  refine Raising.wp_bind.2 (Raising.wp_get.2 ?_)
  show Raising.Wp (_ >>= _) _ _
  refine Raising.wp_bind.2 (Raising.wp_change (fun u hu => ?_) (herror _))
  obtain ⟨assets, hinsert, hcommit⟩ := Option.bind_eq_some_iff.1 hu
  obtain ⟨h1, h2, h3, h4, h5⟩ := committed_of_commit hcommit
  exact hok u ⟨assets, _, hinsert, h1, h2, h3, h4, h5⟩

theorem createHost_ends (h : Found c row s.stored serviceId []) :
    (c.createHost row serviceId).Wp (RowEnd c row s) s.count := by
  unfold ImportCall.createHost
  refine Raising.wp_bind.2 (createAsset_ends (fun u hcreated => ?_) fun e => .refused)
  refine Raising.wp_bind.2 (Raising.wp_modify.2 ?_)
  show Raising.Wp (_ >>= _) _ _
  refine Raising.wp_bind.2 (Raising.wp_change (fun v hv => ?_) (.unaliased h hcreated))
  obtain ⟨h1, h2, h3, h4, h5⟩ := committed_of_commit hv
  refine Raising.wp_bind.2 (Raising.wp_modify.2 ?_)
  exact Raising.wp_mono observeIp_ends fun r t hip => .created h hcreated ⟨h1, h2, h3, h4, h5⟩ hip

theorem importHost_ends (hname : row.hostname ≠ "")
    (hservice : resolveBusinessServiceId s.stored.services c.organizationId row.explicitId
      row.serviceName = .ok serviceId) :
    (c.importHost row number serviceId).Wp (RowEnd c row s) s.count := by
  unfold ImportCall.importHost
  refine Raising.wp_bind.2 (Raising.wp_get.2 (Raising.wp_bind.2 (Raising.wp_ofExcept.2 ?_)))
  cases hresult : reconcileHost s.stored.aliases c.organizationId row.hostname with
  | error e =>
      rw [show reconcileHost s.count.stored.aliases c.organizationId row.hostname = _ from hresult]
      exact .refused
  | ok result =>
      rw [show reconcileHost s.count.stored.aliases c.organizationId row.hostname = _ from hresult]
      obtain ⟨ho, hn, hv, hr⟩ := (reconcileHost_eq_ok c.organizationId_ne).1 hresult
      have hfound : ∀ aliases, hostAliases s.stored.aliases c.organizationId row.hostname = aliases →
          Found c row s.stored serviceId aliases := fun aliases h => ⟨hname, hservice, ⟨ho, hn, hv⟩, h⟩
      rcases haliases : hostAliases s.stored.aliases c.organizationId row.hostname
        with _ | ⟨a, _ | ⟨b, rest⟩⟩
      · rw [haliases] at hr
        subst hr
        exact createHost_ends (hfound _ haliases)
      · rw [haliases] at hr
        subst hr
        exact updateHost_ends (hfound _ haliases)
      · rw [haliases] at hr
        subst hr
        exact .ambiguous (hfound _ haliases) (by simp)

/-- **Every way a row can end.** -/
theorem importRow_ends (header record : List String) :
    (c.importRow header record number).Wp (RowEnd c (hostRow header record) s) s := by
  unfold ImportCall.importRow
  by_cases hname : (hostRow header record).hostname = ""
  · simp only [hname, if_true]
    exact .unnamed hname
  · simp only [hname, if_false]
    refine Raising.wp_bind.2 (Raising.wp_modify.2 (Raising.wp_bind.2 (Raising.wp_get.2 ?_)))
    unfold Raising.andThen
    cases hservice : resolveBusinessServiceId s.stored.services c.organizationId
        (hostRow header record).explicitId (hostRow header record).serviceName with
    | ok serviceId =>
        simp only [ImportState.count, hservice]
        exact importHost_ends hname hservice
    | error e =>
        simp only [ImportState.count, hservice]
        cases e with
        | valueError message => exact .unserved hname hservice
        | _ => exact .refused

/-! ## Runs -/

/-- What the rows of a file keep, whether or not one of them raises. -/
theorem importRows_keeps {I : ImportState → Prop} {header : List String}
    {rows : List (List String × ℕ)}
    (hrow : ∀ entry ∈ rows, ∀ s r t, I s → RowEnd c (hostRow header entry.1) s r t → I t)
    (hs : I s) : (c.importRows header rows).Wp (fun _ t => I t) s := by
  induction rows generalizing s with
  | nil => exact hs
  | cons entry rest ih =>
      obtain ⟨record, number⟩ := entry
      refine Raising.wp_bind.2 (Raising.wp_mono (importRow_ends header record) fun r t hend => ?_)
      have ht : I t := hrow _ List.mem_cons_self s r t hs hend
      cases r with
      | error e => exact ht
      | ok u => exact ih (fun entry hentry => hrow entry (List.mem_cons_of_mem _ hentry)) ht

/-- What the rows of a file have done when none of them raised. -/
theorem importRows_returns {I : List (List String × ℕ) → ImportState → Prop} {header : List String}
    {rows done : List (List String × ℕ)} {t : ImportState}
    (hrow : ∀ done entry s t, I done s → RowEnd c (hostRow header entry.1) s (.ok ()) t →
      I (done ++ [entry]) t)
    (h : c.importRows header rows s = (.ok (), t)) (hs : I done s) : I (done ++ rows) t := by
  induction rows generalizing done s with
  | nil =>
      cases h
      rwa [List.append_nil]
  | cons entry rest ih =>
      obtain ⟨record, number⟩ := entry
      obtain ⟨_, u, hhead, hrest⟩ := Raising.bind_eq_ok h
      have hend : RowEnd c (hostRow header record) s (c.importRow header record number s).1
          (c.importRow header record number s).2 := importRow_ends header record
      rw [hhead] at hend
      rw [List.append_cons]
      exact ih hrest (hrow done (record, number) s u hs hend)

end Session

/-- The columns of a file. -/
def CsvFile.header [Python] (file : CsvFile) : List String := fieldnames (file.records.headD [])

/-- The rows of a file. -/
def CsvFile.rows (file : CsvFile) : List (List String × ℕ) := dataRows file.records.tail

section Imports

variable [Driver] [Python] {c : ImportCall} {file : CsvFile} {inv : Inventory}

/-- What is kept from the opened session on holds of what an import leaves stored. -/
theorem importAssets_keeps {I : ImportState → Prop}
    (hrow : ∀ entry ∈ file.rows, ∀ s r t, I s → RowEnd c (hostRow file.header entry.1) s r t → I t)
    (hcommit : ∀ now s t, I s → Committed now none none s t → I t) (hopened : I inv.opened) :
    ∃ t, I t ∧ (c.importAssets file inv).2 = t.stored := by
  unfold ImportCall.importAssets
  cases hrecords : file.records with
  | nil => exact ⟨_, hopened, rfl⟩
  | cons header records =>
      have hheader : file.header = fieldnames header := by rw [CsvFile.header, hrecords]; rfl
      have hrows : file.rows = dataRows records := by rw [CsvFile.rows, hrecords]; rfl
      rw [hheader, hrows] at hrow
      simp only
      split_ifs with hempty hname
      · exact ⟨_, hopened, rfl⟩
      · refine ⟨_, ?_, rfl⟩
        show (c.importFile (fieldnames header) file records).Wp (fun _ t => I t) inv.opened
        refine Raising.wp_bind.2 (Raising.wp_mono (importRows_keeps hrow hopened) fun r s hs => ?_)
        cases r with
        | error e => exact hs
        | ok u =>
            cases hfault : file.fault with
            | some e => exact hs
            | none =>
                simp only [Raising.andThen, Option.elim_none, Raising.wp_bind, Raising.wp_pure]
                refine Raising.wp_change (fun t ht => ?_) hs
                exact hcommit _ s t hs (committed_of_commit ht)
      · exact ⟨_, hopened, rfl⟩

/-- An import that completed went through all rows and then committed. -/
theorem importAssets_completed (hname : "hostname" ∈ file.header) {answer : ImportAnswer}
    (h : (c.importAssets file inv).1 = .ok answer) : ∃ s t now,
      c.importRows file.header file.rows inv.opened = (.ok (), s) ∧ file.fault = none ∧
      s.commit now none none = some t ∧ (c.importAssets file inv).2 = t.stored ∧
      answer = { s.answer with skippedDetails := s.answer.skippedDetails.take 20 } := by
  unfold ImportCall.importAssets at h ⊢
  cases hrecords : file.records with
  | nil =>
      rw [CsvFile.header, hrecords] at hname
      cases hname
  | cons header records =>
      rw [CsvFile.header, hrecords, List.headD_cons] at hname
      have hempty : header ≠ [] := by
        rintro rfl
        cases hname
      rw [hrecords] at h
      simp only [hempty, hname, not_true_eq_false, if_false] at h ⊢
      rcases hfile : c.importFile (fieldnames header) file records inv.opened with ⟨r, t⟩
      rw [hfile] at h
      cases h
      obtain ⟨_, s, hloop, hrest⟩ := Raising.bind_eq_ok hfile
      cases hfault : file.fault with
      | some e =>
          rw [hfault] at hrest
          cases hrest
      | none =>
          rw [hfault] at hrest
          obtain ⟨_, _, hnone, hrest⟩ := Raising.bind_eq_ok hrest
          cases hnone
          obtain ⟨_, t', hcommit, hanswer⟩ := Raising.bind_eq_ok hrest
          have ht := Raising.change_eq_ok hcommit
          have hstate : (_, t') = (Except.ok answer, t) := hanswer
          cases hstate
          refine ⟨s, t, _, ?_, rfl, ht, rfl, ?_⟩
          · rw [CsvFile.header, CsvFile.rows, hrecords]
            exact hloop
          · rw [(committed_of_commit ht).answer]

end Imports

end VulnOpsHub
