import VulnOpsHub.Cases.Admission
import VulnOpsHub.Cases.Service
import VulnOpsHub.Lib.Transactions
import Mathlib.Data.String.Basic

set_option autoImplicit false

/-! # The owner of a new case

`create_case` looks up the owners of a set of assets, all in one organization, and records one of
them. So neither the order of the exposures nor what belongs to others counts, and a conflict is a
matter of two assets. -/

namespace VulnOpsHub

/-! ## Sets of names -/

theorem mem_sortedSet {xs : List String} {x : String} : x ∈ sortedSet xs ↔ x ∈ xs ∧ x ≠ "" := by
  simp [sortedSet, List.mem_insertionSort]

/-- The sorted set of two lists with the same members is the same. -/
theorem sortedSet_congr {xs ys : List String} (h : ∀ x, x ∈ xs ↔ x ∈ ys) :
    sortedSet xs = sortedSet ys := by
  unfold sortedSet
  refine List.Perm.eq_of_sortedLE List.sortedLE_insertionSort List.sortedLE_insertionSort ?_
  refine (List.perm_insertionSort _ _).trans (List.Perm.trans ?_ (List.perm_insertionSort _ _).symm)
  refine (List.perm_ext_iff_of_nodup (List.nodup_dedup _) (List.nodup_dedup _)).2 fun x => ?_
  simp [h]

/-- A row among those that satisfy `p` depends on those alone. -/
theorem Table.filter_find?_congr {ρ : Type} [Keyed ρ String] {t t' : Table ρ} {p : ρ → Bool}
    (h : ∀ r, p r = true → (r ∈ t'.rows ↔ r ∈ t.rows)) (k : String) :
    (t'.find? k).filter p = (t.find? k).filter p := by
  refine Option.ext fun r => ?_
  simp only [Option.filter_eq_some_iff, Table.find?_eq_some]
  exact and_congr_left fun hr => and_congr_left fun _ => h r hr

/-! ## The owner of an asset -/

/-- The default owner, as `create_case` reads it off the settings. -/
def CallEnv.defaultTeam (env : CallEnv) : String :=
  stripOrUnassigned (orElse env.defaultCaseOwnerTeam "unassigned")

/-- The asset, or its business service, has an owner in the organization. -/
def Db.Owned (db : Db) (organizationId assetId : String) : Prop :=
  ∃ asset, db.asset? assetId organizationId = some asset ∧
    (strip (asset.owner.getD "") ≠ "" ∨
      ∃ serviceId service, nonEmpty asset.businessServiceId = some serviceId ∧
        db.service? serviceId organizationId = some service ∧ strip service.ownerTeam ≠ "")

/-- Two databases hold the same assets and business services of an organization. -/
structure SameOwners (organizationId : String) (s t : Db) : Prop where
  asset : ∀ id, s.asset? id organizationId = t.asset? id organizationId
  service : ∀ id, s.service? id organizationId = t.service? id organizationId

theorem resolveCaseOwner_steady (setting : Option String) (organizationId : String)
    (assetId given : Option String) :
    (resolveCaseOwner setting organizationId assetId given).Steady (SameOwners organizationId) := by
  unfold resolveCaseOwner
  cases nonEmpty assetId with
  | none => exact Program.steady_pure _
  | some id =>
      refine Program.Steady.select_bind (fun s t h => h.asset id) fun asset => ?_
      cases asset with
      | none => exact Program.steady_pure _
      | some asset =>
          dsimp only
          split
          · exact Program.steady_pure _
          cases nonEmpty asset.businessServiceId with
          | none => exact Program.steady_pure _
          | some serviceId =>
              refine Program.Steady.select_bind (fun s t h => h.service serviceId)
                fun service => ?_
              split <;> exact Program.steady_pure _

theorem resolveOwners_steady (setting : Option String) (organizationId : String)
    (given : Option String) (assetIds : List String) :
    (resolveOwners setting organizationId given assetIds).Steady (SameOwners organizationId) := by
  induction assetIds with
  | nil => exact Program.steady_pure _
  | cons assetId rest ih =>
      refine Program.Steady.bind (resolveCaseOwner_steady _ _ _ _) fun owner => ?_
      exact Program.Steady.bind ih fun owners => Program.steady_pure _

/-- What `create_case` learns about an asset. -/
def ownerOfAsset (a : CreateCaseArgs) (env : CallEnv) (db : Db) (assetId : String) :
    Outcome PyError ResolvedOwner :=
  ((resolveCaseOwner env.defaultCaseOwnerTeam a.organizationId (some assetId)
    (some env.defaultTeam)).run (Session.fresh db)).1

/-- An owner is the default one exactly where nobody in the organization owns the asset. -/
theorem resolveCaseOwner_default_iff {setting : Option String} {organizationId assetId : String}
    {given : Option String} {db : Db} {owner : ResolvedOwner} {s : Session Db}
    (h : (resolveCaseOwner setting organizationId (some assetId) given).run (Session.fresh db)
      = (.returned owner, s)) (hid : assetId ≠ "") :
    owner.source = .default ↔ ¬ db.Owned organizationId assetId := by
  unfold resolveCaseOwner at h
  rw [nonEmpty_eq_some.2 ⟨rfl, hid⟩] at h
  dsimp only at h
  rw [Program.run_select_bind] at h
  have hview : sessionView (Session.fresh db).executed (Session.fresh db).staged
      (Session.fresh db).db = db := rfl
  rw [hview] at h
  cases hasset : db.asset? assetId organizationId with
  | none =>
      rw [hasset] at h
      cases h
      simp [Db.Owned, hasset]
  | some asset =>
      rw [hasset] at h
      dsimp only at h
      by_cases howner : strip (asset.owner.getD "") ≠ ""
      · rw [if_pos howner] at h
        cases h
        exact iff_of_false (by simp) (not_not.2 ⟨asset, hasset, Or.inl howner⟩)
      · rw [if_neg howner] at h
        cases hservice : nonEmpty asset.businessServiceId with
        | none =>
            rw [hservice] at h
            cases h
            refine iff_of_true rfl ?_
            rintro ⟨found, hfound, hown | ⟨serviceId, service, hsome, -⟩⟩
            · obtain rfl := Option.some.inj (hfound.symm.trans hasset)
              exact howner hown
            · obtain rfl := Option.some.inj (hfound.symm.trans hasset)
              rw [hservice] at hsome
              cases hsome
        | some serviceId =>
            rw [hservice] at h
            dsimp only at h
            rw [Program.run_select_bind, hview] at h
            have howned : db.Owned organizationId assetId ↔ strip (((db.service? serviceId
                organizationId).map (·.ownerTeam)).getD "") ≠ "" := by
              constructor
              · rintro ⟨found, hfound, hown | ⟨id, service, hsome, hstored, hteam⟩⟩
                · obtain rfl := Option.some.inj (hfound.symm.trans hasset)
                  exact absurd hown howner
                · obtain rfl := Option.some.inj (hfound.symm.trans hasset)
                  obtain rfl := Option.some.inj (hsome.symm.trans hservice)
                  rw [hstored]
                  exact hteam
              · intro hteam
                cases hstored : db.service? serviceId organizationId with
                | none => rw [hstored] at hteam; exact absurd (by decide) hteam
                | some service =>
                    rw [hstored] at hteam
                    exact ⟨asset, hasset, Or.inr ⟨serviceId, service, hservice, hstored, hteam⟩⟩
            rw [howned]
            by_cases hteam : strip (((db.service? serviceId organizationId).map
                (·.ownerTeam)).getD "") ≠ ""
            · rw [if_pos hteam] at h
              cases h
              exact iff_of_false (by simp) (not_not.2 hteam)
            · rw [if_neg hteam] at h
              cases h
              exact iff_of_true rfl hteam

/-! ## Agreement -/

section Choice

variable [Python]

def conflictingOwners : PyError := .valueError "conflicting exposure owners"

/-- The caller leaves the owner to the inventory: it asks for none, or for the default one. -/
def RequestsDefault (defaultTeam : String) (requested : Option String) : Prop :=
  strip (requested.getD "") = "" ∨
    Python.casefold (strip (requested.getD "")) = Python.casefold defaultTeam

/-- Some two of the owners differ. -/
def Disagree (owners : List ResolvedOwner) : Prop :=
  ∃ o ∈ owners, ∃ p ∈ owners, o.key ≠ p.key

theorem minOwner_mem (owner : ResolvedOwner) (owners : List ResolvedOwner) :
    minOwner owner owners ∈ owner :: owners := by
  unfold minOwner
  induction owners generalizing owner with
  | nil => simp
  | cons o rest ih =>
      rw [List.foldl_cons]
      have hmem := ih (if o.before owner then o else owner)
      rcases List.mem_cons.1 hmem with heq | hrest
      · rw [heq]
        split_ifs <;> simp
      · simp [hrest]

/-- The owners agree when all of them agree with the first. -/
theorem any_ne_key_iff {owner : ResolvedOwner} {rest : List ResolvedOwner} :
    (rest.any fun o => o.key != owner.key) = true ↔ Disagree (owner :: rest) := by
  simp only [List.any_eq_true, bne_iff_ne, Disagree]
  constructor
  · rintro ⟨o, ho, hne⟩
    exact ⟨o, List.mem_cons_of_mem _ ho, owner, List.mem_cons_self, hne⟩
  · rintro ⟨o, ho, p, hp, hne⟩
    by_contra hall
    push Not at hall
    have hkey : ∀ x ∈ owner :: rest, x.key = owner.key := by
      intro x hx
      rcases List.mem_cons.1 hx with rfl | hx
      · rfl
      · exact hall x hx
    exact hne ((hkey o ho).trans (hkey p hp).symm)

theorem chooseOwner_eq_error {defaultTeam : String} {requested : Option String}
    {owners : List ResolvedOwner} {e : PyError} :
    chooseOwner defaultTeam requested owners = .error e ↔
      e = conflictingOwners ∧ Disagree owners := by
  unfold chooseOwner
  cases owners with
  | nil => exact iff_of_false (by intro h; cases h) (by simp [Disagree])
  | cons owner rest =>
      by_cases hdisagree : (rest.any fun o => o.key != owner.key) = true
      · dsimp only
        rw [if_pos hdisagree]
        constructor
        · intro h
          cases h
          exact ⟨rfl, any_ne_key_iff.1 hdisagree⟩
        · rintro ⟨rfl, -⟩
          rfl
      · dsimp only
        rw [if_neg hdisagree]
        refine iff_of_false (fun h => ?_) (fun h => hdisagree (any_ne_key_iff.2 h.2))
        split_ifs at h <;> cases h

/-- The chosen owner is the default one when nothing else is asked for, and none is found. -/
theorem chooseOwner_default_iff {defaultTeam : String} {requested : Option String}
    {owners : List ResolvedOwner} {owner : ResolvedOwner}
    (h : chooseOwner defaultTeam requested owners = .ok owner) :
    owner.source = .default ↔
      RequestsDefault defaultTeam requested ∧ ∀ o ∈ owners, o.source = .default := by
  have hrequest : (strip (requested.getD "") == "" || Python.casefold (strip (requested.getD ""))
      == Python.casefold defaultTeam) = true ↔ RequestsDefault defaultTeam requested := by
    simp [RequestsDefault]
  have hagree : ¬ Disagree owners := by
    intro hdisagree
    rw [(chooseOwner_eq_error (e := conflictingOwners)).2 ⟨rfl, hdisagree⟩] at h
    cases h
  unfold chooseOwner at h
  cases owners with
  | nil =>
      obtain rfl := Except.ok.inj h
      by_cases hdefault : RequestsDefault defaultTeam requested
      · rw [if_pos (hrequest.2 hdefault)]
        exact iff_of_true rfl ⟨hdefault, by simp⟩
      · rw [if_neg (mt hrequest.1 hdefault)]
        exact iff_of_false (by simp) fun hboth => hdefault hboth.1
  | cons first rest =>
      dsimp only at h
      rw [if_neg (mt any_ne_key_iff.1 hagree)] at h
      by_cases hdefault : RequestsDefault defaultTeam requested
      · rw [if_pos (hrequest.2 hdefault)] at h
        obtain rfl := Except.ok.inj h
        have hall : (minOwner first rest).source = .default ↔
            ∀ o ∈ first :: rest, o.source = .default := by
          refine ⟨fun hmin o ho => ?_, fun hall => hall _ (minOwner_mem first rest)⟩
          have hkey : o.key = (minOwner first rest).key := by
            by_contra hne
            exact hagree ⟨o, ho, _, minOwner_mem first rest, hne⟩
          have hsource := congrArg Prod.snd hkey
          simpa [ResolvedOwner.key, hmin] using hsource
        split_ifs with hmin
        · exact iff_of_true rfl ⟨hdefault, hall.1 hmin⟩
        · exact iff_of_false hmin fun hboth => hmin (hall.2 hboth.2)
      · rw [if_neg (mt hrequest.1 hdefault)] at h
        obtain rfl := Except.ok.inj h
        exact iff_of_false (by simp) fun hboth => hdefault hboth.1

/-! ## The lookups of a call -/

/-- The part of `create_case` that finds the owner, given the assets of the exposures. -/
def ownerAmong (a : CreateCaseArgs) (env : CallEnv) (exposureAssetIds : List String) :
    Prog ResolvedOwner := do
  let defaultTeam := stripOrUnassigned (orElse env.defaultCaseOwnerTeam "unassigned")
  let assetIds := sortedSet (strip (a.assetId.getD "") :: exposureAssetIds)
  let owners ← resolveOwners env.defaultCaseOwnerTeam a.organizationId (some defaultTeam) assetIds
  Program.ofExcept (chooseOwner defaultTeam a.ownerTeam owners)

/-- The assets of the exposures a case is about. -/
def exposureAssets (a : CreateCaseArgs) (db : Db) : List String :=
  db.exposures.rows.filterMap fun e =>
    if e.organizationId = a.organizationId ∧ e.id ∈ a.exposures.getD [] then e.assetId else none

/-- The part of `create_case` before the case is made. -/
def caseOwner (a : CreateCaseArgs) (env : CallEnv) : Prog ResolvedOwner := do
  let exposureAssetIds ← Program.select (exposureAssets a)
  ownerAmong a env exposureAssetIds

theorem createCase_eq (a : CreateCaseArgs) (env : CallEnv) :
    createCase a env = (caseOwner a env >>= fun owner => do
      Program.add (createdRows env (newCase a env owner))
      Program.commitAll
      refreshCase (newCase a env owner).id) := by
  unfold createCase caseOwner ownerAmong exposureAssets
  simp only [Program.bind_assoc]

/-- Finding an owner among given assets depends on the inventory of the organization alone. -/
theorem ownerAmong_steady (a : CreateCaseArgs) (env : CallEnv) (assetIds : List String) :
    (ownerAmong a env assetIds).Steady (SameOwners a.organizationId) := by
  unfold ownerAmong
  generalize stripOrUnassigned (orElse env.defaultCaseOwnerTeam "unassigned") = defaultTeam
  generalize sortedSet (strip (a.assetId.getD "") :: assetIds) = ids
  exact Program.Steady.bind (resolveOwners_steady _ _ _ _) fun owners => Program.steady_ofExcept _

/-- The assets that are linked to a new case: the given one, and those of its exposures. -/
def linkedAssets (a : CreateCaseArgs) (db : Db) : List String :=
  sortedSet (strip (a.assetId.getD "") :: exposureAssets a db)

omit [Python] in
theorem resolveOwners_run (setting : Option String) (organizationId : String)
    (given : Option String) (db : Db) (assetIds : List String) : ∃ owners,
    List.Forall₂ (fun id owner => (resolveCaseOwner setting organizationId (some id) given).run
      (Session.fresh db) = (.returned owner, Session.fresh db)) assetIds owners ∧
    (resolveOwners setting organizationId given assetIds).run (Session.fresh db)
      = (.returned owners, Session.fresh db) := by
  induction assetIds with
  | nil => exact ⟨[], .nil, rfl⟩
  | cons assetId rest ih =>
      obtain ⟨owner, howner⟩ := (resolveCaseOwner_queries setting organizationId (some assetId)
        given).run_returned (Session.fresh db)
      obtain ⟨owners, hall, hrest⟩ := ih
      refine ⟨owner :: owners, .cons howner hall, ?_⟩
      unfold resolveOwners
      rw [Program.run_bind_of_returned howner, Program.run_bind_of_returned hrest]
      rfl

/-- A call looks up the owner of each linked asset, and chooses among them. -/
theorem caseOwner_run (a : CreateCaseArgs) (env : CallEnv) (db : Db) : ∃ owners,
    List.Forall₂ (fun id owner => ownerOfAsset a env db id = .returned owner ∧
      (id ≠ "" → (owner.source = .default ↔ ¬ db.Owned a.organizationId id)))
      (linkedAssets a db) owners ∧
    (caseOwner a env).run (Session.fresh db)
      = (Program.ofExcept (chooseOwner env.defaultTeam a.ownerTeam owners) :
          Prog ResolvedOwner).run (Session.fresh db) := by
  obtain ⟨owners, hall, hrun⟩ := resolveOwners_run env.defaultCaseOwnerTeam a.organizationId
    (some env.defaultTeam) db (linkedAssets a db)
  refine ⟨owners, hall.imp fun id owner h => ?_, ?_⟩
  · exact ⟨congrArg Prod.fst h, resolveCaseOwner_default_iff h⟩
  · unfold caseOwner ownerAmong
    rw [Program.run_select_bind]
    exact Program.run_bind_of_returned hrun

/-! ## What the caller learns -/

/-- The owner of the new case and whether it is escalated, or the error. -/
def ownership (a : CreateCaseArgs) (env : CallEnv) (db : Db) : Outcome PyError (String × Bool) :=
  ((createCase a env).run (Session.fresh db)).1.map fun case =>
    (case.ownerTeam, case.ownershipEscalated)

/-- The unique keys that a call takes from its UUIDs. -/
def CallEnv.drawnKeys (env : CallEnv) : List (KeyColumn × String) :=
  [(.caseId, env.rowId "case_" 12 0), (.caseKey, env.caseKey 1), (.clock, env.rowId "sla_" 8 2),
    (.audit, env.rowId "aud_" 12 4), (.audit, env.rowId "aud_" 12 5),
    (.outbox, env.rowId "evt_" 12 6)]

omit [Python] in
theorem inserts_createdRows (a : CreateCaseArgs) (env : CallEnv) (owner : ResolvedOwner) :
    (createdRows env (newCase a env owner)).flatMap Write.inserts =
      [(.caseId, env.rowId "case_" 12 0), (.caseKey, env.caseKey 1), (.clock, env.rowId "sla_" 8 2),
        (.audit, env.rowId "aud_" 12 4)]
      ++ (if (newCase a env owner).ownershipEscalated then [(.audit, env.rowId "aud_" 12 5)] else [])
      ++ [(.outbox, env.rowId "evt_" 12 6)] := by
  unfold createdRows
  cases (newCase a env owner).ownershipEscalated <;> rfl

/-- A call with an owner returns what it recorded, unless an identifier is taken. -/
theorem ownership_of_owner {a : CreateCaseArgs} {env : CallEnv} {db : Db} {owner : ResolvedOwner}
    (h : (caseOwner a env).run (Session.fresh db) = (.returned owner, Session.fresh db)) :
    ownership a env db =
      if (Store.flush (createdRows env (newCase a env owner)) db).isSome then
        .returned (owner.ownerTeam, (newCase a env owner).ownershipEscalated)
      else .failed := by
  unfold ownership
  rw [createCase_eq, Program.run_bind_of_returned h, Program.run_add_bind]
  cases hflush : Store.flush (createdRows env (newCase a env owner)) db with
  | none =>
      have hrefused : Store.flush (transactionWrites (Session.fresh db).executed
        ((Session.fresh db).staged ++ createdRows env (newCase a env owner)))
          (Session.fresh db).db = none := hflush
      rw [Program.commitAll_bind]
      simp only [Program.run, hrefused]
      rfl
  | some db' =>
      have haccepted : Store.flush (transactionWrites (Session.fresh db).executed
        ((Session.fresh db).staged ++ createdRows env (newCase a env owner)))
          (Session.fresh db).db = some db' := hflush
      have hcase : db'.case? (newCase a env owner).id = some (newCase a env owner) := by
        rw [(flush_effect hflush).case?]
        unfold createdRows
        cases (newCase a env owner).ownershipEscalated <;> simp [Write.onCase]
      rw [Program.run_commitAll_bind haccepted, refreshCase, Program.run_lookup hcase]
      rfl

omit [Python] in
/-- Whether the database accepts the rows of a new case depends on the drawn keys alone. -/
theorem accepted_congr {a a' : CreateCaseArgs} {env : CallEnv} {db db' : Db} {owner : ResolvedOwner}
    (hescalated : (newCase a' env owner).ownershipEscalated =
      (newCase a env owner).ownershipEscalated)
    (hkeys : ∀ k ∈ env.drawnKeys, db'.Holds k ↔ db.Holds k) :
    (Store.flush (createdRows env (newCase a' env owner)) db').isSome =
      (Store.flush (createdRows env (newCase a env owner)) db).isSome := by
  rw [Bool.eq_iff_iff, flush_isSome_iff, flush_isSome_iff, inserts_createdRows, inserts_createdRows,
    hescalated]
  refine and_congr_right fun _ => forall_congr' fun k => imp_congr_right fun hk => ?_
  refine not_congr (hkeys k ?_)
  cases hesc : (newCase a env owner).ownershipEscalated with
  | true => simpa [hesc, CallEnv.drawnKeys] using hk
  | false =>
      simp only [hesc, CallEnv.drawnKeys, Bool.false_eq_true, if_false, List.append_nil,
        List.mem_append, List.mem_cons, List.not_mem_nil, or_false] at hk ⊢
      tauto

/-- Two databases hold the same rows of an organization, as far as ownership is concerned. -/
structure SameTenant (organizationId : String) (db db' : Db) : Prop where
  exposures : ∀ e, e.organizationId = organizationId →
    (e ∈ db'.exposures.rows ↔ e ∈ db.exposures.rows)
  assets : ∀ a, a.organizationId = organizationId → (a ∈ db'.assets.rows ↔ a ∈ db.assets.rows)
  services : ∀ s, s.organizationId = organizationId →
    (s ∈ db'.services.rows ↔ s ∈ db.services.rows)

omit [Python] in
theorem SameTenant.sameOwners {organizationId : String} {db db' : Db}
    (h : SameTenant organizationId db db') : SameOwners organizationId db' db where
  asset id := Table.filter_find?_congr (fun a ha => h.assets a (by simpa using ha)) id
  service id := Table.filter_find?_congr (fun s hs => h.services s (by simpa using hs)) id

omit [Python] in
theorem mem_exposureAssets {a : CreateCaseArgs} {db : Db} {assetId : String} :
    assetId ∈ exposureAssets a db ↔ ∃ e ∈ db.exposures.rows,
      e.organizationId = a.organizationId ∧ e.id ∈ a.exposures.getD [] ∧
        e.assetId = some assetId := by
  simp only [exposureAssets, List.mem_filterMap]
  refine exists_congr fun e => and_congr_right fun _ => ?_
  split_ifs with h
  · simp [h]
  · exact iff_of_false (by simp) fun hall => h ⟨hall.1, hall.2.1⟩

omit [Python] in
/-- The linked assets depend on the set of the exposures, and on the organization's rows. -/
theorem linkedAssets_congr {a : CreateCaseArgs} {exposures : Option (List String)} {db db' : Db}
    (hsame : ∀ id, id ∈ exposures.getD [] ↔ id ∈ a.exposures.getD [])
    (htenant : SameTenant a.organizationId db db') :
    linkedAssets { a with exposures := exposures } db' = linkedAssets a db := by
  refine sortedSet_congr fun assetId => ?_
  rw [List.mem_cons, List.mem_cons, mem_exposureAssets, mem_exposureAssets]
  refine or_congr_right ?_
  constructor
  · rintro ⟨e, he, horganization, hmem, hasset⟩
    exact ⟨e, (htenant.exposures e horganization).1 he, horganization, (hsame _).1 hmem, hasset⟩
  · rintro ⟨e, he, horganization, hmem, hasset⟩
    exact ⟨e, (htenant.exposures e horganization).2 he, horganization, (hsame _).2 hmem, hasset⟩

theorem caseOwner_congr {a : CreateCaseArgs} {exposures : Option (List String)} {db db' : Db}
    (hsame : ∀ id, id ∈ exposures.getD [] ↔ id ∈ a.exposures.getD [])
    (htenant : SameTenant a.organizationId db db') (env : CallEnv) :
    ((caseOwner { a with exposures := exposures } env).run (Session.fresh db')).1 =
      ((caseOwner a env).run (Session.fresh db)).1 := by
  have hlinked := linkedAssets_congr hsame htenant
  have howner : ownerAmong { a with exposures := exposures } env
      (exposureAssets { a with exposures := exposures } db') =
        ownerAmong a env (exposureAssets a db) := by
    unfold ownerAmong
    unfold linkedAssets at hlinked
    dsimp only at hlinked ⊢
    rw [hlinked]
  unfold caseOwner
  rw [Program.run_select_bind, Program.run_select_bind]
  show ((ownerAmong _ env (exposureAssets _ db')).run (Session.fresh db')).1 =
    ((ownerAmong _ env (exposureAssets _ db)).run (Session.fresh db)).1
  rw [howner]
  exact (ownerAmong_steady a env _).run_eq htenant.sameOwners

/-- A lookup of the owner ends in the owner or the conflict, and in the session it began with. -/
theorem caseOwner_cases (a : CreateCaseArgs) (env : CallEnv) (db : Db) :
    (∃ owner, (caseOwner a env).run (Session.fresh db) = (.returned owner, Session.fresh db)) ∨
      (caseOwner a env).run (Session.fresh db) = (.raised conflictingOwners, Session.fresh db) := by
  obtain ⟨owners, -, hrun⟩ := caseOwner_run a env db
  rw [hrun]
  cases hchoice : chooseOwner env.defaultTeam a.ownerTeam owners with
  | ok owner => exact Or.inl ⟨owner, rfl⟩
  | error e =>
      obtain ⟨rfl, -⟩ := chooseOwner_eq_error.1 hchoice
      exact Or.inr rfl

theorem ownership_of_conflict {a : CreateCaseArgs} {env : CallEnv} {db : Db}
    (h : (caseOwner a env).run (Session.fresh db)
      = (.raised conflictingOwners, Session.fresh db)) :
    ownership a env db = .raised conflictingOwners := by
  unfold ownership
  rw [createCase_eq, Program.run_bind_of_raised h]
  rfl

/-! ## Results -/

theorem ownership_congr {a : CreateCaseArgs} {exposures : Option (List String)} {env : CallEnv}
    {db db' : Db} (hsame : ∀ id, id ∈ exposures.getD [] ↔ id ∈ a.exposures.getD [])
    (htenant : SameTenant a.organizationId db db')
    (hkeys : ∀ k ∈ env.drawnKeys, db'.Holds k ↔ db.Holds k) :
    ownership { a with exposures := exposures } env db' = ownership a env db := by
  have hcongr := caseOwner_congr hsame htenant env
  rcases caseOwner_cases a env db with ⟨owner, howner⟩ | hconflict
  · rcases caseOwner_cases { a with exposures := exposures } env db' with
      ⟨owner', howner'⟩ | hconflict'
    · rw [howner, howner'] at hcongr
      obtain rfl := Outcome.returned.inj hcongr
      have haccepted : (Store.flush (createdRows env
          (newCase { a with exposures := exposures } env owner')) db').isSome =
            (Store.flush (createdRows env (newCase a env owner')) db).isSome :=
        accepted_congr rfl hkeys
      rw [ownership_of_owner howner, ownership_of_owner howner', haccepted]
      rfl
    · rw [howner, hconflict'] at hcongr
      cases hcongr
  · rcases caseOwner_cases { a with exposures := exposures } env db' with
      ⟨owner', howner'⟩ | hconflict'
    · rw [hconflict, howner'] at hcongr
      cases hcongr
    · rw [ownership_of_conflict hconflict, ownership_of_conflict hconflict']

/-- Two linked assets have owners that differ. -/
def Conflicting (a : CreateCaseArgs) (env : CallEnv) (db : Db) : Prop :=
  ∃ x ∈ linkedAssets a db, ∃ y ∈ linkedAssets a db, ∃ o p, ownerOfAsset a env db x = .returned o ∧
    ownerOfAsset a env db y = .returned p ∧ o.key ≠ p.key

/-- The new case falls to the default owner: nobody else is asked for, and nobody in the
    organization owns a linked asset. -/
def FallsBack (a : CreateCaseArgs) (env : CallEnv) (db : Db) : Prop :=
  RequestsDefault env.defaultTeam a.ownerTeam ∧
    ∀ x ∈ linkedAssets a db, ¬ db.Owned a.organizationId x

omit [Python] in
/-- What is paired with the members of one list is found among the other. -/
theorem exists_paired {α β : Type} {R : α → β → Prop} {xs : List α} {ys : List β}
    (h : List.Forall₂ R xs ys) : ∀ x ∈ xs, ∃ y ∈ ys, R x y := by
  induction h with
  | nil => simp
  | cons hxy _ ih =>
      refine List.forall_mem_cons.2 ⟨⟨_, List.mem_cons_self, hxy⟩, fun x hx => ?_⟩
      obtain ⟨y, hy, hR⟩ := ih x hx
      exact ⟨y, List.mem_cons_of_mem _ hy, hR⟩

theorem disagree_iff {a : CreateCaseArgs} {env : CallEnv} {db : Db} {owners : List ResolvedOwner}
    (h : List.Forall₂ (fun id owner => ownerOfAsset a env db id = .returned owner)
      (linkedAssets a db) owners) : Disagree owners ↔ Conflicting a env db := by
  constructor
  · rintro ⟨o, ho, p, hp, hne⟩
    obtain ⟨x, hx, hxo⟩ := exists_paired h.flip o ho
    obtain ⟨y, hy, hyp⟩ := exists_paired h.flip p hp
    exact ⟨x, hx, y, hy, o, p, hxo, hyp, hne⟩
  · rintro ⟨x, hx, y, hy, o, p, hxo, hyp, hne⟩
    obtain ⟨o', ho', hxo'⟩ := exists_paired h x hx
    obtain ⟨p', hp', hyp'⟩ := exists_paired h y hy
    obtain rfl := Outcome.returned.inj (hxo'.symm.trans hxo)
    obtain rfl := Outcome.returned.inj (hyp'.symm.trans hyp)
    exact ⟨o', ho', p', hp', hne⟩

theorem ownership_conflict_iff {a : CreateCaseArgs} {env : CallEnv} {db : Db} :
    ownership a env db = .raised conflictingOwners ↔ Conflicting a env db := by
  obtain ⟨owners, hall, hrun⟩ := caseOwner_run a env db
  rw [← disagree_iff (hall.imp fun _ _ h => h.1)]
  cases hchoice : chooseOwner env.defaultTeam a.ownerTeam owners with
  | error e =>
      rw [hchoice] at hrun
      obtain ⟨rfl, hdisagree⟩ := chooseOwner_eq_error.1 hchoice
      exact iff_of_true (ownership_of_conflict hrun) hdisagree
  | ok owner =>
      rw [hchoice] at hrun
      refine iff_of_false (fun h => ?_) fun h => ?_
      · rw [ownership_of_owner hrun] at h
        split_ifs at h
      · rw [chooseOwner_eq_error.2 ⟨rfl, h⟩] at hchoice
        cases hchoice

theorem ownership_escalated_iff {a : CreateCaseArgs} {env : CallEnv} {db : Db} {team : String}
    {escalated : Bool} (h : ownership a env db = .returned (team, escalated)) :
    escalated = true ↔ (a.priority = "P0" ∨ a.priority = "P1") ∧ FallsBack a env db := by
  obtain ⟨owners, hall, hrun⟩ := caseOwner_run a env db
  cases hchoice : chooseOwner env.defaultTeam a.ownerTeam owners with
  | error e =>
      rw [hchoice] at hrun
      obtain ⟨rfl, -⟩ := chooseOwner_eq_error.1 hchoice
      rw [ownership_of_conflict hrun] at h
      cases h
  | ok owner =>
      rw [hchoice] at hrun
      rw [ownership_of_owner hrun] at h
      split_ifs at h
      obtain ⟨-, rfl⟩ := Prod.mk.inj (Outcome.returned.inj h)
      have hnone : (∀ o ∈ owners, o.source = .default) ↔
          ∀ x ∈ linkedAssets a db, ¬ db.Owned a.organizationId x := by
        constructor
        · intro hdefault x hx
          obtain ⟨o, ho, -, howned⟩ := exists_paired hall x hx
          exact (howned (mem_sortedSet.1 hx).2).1 (hdefault o ho)
        · intro hunowned o ho
          obtain ⟨x, hx, -, howned⟩ := exists_paired hall.flip o ho
          exact (howned (mem_sortedSet.1 hx).2).2 (hunowned x hx)
      rw [FallsBack, ← hnone, ← chooseOwner_default_iff hchoice]
      simp [newCase]

/-- **Case ownership** depends on the set of the exposures and on the organization's own rows; it is
    a conflict exactly when two linked assets have owners that differ, and escalated exactly when a
    case of a high priority falls back to the default owner. -/
theorem createCase_ownership (a : CreateCaseArgs) (env : CallEnv) (db : Db) :
    (∀ exposures db', (∀ id, id ∈ exposures.getD [] ↔ id ∈ a.exposures.getD []) →
      SameTenant a.organizationId db db' → (∀ k ∈ env.drawnKeys, db'.Holds k ↔ db.Holds k) →
        ownership { a with exposures := exposures } env db' = ownership a env db) ∧
    (ownership a env db = .raised conflictingOwners ↔ Conflicting a env db) ∧
    (∀ team escalated, ownership a env db = .returned (team, escalated) →
      (escalated = true ↔ (a.priority = "P0" ∨ a.priority = "P1") ∧ FallsBack a env db)) :=
  ⟨fun _ _ => ownership_congr, ownership_conflict_iff, fun _ _ => ownership_escalated_iff⟩

end Choice

end VulnOpsHub
