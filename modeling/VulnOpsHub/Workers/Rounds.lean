import VulnOpsHub.Workers.Orchestration
import VulnOpsHub.Cases.Owners

set_option autoImplicit false

/-! # What a round commits

A round of a handler records one finding in up to three transactions: the exposure with its
evidence, a case, and the link between them. The relations here describe them, and a round is shown
to commit nothing else, also when other workers write in between (`Stable`). -/

namespace VulnOpsHub

/-! ## The first transaction -/

namespace UpsertArgs

/-- The exposures after a finding has been recorded among them. -/
def recorded (a : UpsertArgs) (env : CallEnv) (rows : List Exposure) : List Exposure :=
  match rows.find? fun e => e.key = a.key with
  | some e => rows.map fun x => if x.id = e.id then a.refreshed env x else x
  | none => rows ++ [a.newExposure env]

/-- The exposure as `upsert_exposure` leaves it, given the row found under its key. -/
def outcome (a : UpsertArgs) (env : CallEnv) : Option Exposure → Exposure
  | some e => a.refreshed env e
  | none => a.newExposure env

/-- The evidence row `upsert_exposure` adds over the rows `h`, if it is not there yet. -/
def newEvidence (a : UpsertArgs) (env : CallEnv) (h : Hub) (exposureId : String) :
    List MatchEvidence :=
  match nonEmpty a.evidenceRef with
  | none => []
  | some ref => if h.seen exposureId ref then [] else [a.evidence env exposureId]

/-- What `upsert_exposure` stages over the rows `h`. -/
def writes (a : UpsertArgs) (env : CallEnv) (h : Hub) : List HubWrite :=
  a.write env (h.exposureAt a.key) ::
    (a.newEvidence env h (a.exposureId env (h.exposureAt a.key))).map .insertEvidence

/-! ### What it leaves -/

variable {a : UpsertArgs} {env : CallEnv} {h h' : Hub}

@[simp] theorem id_outcome (a : UpsertArgs) (env : CallEnv) (existing : Option Exposure) :
    (a.outcome env existing).id = a.exposureId env existing := by
  cases existing <;> rfl

/-- What is staged depends on the exposure under the key and on whether the evidence is there. -/
theorem writes_congr (hexposure : h'.exposureAt a.key = h.exposureAt a.key)
    (hseen : ∀ id ref, nonEmpty a.evidenceRef = some ref → h'.seen id ref = h.seen id ref) :
    a.writes env h' = a.writes env h := by
  unfold writes newEvidence
  rw [hexposure]
  cases href : nonEmpty a.evidenceRef with
  | none => rfl
  | some ref => simp only [hseen _ ref href]

theorem flush_insertEvidence {ms : List MatchEvidence}
    (hflush : Store.flush (ms.map HubWrite.insertEvidence) h = some h') :
    ∃ t : Table MatchEvidence, h' = { h with evidence := t } ∧ t.rows = h.evidence.rows ++ ms := by
  induction ms generalizing h with
  | nil =>
      cases hflush
      exact ⟨_, rfl, by simp⟩
  | cons m ms ih =>
      obtain ⟨h₁, hwrite, hrest⟩ := Store.flush_cons hflush
      obtain ⟨t, ht, rfl⟩ := Option.map_eq_some_iff.1 hwrite
      obtain ⟨t', rfl, ht'⟩ := ih hrest
      exact ⟨t', rfl, by simp [ht', Table.rows_insert ht]⟩

end UpsertArgs

/-- Two exposures with one id are one. -/
theorem Table.eq_of_exposureId {t : Table Exposure} {e e' : Exposure} (he : e ∈ t.rows)
    (he' : e' ∈ t.rows) (hid : e.id = e'.id) : e = e' :=
  List.inj_on_of_nodup_map t.nodup he he' hid

theorem Hub.exposureAt_eq_some {h : Hub} {key : ExposureKey} {e : Exposure}
    (he : h.exposureAt key = some e) : e ∈ h.exposures.rows ∧ e.key = key :=
  ⟨List.mem_of_find?_eq_some he, by simpa using List.find?_some he⟩

theorem Hub.exposure?_of_exposureAt {h : Hub} {key : ExposureKey} {e : Exposure}
    (he : h.exposureAt key = some e) : h.exposure? e.id = some e :=
  Table.find?_key_of_mem (exposureAt_eq_some he).1

/-- The effect of `upsert_exposure`. -/
structure UpsertArgs.Effect (a : UpsertArgs) (env : CallEnv) (h h' : Hub) : Prop where
  frame : ∃ t m, h' = { h with exposures := t, evidence := m }
  exposures : h'.exposures.rows = a.recorded env h.exposures.rows
  evidence : h'.evidence.rows
    = h.evidence.rows ++ a.newEvidence env h (a.exposureId env (h.exposureAt a.key))

theorem UpsertArgs.effect_of_flush {a : UpsertArgs} {env : CallEnv} {h h' : Hub}
    (hflush : Store.flush (a.writes env h) h = some h') : a.Effect env h h' := by
  obtain ⟨h₁, hwrite, hrest⟩ := Store.flush_cons hflush
  obtain ⟨m, rfl, hm⟩ := flush_insertEvidence hrest
  have hrecorded : a.recorded env h.exposures.rows = match h.exposureAt a.key with
      | some e => h.exposures.rows.map fun x => if x.id = e.id then a.refreshed env x else x
      | none => h.exposures.rows ++ [a.newExposure env] := rfl
  cases hexisting : h.exposureAt a.key with
  | none =>
      rw [hexisting] at hwrite hm hrecorded
      obtain ⟨t, ht, rfl⟩ := Option.map_eq_some_iff.1 hwrite
      refine ⟨⟨t, m, rfl⟩, ?_, by rw [hexisting]; exact hm⟩
      rw [hrecorded]
      exact Table.rows_insert ht
  | some e =>
      rw [hexisting] at hwrite hm hrecorded
      cases hwrite
      refine ⟨⟨_, m, rfl⟩, ?_, by rw [hexisting]; exact hm⟩
      rw [hrecorded]
      refine List.map_congr_left fun x hx => ?_
      by_cases hid : x.id = e.id
      · obtain rfl := Table.eq_of_exposureId hx (Hub.exposureAt_eq_some hexisting).1 hid
        simp [Keyed.key, UpsertArgs.ofChange_refreshed]
      · simp [Keyed.key, hid]

namespace UpsertArgs.Effect

variable {a : UpsertArgs} {env : CallEnv} {h h' : Hub}

/-- The exposure under the key, by what was there before. -/
theorem exposureAt_key (he : a.Effect env h h') :
    h'.exposureAt a.key = some (a.outcome env (h.exposureAt a.key)) := by
  unfold Hub.exposureAt
  rw [he.exposures]
  unfold recorded
  cases hexisting : h.exposures.rows.find? fun e => e.key = a.key with
  | none => simp [List.find?_append, hexisting, outcome]
  | some e =>
      have hcomp : ((fun x : Exposure => decide (x.key = a.key)) ∘
          fun x => if x.id = e.id then a.refreshed env x else x) = fun x => decide (x.key = a.key) := by
        funext x
        by_cases hid : x.id = e.id <;> simp [hid]
      rw [List.find?_map, hcomp, hexisting]
      simp [outcome]

/-- Other keys keep their exposures. -/
theorem exposureAt_of_ne (he : a.Effect env h h') {key : ExposureKey} (hne : key ≠ a.key) :
    h'.exposureAt key = h.exposureAt key := by
  unfold Hub.exposureAt
  rw [he.exposures]
  unfold recorded
  cases hexisting : h.exposures.rows.find? fun e => e.key = a.key with
  | none => simp [List.find?_append, hne.symm]
  | some e =>
      have hcomp : ((fun x : Exposure => decide (x.key = key)) ∘
          fun x => if x.id = e.id then a.refreshed env x else x) = fun x => decide (x.key = key) := by
        funext x
        by_cases hid : x.id = e.id <;> simp [hid]
      simp only [List.find?_map, hcomp]
      cases hfind : h.exposures.rows.find? fun x => x.key = key with
      | none => rfl
      | some y =>
          obtain ⟨hy, hykey⟩ := Hub.exposureAt_eq_some (h := h) hfind
          obtain ⟨he', hekey⟩ := Hub.exposureAt_eq_some (h := h) hexisting
          have hid : y.id ≠ e.id := fun hid => hne <| by
            rw [← hykey, ← hekey, Table.eq_of_exposureId hy he' hid]
          simp [hid]

/-- Exposures stay under their ids and their keys. -/
theorem exposure?_kept (he : a.Effect env h h') {id : String} {e : Exposure}
    (hfound : h.exposure? id = some e) : ∃ e', h'.exposure? id = some e' ∧ e'.key = e.key := by
  obtain ⟨hmem, hid⟩ := Table.find?_eq_some.1 hfound
  have hrows := he.exposures
  unfold recorded at hrows
  cases hexisting : h.exposures.rows.find? fun e => e.key = a.key with
  | none =>
      rw [hexisting] at hrows
      refine ⟨e, Table.find?_eq_some.2 ⟨?_, hid⟩, rfl⟩
      rw [hrows]
      exact List.mem_append_left _ hmem
  | some x =>
      rw [hexisting] at hrows
      refine ⟨if e.id = x.id then a.refreshed env e else e, Table.find?_eq_some.2 ⟨?_, ?_⟩, ?_⟩
      · rw [hrows]
        exact List.mem_map_of_mem hmem
      · split <;> exact hid
      · split <;> rfl

theorem cases_eq (he : a.Effect env h h') : h'.cases = h.cases := by
  obtain ⟨t, m, rfl⟩ := he.frame
  rfl

theorem links_eq (he : a.Effect env h h') : h'.links = h.links := by
  obtain ⟨t, m, rfl⟩ := he.frame
  rfl

end UpsertArgs.Effect

section Rounds

variable [Python]

/-- What a finding passes to `upsert_exposure` over the rows `h`. -/
def Finding.args (f : Finding) (s : Sources) (eventId : String) (h : Hub) : UpsertArgs :=
  f.upsertArgs eventId
    (priorityOf f.vulnerabilityId f.result.matchClass f.result.confidence
      (s.isKev h f.vulnerabilityId) (s.epssFor f.vulnerabilityId)) RiskPolicyEngine.policyVersion

@[simp] theorem Finding.key_args (f : Finding) (s : Sources) (eventId : String) (h : Hub) :
    (f.args s eventId h).key = f.key := rfl

/-- The first transaction of a round: the exposure and its evidence. -/
def Finding.Stored (o : Handling) (eventId : String) (i : ℕ) (f : Finding) (h h' : Hub) : Prop :=
  Store.flush ((f.args o.sources eventId h).writes (o.env i) h) h = some h'

/-! ## The other two -/

/-- The owner `create_case` finds. -/
def ownerOf (a : CreateCaseArgs) (env : CallEnv) (h : Hub) : Outcome PyError ResolvedOwner :=
  ((caseOwner a env).run (Session.fresh h.view)).1

/-- The id of the case a round opens. -/
def caseId (env : CallEnv) : String := env.rowId "case_" 12 0

/-- A case is to be opened for the exposure. -/
structure Eligible (o : Handling) (e : Exposure) (h : Hub) : Prop where
  enabled : o.settings.caseAutoCreateEnabled = true
  matchClass : e.matchClass ∈ caseClasses
  unlinked : h.linked e.id = false
  unlisted : h.listed e.organizationId e.id = false

/-- The second transaction: the case, which lists the exposure. -/
structure Finding.Opened (o : Handling) (i : ℕ) (f : Finding) (e : Exposure) (h h' : Hub) :
    Prop where
  eligible : Eligible o e h
  created : ∃ owner, ownerOf (caseArgs o e f.componentLabel) (o.env i) h = .returned owner ∧
    Store.flush ((createdRows (o.env i) (newCase (caseArgs o e f.componentLabel) (o.env i) owner)).map
      HubWrite.core) h = some h'

/-- The third: the link, and the external ticket. -/
def Finding.Linked (o : Handling) (i : ℕ) (f : Finding) (e : Exposure) (h h' : Hub) : Prop :=
  Store.flush (.insertLink (caseLink (o.env i) (caseId (o.env i)) e.id)
    :: ticketWrites (o.env i) e (caseId (o.env i)) f.ticket f.provenance) h = some h'

/-! ## Interference -/

/-- What the other workers leave alone while an event with id `ref` is handled whose exposures have
    keys in `scope`. -/
structure Stable (rely : Hub → Hub → Prop) (scope : ExposureKey → Prop) (ref : String) : Prop where
  refl : ∀ h, rely h h
  trans : ∀ {h₁ h₂ h₃}, rely h₁ h₂ → rely h₂ h₃ → rely h₁ h₃
  exposureAt : ∀ {h h' key}, rely h h' → scope key → h'.exposureAt key = h.exposureAt key
  exposure : ∀ {h h' e}, rely h h' → scope e.key → h.exposure? e.id = some e →
    h'.exposure? e.id = some e
  seen : ∀ {h h'} (id : String), rely h h' → h'.seen id ref = h.seen id ref
  linked : ∀ {h h' e}, rely h h' → scope e.key → h.exposure? e.id = some e →
    h'.linked e.id = h.linked e.id
  listed : ∀ {h h' e}, rely h h' → scope e.key → h.exposure? e.id = some e →
    h'.listed e.organizationId e.id = h.listed e.organizationId e.id
  assets : ∀ {h h'}, rely h h' → h'.assets = h.assets
  services : ∀ {h h'}, rely h h' → h'.services = h.services
  occurrences : ∀ {h h'}, rely h h' → h'.occurrences = h.occurrences
  assertions : ∀ {h h'}, rely h h' → h'.assertions = h.assertions

omit [Python] in
/-- Nobody else is there. -/
theorem Stable.eq (scope : ExposureKey → Prop) (ref : String) : Stable Eq scope ref where
  refl := fun _ => rfl
  trans := Eq.trans
  exposureAt := fun h _ => by rw [h]
  exposure := fun h _ he => h ▸ he
  seen := fun _ h => by rw [h]
  linked := fun h _ _ => by rw [h]
  listed := fun h _ _ => by rw [h]
  assets := fun h => by rw [h]
  services := fun h => by rw [h]
  occurrences := fun h => by rw [h]
  assertions := fun h => by rw [h]

variable {rely guar : Hub → Hub → Prop} {scope : ExposureKey → Prop} {ref : String}

/-! ## Recording an exposure -/

omit [Python] in
@[simp] theorem overlay_write_seen (a : UpsertArgs) (env : CallEnv) (existing : Option Exposure)
    (h : Hub) (id ref : String) :
    (HubWrite.overlay h (a.write env existing)).seen id ref = h.seen id ref := by
  cases existing with
  | some e => rfl
  | none =>
      simp only [UpsertArgs.write, HubWrite.overlay, HubWrite.apply]
      cases h.exposures.insert (a.newExposure env) <;> rfl

omit [Python] in
/-- What `upsert_exposure` stages is what it would stage over the rows as they are by the commit. -/
theorem wp_upsertExposure {a : UpsertArgs} {env : CallEnv} (hst : Stable rely scope ref)
    (hscope : scope a.key) (href : ∀ r, nonEmpty a.evidenceRef = some r → r = ref) {h : Hub}
    {Q : Outcome PyError (String × Bool) → Session Hub → Prop}
    (hdone : ∀ t created, rely h t →
      Q (.returned (a.exposureId env (t.exposureAt a.key), created)) ⟨t, [], a.writes env t⟩) :
    (upsertExposure a env).Wp rely guar Q (Session.fresh h) := by
  have hexisting : ∀ t u, rely t u → u.exposureAt a.key = t.exposureAt a.key := fun t u hu =>
    hst.exposureAt hu hscope
  unfold upsertExposure
  refine Program.wp_select_bind fun t ht => Program.wp_add_bind ?_
  simp only [Session.fresh, sessionView, List.foldl_nil, List.nil_append]
  cases href' : nonEmpty a.evidenceRef with
  | none =>
      have hdone' := hdone t (t.exposureAt a.key).isNone ht
      simpa [UpsertArgs.writes, UpsertArgs.newEvidence, href'] using hdone'
  | some r =>
      obtain rfl := href r href'
      refine Program.wp_select_bind fun u hu => ?_
      have hdone' := hdone u (t.exposureAt a.key).isNone (hst.trans ht hu)
      simp only [UpsertArgs.writes, UpsertArgs.newEvidence, href', hexisting t u hu] at hdone'
      have hview : (sessionView [] [a.write env (t.exposureAt a.key)] u).seen
          (a.exposureId env (t.exposureAt a.key)) r
            = u.seen (a.exposureId env (t.exposureAt a.key)) r :=
        overlay_write_seen _ _ _ _ _ _
      by_cases hseen : u.seen (a.exposureId env (t.exposureAt a.key)) r = true
      · rw [if_pos (hview.trans hseen)]
        simpa [hseen] using hdone'
      · rw [if_neg (hview ▸ hseen)]
        refine Program.wp_add_bind ?_
        simpa [hseen] using hdone'

/-! ## Opening a case -/

/-- Two states of the inventory are the same. -/
def SameInventory (s t : Db) : Prop := s.assets = t.assets ∧ s.services = t.services

omit [Python] in
theorem SameInventory.sameOwners {s t : Db} (h : SameInventory s t) (organizationId : String) :
    SameOwners organizationId s t where
  asset id := by simp only [Db.asset?, h.1]
  service id := by simp only [Db.service?, h.2]

omit [Python] in
/-- The assets of a case's only exposure are read off its row. -/
theorem exposureAssets_caseArgs (o : Handling) (e : Exposure) (label : String) {h : Hub}
    (he : h.exposure? e.id = some e) :
    exposureAssets (caseArgs o e label) h.view = e.assetId.toList := by
  have hfind : h.view.exposures.find? e.id = some e.toRow := by
    refine Table.find?_eq_some.2 ⟨List.mem_map.2 ⟨e, Table.mem_of_find? he, rfl⟩, rfl⟩
  have hkey := Table.filterMap_key h.view.exposures e.id fun r =>
    if r.organizationId = e.organizationId then r.assetId else none
  rw [hfind] at hkey
  simp only [Option.bind_some, Exposure.toRow, if_true] at hkey
  rw [← hkey]
  refine List.filterMap_congr fun r _ => ?_
  by_cases hid : r.id = e.id
  · simp [caseArgs, hid, Keyed.key]
  · simp [caseArgs, hid, Keyed.key]

/-- The owner of a new case, by its only exposure. -/
theorem ownerOf_caseArgs (o : Handling) (e : Exposure) (label : String) (env : CallEnv) {h : Hub}
    (he : h.exposure? e.id = some e) : ownerOf (caseArgs o e label) env h
      = ((ownerAmong (caseArgs o e label) env e.assetId.toList).run (Session.fresh h.view)).1 := by
  unfold ownerOf caseOwner
  rw [Program.run_select_bind]
  have hview : sessionView (Session.fresh h.view).executed (Session.fresh h.view).staged
      (Session.fresh h.view).db = h.view := rfl
  rw [hview, exposureAssets_caseArgs o e label he]

omit [Python] in
theorem sameInventory_view {h h' : Hub} (hassets : h'.assets = h.assets)
    (hservices : h'.services = h.services) : SameInventory h.view h'.view := by
  constructor
  · simp only [Hub.view, hassets]
  · exact hservices.symm

/-- `create_case` looks the owner up in the inventory, and the exposures' assets. -/
theorem caseOwner_steady (a : CreateCaseArgs) (env : CallEnv) : (caseOwner a env).Steady
    fun s t => SameInventory s t ∧ exposureAssets a s = exposureAssets a t := by
  unfold caseOwner
  have hassets : ∀ s t : Db, (SameInventory s t ∧ exposureAssets a s = exposureAssets a t) →
      exposureAssets a s = exposureAssets a t := fun _ _ h => h.2
  have hinventory : ∀ s t : Db, (SameInventory s t ∧ exposureAssets a s = exposureAssets a t) →
      SameInventory s t := fun _ _ h => h.1
  exact Program.Steady.select_bind hassets fun ids =>
    Program.Steady.mono (fun s t h => (hinventory s t h).sameOwners _) (ownerAmong_steady a env ids)

/-- The owner, as the worker's session finds it. -/
theorem ownerOf_embed (a : CreateCaseArgs) (env : CallEnv) (h : Hub) :
    (((caseOwner a env).embed hubView).run (Session.fresh h)).1 = ownerOf a env h := by
  have hsession : hubView.session h (Session.fresh h.view) = Session.fresh h := rfl
  have hrun := Program.run_embed hubView (caseOwner a env) h (Session.fresh h.view) rfl
  rw [hsession] at hrun
  rw [hrun]
  rfl

/-- The owner of a case does not change while others leave its exposure and the inventory alone. -/
theorem ownerOf_congr (o : Handling) {e : Exposure} (label : String) (env : CallEnv) {h h' : Hub}
    (he : h.exposure? e.id = some e) (he' : h'.exposure? e.id = some e)
    (hassets : h'.assets = h.assets) (hservices : h'.services = h.services) :
    ownerOf (caseArgs o e label) env h' = ownerOf (caseArgs o e label) env h := by
  rw [ownerOf_caseArgs o e label env he, ownerOf_caseArgs o e label env he']
  exact ((ownerAmong_steady _ env _).run_eq
    ((sameInventory_view hassets hservices).sameOwners _)).symm

/-- `create_case` for an eligible exposure: one transaction, if an owner is found. -/
theorem wp_createCase {o : Handling} {i : ℕ} {f : Finding} {e : Exposure}
    (hst : Stable rely scope ref) (hscope : scope e.key) {h : Hub} (he : h.exposure? e.id = some e)
    (hel : Eligible o e h) {Q : Outcome PyError RemediationCase → Session Hub → Prop}
    {C : Hub → Prop} (hC : ∀ t u, C t → rely t u → C u)
    (hstopped : ∀ t out, rely h t ∨ C t → out.isReturned = false → Q out (Session.fresh t))
    (hopened : ∀ t t', rely h t → f.Opened o i e t t' → guar t t' ∧ C t')
    (hdone : ∀ t case, C t → case.id = caseId (o.env i) → Q (.returned case) (Session.fresh t)) :
    ((createCase (caseArgs o e f.componentLabel) (o.env i)).embed hubView).Wp rely guar Q
      (Session.fresh h) := by
  have heligible : ∀ t, rely h t → Eligible o e t := by
    intro t ht
    refine ⟨hel.enabled, hel.matchClass, ?_, ?_⟩
    · rw [hst.linked ht hscope he, hel.unlinked]
    · rw [hst.listed ht hscope he, hel.unlisted]
  rw [createCase_eq, Program.embed_bind]
  have hinventory : ∀ s t, s.exposure? e.id = some e → rely s t →
      (SameInventory s.view t.view ∧
        exposureAssets (caseArgs o e f.componentLabel) s.view
          = exposureAssets (caseArgs o e f.componentLabel) t.view) ∧
      t.exposure? e.id = some e := by
    intro s t hs hst'
    have ht := hst.exposure hst' hscope hs
    refine ⟨⟨sameInventory_view (hst.assets hst') (hst.services hst'), ?_⟩, ht⟩
    rw [exposureAssets_caseArgs _ _ _ hs, exposureAssets_caseArgs _ _ _ ht]
  refine Program.Steady.wp_bind ((caseOwner_steady _ (o.env i)).embed hubView fun _ _ h => h)
    he hinventory hst.refl hst.trans fun t ht => ?_
  rw [ownerOf_embed]
  cases howner : ownerOf (caseArgs o e f.componentLabel) (o.env i) h with
  | raised x => exact hstopped t _ (Or.inl ht) rfl
  | failed => exact hstopped t _ (Or.inl ht) rfl
  | returned owner =>
      show Program.Wp rely guar _ Q (Session.fresh t)
      simp only [Program.embed_bind, Program.embed_add, Program.embed_commitAll, refreshCase,
        Program.embed_lookup]
      refine Program.wp_add_bind (Program.wp_commitAll_bind (fun u hu _ => ?_) fun u u' hu hflush => ?_)
      · exact hstopped u _ (Or.inl (hst.trans ht hu)) rfl
      · have hu' : rely h u := hst.trans ht hu
        have howner' : ownerOf (caseArgs o e f.componentLabel) (o.env i) u = .returned owner := by
          rw [ownerOf_congr o f.componentLabel (o.env i) he (hst.exposure hu' hscope he)
            (hst.assets hu') (hst.services hu'), howner]
        obtain ⟨hguar, hCu⟩ := hopened u u' hu' ⟨heligible u hu', owner, howner', hflush⟩
        refine ⟨hguar, ?_⟩
        refine Program.wp_lookup (fun v hv _ => ?_) fun v case hv hcase => ?_
        · exact hstopped v _ (Or.inr (hC u' v hCu hv)) rfl
        · exact hdone v case (hC u' v hCu hv) (Db.id_of_case? hcase)

/-- `_maybe_create_case` of an exposure whose key is in the scope: it opens a case if the exposure is
    eligible, in two transactions. -/
theorem wp_maybeCreateCase {o : Handling} {i : ℕ} {f : Finding} {e : Exposure}
    (hst : Stable rely scope ref) (hscope : scope e.key) {h : Hub} (he : h.exposure? e.id = some e)
    {Q : Outcome PyError (Option String) → Session Hub → Prop} {C : Hub → Prop}
    (hC : ∀ t u, C t → rely t u → C u)
    (hdeclined : ∀ t, rely h t → ¬ Eligible o e t → Q (.returned none) (Session.fresh t))
    (hstopped : ∀ t out, rely h t ∨ C t → out.isReturned = false → Q out (Session.fresh t))
    (hopened : ∀ t t', rely h t → f.Opened o i e t t' → guar t t' ∧ C t')
    (hlinked : ∀ t t', C t → f.Linked o i e t t' →
      guar t t' ∧ Q (.returned (some (caseId (o.env i)))) (Session.fresh t')) :
    (maybeCreateCase o (o.env i) e.id f.componentLabel f.ticket f.provenance).Wp rely guar Q
      (Session.fresh h) := by
  have hexposure : ∀ t, rely h t → t.exposure? e.id = some e := fun t ht =>
    hst.exposure ht hscope he
  unfold maybeCreateCase
  split
  case isFalse hdisabled =>
    exact Program.wp_ret.2 (hdeclined h (hst.refl h) fun hel => hdisabled hel.enabled)
  next henabled =>
  refine Program.wp_lookup_bind (fun t ht hnone => ?_) fun t e' ht he' => ?_
  · exact absurd ((hexposure t ht).symm.trans hnone) (by simp)
  obtain rfl : e = e' := Option.some.inj ((hexposure t ht).symm.trans he')
  split
  case isFalse hclass =>
    exact Program.wp_ret.2 (hdeclined t ht fun hel => hclass hel.matchClass)
  next hclass =>
  refine Program.wp_select_bind fun u hu => ?_
  have hu' : rely h u := hst.trans ht hu
  show Program.Wp rely guar (if u.linked e.id = true then _ else _) Q ⟨u, [], []⟩
  split
  case isTrue hlink =>
    refine Program.wp_ret.2 (hdeclined u hu' fun hel => ?_)
    rw [hel.unlinked] at hlink
    cases hlink
  next hunlinked =>
  refine Program.wp_select_bind fun v hv => ?_
  have hv' : rely h v := hst.trans hu' hv
  show Program.Wp rely guar (if v.listed e.organizationId e.id = true then _ else _) Q ⟨v, [], []⟩
  split
  case isTrue hlist =>
    refine Program.wp_ret.2 (hdeclined v hv' fun hel => ?_)
    rw [hel.unlisted] at hlist
    cases hlist
  next hunlisted =>
  have hel : Eligible o e v := by
    refine ⟨henabled, hclass, ?_, by simpa using hunlisted⟩
    rw [hst.linked hv hscope (hexposure u hu')]
    simpa using hunlinked
  refine Program.wp_bind (wp_createCase (C := C) hst hscope (hexposure v hv') hel hC ?_ ?_ ?_)
  · intro w out hw hout
    cases out with
    | returned _ => cases hout
    | raised x => exact hstopped w _ (hw.imp (hst.trans hv') id) rfl
    | failed => exact hstopped w _ (hw.imp (hst.trans hv') id) rfl
  · exact fun w w' hw hopen => hopened w w' (hst.trans hv' hw) hopen
  · intro w case hw hid
    show Program.Wp rely guar _ Q (Session.fresh w)
    dsimp only
    rw [hid]
    refine Program.wp_add_bind (Program.wp_commitAll_bind (fun x hx _ => ?_) fun x x' hx hflush => ?_)
    · exact hstopped x _ (Or.inr (hC w x hw hx)) rfl
    · obtain ⟨hguar, hQ⟩ := hlinked x x' (hC w x hw hx) hflush
      exact ⟨hguar, Program.wp_ret.2 hQ⟩

omit [Python] in
/-- The transaction of a case, over the tables of the case workflow. -/
theorem flush_core (ws : List Write) {h h' : Hub}
    (hflush : Store.flush (ws.map HubWrite.core) h = some h') :
    ∃ db, Store.flush ws h.view = some db ∧ h' = h.put db := by
  have hmap : Store.flush (ws.map HubWrite.core) h = (Store.flush ws h.view).map h.put :=
    hubView.flush_map
  rw [hflush] at hmap
  obtain ⟨db, hdb, hput⟩ := Option.map_eq_some_iff.1 hmap.symm
  exact ⟨db, hdb, hput.symm⟩

theorem Finding.Opened.exposures_eq {o : Handling} {i : ℕ} {f : Finding} {e : Exposure} {h h' : Hub}
    (hopened : f.Opened o i e h h') : h'.exposures = h.exposures := by
  obtain ⟨owner, -, hflush⟩ := hopened.created
  obtain ⟨db, -, rfl⟩ := flush_core _ hflush
  rfl

/-- The kev flag of a vulnerability does not change while others leave the assertions alone. -/
theorem Finding.args_congr (f : Finding) (s : Sources) (eventId : String) {h h' : Hub}
    (hassertions : h'.assertions = h.assertions) : f.args s eventId h' = f.args s eventId h := by
  have hkev : s.isKev h' f.vulnerabilityId = s.isKev h f.vulnerabilityId := by
    have hpersisted : h'.kevPersisted = h.kevPersisted := by
      funext cveId
      unfold Hub.kevPersisted
      rw [hassertions]
    unfold Sources.isKev
    rw [hpersisted]
  unfold Finding.args
  rw [hkev]

/-- **A round**, from rows that satisfy `A`: it commits the exposure, after which the rows satisfy `B`,
    and if the exposure then wants a case, the case, after which they satisfy `C`, and the link. -/
theorem wp_recordFinding {o : Handling} {eventId : String} {i : ℕ} {f : Finding}
    (hst : Stable rely scope eventId) (hscope : scope f.key) {A B C : Hub → Prop}
    {Q : Outcome PyError String → Session Hub → Prop}
    (hA : ∀ t u, A t → rely t u → A u) (hB : ∀ t u, B t → rely t u → B u)
    (hC : ∀ t u, C t → rely t u → C u)
    (hstored : ∀ t t', A t → f.Stored o eventId i t t' → guar t t' ∧ B t')
    (hopened : ∀ t t' e, B t → t.exposureAt f.key = some e → f.opensCase = true →
      f.Opened o i e t t' → guar t t' ∧ C t')
    (hlinked : ∀ t t' e, C t → t.exposureAt f.key = some e → f.Linked o i e t t' →
      guar t t' ∧ Q (.returned e.id) (Session.fresh t'))
    (hdeclined : ∀ t e, B t → t.exposureAt f.key = some e →
      ¬ (f.opensCase = true ∧ Eligible o e t) → Q (.returned e.id) (Session.fresh t))
    (hstopped : ∀ t out, A t ∨ B t ∨ C t → out.isReturned = false → Q out (Session.fresh t))
    {h : Hub} (hh : A h) : (recordFinding o eventId i f).Wp rely guar Q (Session.fresh h) := by
  unfold recordFinding priorityFor
  simp only [Program.bind_assoc]
  refine Program.wp_select_bind fun t ht => ?_
  have hAt := hA h t hh ht
  show Program.Wp rely guar (upsertExposure (f.args o.sources eventId t) (o.env i) >>= _) Q
    (Session.fresh t)
  have href : ∀ r, nonEmpty (f.args o.sources eventId t).evidenceRef = some r → r = eventId :=
    fun r hr => (Option.some.inj (nonEmpty_eq_some.1 hr).1).symm
  refine Program.wp_bind (wp_upsertExposure hst (by exact hscope) href fun u created hu => ?_)
  refine Program.wp_commitAll_bind (fun v hv _ => ?_) fun v v' hv hflush => ?_
  · exact hstopped v _ (Or.inl (hA u v (hA t u hAt hu) hv)) rfl
  -- what was staged is what would be staged now
  have hargs : f.args o.sources eventId v = f.args o.sources eventId t :=
    f.args_congr _ _ (hst.assertions (hst.trans hu hv))
  have hwrites : (f.args o.sources eventId t).writes (o.env i) v
      = (f.args o.sources eventId t).writes (o.env i) u :=
    UpsertArgs.writes_congr (hst.exposureAt hv hscope) fun id r hr => by
      rw [href r hr, hst.seen id hv]
  have hstore : f.Stored o eventId i v v' := by
    unfold Finding.Stored
    rw [hargs, hwrites]
    exact hflush
  obtain ⟨hguar, hBv⟩ := hstored v v' (hA u v (hA t u hAt hu) hv) hstore
  refine ⟨hguar, ?_⟩
  have heffect := UpsertArgs.effect_of_flush hstore
  rw [hargs] at heffect
  -- the exposure the round goes on with
  have hat := heffect.exposureAt_key
  have hid : (f.args o.sources eventId t).exposureId (o.env i)
      (u.exposureAt (f.args o.sources eventId t).key)
      = ((f.args o.sources eventId t).outcome (o.env i)
          (v.exposureAt (f.args o.sources eventId t).key)).id := by
    rw [UpsertArgs.id_outcome, hst.exposureAt hv (by exact hscope)]
  rw [hid]
  generalize (f.args o.sources eventId t).outcome (o.env i)
    (v.exposureAt (f.args o.sources eventId t).key) = e at hat
  have hkey : e.key = f.key := (Hub.exposureAt_eq_some hat).2
  have hat' : ∀ w, rely v' w → w.exposureAt f.key = some e := fun w hw => by
    rw [hst.exposureAt hw hscope]
    exact hat
  by_cases hopens : f.opensCase = true
  · rw [if_pos hopens]
    refine Program.wp_bind (wp_maybeCreateCase (f := f)
      (C := fun w => C w ∧ w.exposureAt f.key = some e) hst (by rwa [hkey])
      (Hub.exposure?_of_exposureAt hat) ?_ ?_ ?_ ?_ ?_)
    · rintro w x ⟨hCw, hw⟩ hx
      exact ⟨hC w x hCw hx, by rw [hst.exposureAt hx hscope, hw]⟩
    · intro w hw hnot
      exact Program.wp_ret.2 (hdeclined w e (hB v' w hBv hw) (hat' w hw) fun h => hnot h.2)
    · intro w out hw hout
      have hw' : A w ∨ B w ∨ C w := Or.inr (hw.imp (hB v' w hBv) And.left)
      cases out with
      | returned _ => cases hout
      | raised x => exact hstopped w _ hw' rfl
      | failed => exact hstopped w _ hw' rfl
    · intro w w' hw hopen
      obtain ⟨hguar, hCw⟩ := hopened w w' e (hB v' w hBv hw) (hat' w hw) hopens hopen
      refine ⟨hguar, hCw, ?_⟩
      unfold Hub.exposureAt
      rw [hopen.exposures_eq]
      exact hat' w hw
    · rintro w w' ⟨hCw, hw⟩ hlink
      obtain ⟨hguar, hQ⟩ := hlinked w w' e hCw hw hlink
      exact ⟨hguar, Program.wp_ret.2 hQ⟩
  · rw [if_neg hopens]
    exact Program.wp_ret.2 (hdeclined v' e hBv hat fun h => hopens h.1)

end Rounds

end VulnOpsHub
