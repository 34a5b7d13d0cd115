import VulnOpsHub.Api.Failures
import VulnOpsHub.Lib.Parallel
import VulnOpsHub.Services.Creation

set_option autoImplicit false

/-! # Requests that create services at the same time

Any number of requests create services, statement by statement in any order. Between the lookup of a
request and its commit others may take its name. -/

namespace VulnOpsHub

/-! ## Bodies -/

theorem refuses_createService (members : List (String × Json)) :
    Refuses (BusinessServiceCreateRequest.validate (.obj members)) := by
  refine Refuses.validated fun h => ?_
  rw [List.append_eq_nil_iff, List.append_eq_nil_iff] at h
  obtain ⟨⟨hname, howner⟩, hcriticality⟩ := h
  obtain ⟨name, hname⟩ := ok_of_fieldErrors hname
  obtain ⟨owner, howner⟩ := ok_of_fieldErrors howner
  obtain ⟨criticality, hcriticality⟩ := ok_of_fieldErrors hcriticality
  exact ⟨⟨name, owner, criticality⟩, by rw [hname, howner, hcriticality]; rfl⟩

/-- A body that is refused is no conflict. -/
theorem BusinessServiceCreateRequest.validate_ne {body : Json} :
    validate body ≠ .error (.problem duplicateServiceError) := by
  intro h
  cases body with
  | obj members =>
      obtain ⟨p, hp, hstatus⟩ := refuses_createService members _ h
      cases hp
      exact absurd hstatus (by decide)
  | _ => cases h

section Races

variable [Python]

/-! ## What a request asks for -/

/-- The request is for a service of that organization, with that key. -/
def ServiceCall.Asks (c : ServiceCall) (k : String × String) : Prop :=
  ∃ payload, c.payload = .ok payload ∧
    k = (c.organizationId, normalizeBusinessServiceName payload.name)

/-- The row that the request inserts. -/
def ServiceCall.Offers (c : ServiceCall) (row : BusinessService) : Prop :=
  ∃ payload, c.payload = .ok payload ∧
    row = (c.service payload).sync

theorem ServiceCall.Offers.id {c : ServiceCall} {row : BusinessService} (h : c.Offers row) :
    row.id = c.serviceId := by
  obtain ⟨payload, -, rfl⟩ := h
  rfl

theorem ServiceCall.Offers.asks {c : ServiceCall} {row : BusinessService} (h : c.Offers row) :
    c.Asks (NaturalKey.natural row) := by
  obtain ⟨payload, hpayload, rfl⟩ := h
  exact ⟨payload, hpayload, rfl⟩

theorem ServiceCall.Asks.unique {c : ServiceCall} {k k' : String × String} (h : c.Asks k)
    (h' : c.Asks k') : k = k' := by
  obtain ⟨payload, hpayload, rfl⟩ := h
  obtain ⟨payload', hpayload', rfl⟩ := h'
  rw [hpayload] at hpayload'
  cases hpayload'
  rfl

/-! ## The rows -/

namespace BusinessServices

/-- Every row has the key of its name. -/
def Synced (t : BusinessServices) : Prop := ∀ row ∈ t.rows, row.sync = row

/-- Some row has the key. -/
def Holds (t : BusinessServices) (k : String × String) : Prop := k ∈ t.rows.map NaturalKey.natural

/-- Nothing has been inserted under the id. -/
def Unwritten (t : BusinessServices) (id : String) : Prop := ∀ row ∈ t.rows, row.id ≠ id

/-- What a request relies on: rows stay, nobody uses its id, and keys stay those of the names. -/
structure Grown (id : String) (t u : BusinessServices) : Prop where
  kept : t.rows ⊆ u.rows
  own : t.Unwritten id → u.Unwritten id
  synced : t.Synced → u.Synced

namespace Grown

variable {id : String} {t u v : BusinessServices}

theorem refl (id : String) (t : BusinessServices) : Grown id t t :=
  ⟨List.Subset.refl _, fun h => h, fun h => h⟩

theorem trans (h : Grown id t u) (h' : Grown id u v) : Grown id t v :=
  ⟨List.Subset.trans h.kept h'.kept, fun ht => h'.own (h.own ht), fun ht => h'.synced (h.synced ht)⟩

theorem holds (h : Grown id t u) {k : String × String} (hk : t.Holds k) : u.Holds k :=
  List.map_subset _ h.kept hk

end Grown

variable {t u : BusinessServices} {row : BusinessService}

theorem grown_of_insert {id : String} (h : t.insert row.sync = some u) (hid : row.id ≠ id) :
    Grown id t u := by
  obtain ⟨-, hrows⟩ := insert_eq_some.1 h
  refine ⟨by simp [hrows], fun ht r hr => ?_, fun ht r hr => ?_⟩
  · rw [hrows, List.mem_append, List.mem_singleton] at hr
    rcases hr with hr | rfl
    · exact ht r hr
    · exact hid
  · rw [hrows, List.mem_append, List.mem_singleton] at hr
    rcases hr with hr | rfl
    · exact ht r hr
    · rfl

/-- A service whose id is free is refused only where its key is taken: no two names with different
    keys are equal. -/
theorem holds_of_insert_eq_none (ht : t.Synced) (hid : t.Unwritten row.id)
    (h : t.insert row.sync = none) : t.Holds (NaturalKey.natural row.sync) := by
  have hnot := insert_eq_none.1 h
  by_contra hfree
  refine hnot ⟨⟨fun hmem => ?_, hfree⟩, fun hmem => hfree ?_⟩
  · obtain ⟨r, hr, hkey⟩ := List.mem_map.1 hmem
    exact hid r hr hkey
  · -- the row with the same name has the same key
    obtain ⟨r, hr, hname⟩ := List.mem_map.1 hmem
    refine List.mem_map.2 ⟨r, hr, ?_⟩
    simp only [BusinessService.orgName, Prod.mk.injEq] at hname
    have hsync : r.nameNormalized = normalizeBusinessServiceName r.name :=
      (congrArg BusinessService.nameNormalized (ht r hr)).symm
    show (r.organizationId, r.nameNormalized)
      = (row.organizationId, normalizeBusinessServiceName row.name)
    rw [hsync, hname.1, hname.2]
    rfl

end BusinessServices

/-! ## One request -/

namespace ServiceCall

variable (c : ServiceCall)

/-- What a request relies on of the others. -/
def rely (t u : BusinessServices) : Prop := t.Grown c.serviceId u

/-- What a request commits: its row, which the constraints have let in. -/
def guar (t u : BusinessServices) : Prop := ∃ row, c.Offers row ∧ t.insert row = some u

/-- The rows when a request has been answered. -/
def Ended (o : Outcome BodyFault BusinessService) (t : BusinessServices) : Prop :=
  match serviceReply o with
  | .created row => c.Offers row ∧ row ∈ t.rows
  | .problem p => t.Unwritten c.serviceId ∧
      (p = duplicateServiceError → ∃ k, c.Asks k ∧ t.Holds k)
  | .error _ => t.Unwritten c.serviceId

variable {c}

theorem Ended.grown {o : Outcome BodyFault BusinessService} {t u : BusinessServices}
    (h : c.Ended o t) (hu : c.rely t u) : c.Ended o u := by
  unfold Ended at h ⊢
  split at h
  · exact ⟨h.1, hu.kept h.2⟩
  · refine ⟨hu.own h.1, fun hp => ?_⟩
    obtain ⟨k, hasks, hk⟩ := h.2 hp
    exact ⟨k, hasks, hu.holds hk⟩
  · exact hu.own h

omit [Python] in
theorem routed_eq_error {α : Type} {x : Except PyError α} {fault : BodyFault}
    (h : routed x = .error fault) : ∃ e, fault = .raised e := by
  cases x with
  | error e =>
      cases h
      exact ⟨e, rfl⟩
  | ok a => cases h

omit [Python] in
theorem routed_eq_ok {α : Type} {x : Except PyError α} {a : α} (h : routed x = .ok a) :
    x = .ok a := by
  cases x <;> cases h
  rfl

omit [Python] in
/-- A text that a statement compares a column with goes into it as it is. -/
theorem eq_of_routed_compared [Driver] {text value : String}
    (h : routed (accepted (Driver.compared (.str text))) = .ok value) : value = text :=
  Driver.eq_of_compared (accepted_eq_ok.1 (routed_eq_ok h))

/-- The commit, and what follows it. -/
theorem commit_wp {payload : BusinessServiceCreateRequest} {t : BusinessServices}
    (hpayload : c.payload = .ok payload)
    (hsync : t.Synced) (hfree : t.Unwritten c.serviceId) :
    (Program.commitAll >>= fun _ : Unit =>
      Program.lookup (fun t : BusinessServices => t.find? (c.service payload).id)
        (.raised .invalidRequestError)).Wp c.rely c.guar (fun o s => c.Ended o s.db)
      ⟨t, [], [c.service payload]⟩ := by
  have hoffers : c.Offers (c.service payload).sync := ⟨payload, hpayload, rfl⟩
  refine Program.wp_commitAll_bind (fun u hu hflush => ?_) fun u u' hu hflush => ?_
  · -- overtaken: the rows hold the key, and none is the request's own
    have hnone : u.insert (c.service payload).sync = none := by
      have happly := Option.bind_eq_none_iff.1 hflush
      cases hins : u.insert (c.service payload).sync with
      | none => rfl
      | some v => cases happly v hins
    exact ⟨hu.own hfree, fun _ => ⟨_, hoffers.asks,
      BusinessServices.holds_of_insert_eq_none (hu.synced hsync) (hu.own hfree) hnone⟩⟩
  · obtain ⟨v, hins, hv⟩ := Store.flush_cons hflush
    cases hv
    have hmem : (c.service payload).sync ∈ u'.rows := by
      simp [(BusinessServices.insert_eq_some.1 hins).2]
    have hfound : ∀ v, c.rely u' v → v.find? (c.service payload).id
        = some (c.service payload).sync :=
      fun v hv => Table.find?_key_of_mem (hv.kept hmem)
    refine ⟨⟨_, hoffers, hins⟩, Program.wp_lookup (fun v hv hnone => ?_) fun v row hv hrow => ?_⟩
    · cases (hfound v hv).symm.trans hnone
    · obtain rfl : row = (c.service payload).sync :=
        Option.some.inj (hrow.symm.trans (hfound v hv))
      exact ⟨hoffers, hv.kept hmem⟩

variable [Driver]

theorem addBusinessService_wp {payload : BusinessServiceCreateRequest} {t : BusinessServices}
    (hpayload : c.payload = .ok payload)
    (hsync : t.Synced) (hfree : t.Unwritten c.serviceId) :
    (addBusinessService c payload).Wp c.rely c.guar (fun o s => c.Ended o s.db)
      (Session.fresh t) := by
  unfold addBusinessService
  refine Program.wp_ofExcept_bind (fun fault h => ?_) fun org horg => ?_
  · obtain ⟨e, rfl⟩ := routed_eq_error h
    exact hfree
  obtain rfl := eq_of_routed_compared horg
  refine Program.wp_ofExcept_bind (fun fault h => ?_) fun key hkey => ?_
  · obtain ⟨e, rfl⟩ := routed_eq_error h
    exact hfree
  obtain rfl := eq_of_routed_compared hkey
  refine Program.wp_select_bind fun u hu => ?_
  refine Program.wp_ofExcept_bind (fun fault h => ?_) fun _ h => ?_
  · -- the lookup has found the key
    split_ifs at h with htaken
    cases h
    exact ⟨hu.own hfree, fun _ => ⟨_, ⟨payload, hpayload, rfl⟩,
      UniqueTable.isSome_byNatural.1 htaken⟩⟩
  refine Program.wp_add_bind (Program.wp_ofExcept_bind (fun fault h => ?_) fun _ _ => ?_)
  · obtain ⟨e, rfl⟩ := routed_eq_error h
    exact hu.own hfree
  · exact commit_wp hpayload (hu.synced hsync) (hu.own hfree)

omit [Driver] in
/-- Nor is a body that cannot be read. -/
theorem payload_ne : c.payload ≠ .error (.problem duplicateServiceError) := by
  intro h
  unfold payload at h
  cases hbody : c.body with
  | ok body =>
      rw [hbody] at h
      exact absurd h BusinessServiceCreateRequest.validate_ne
  | error e =>
      rw [hbody] at h
      cases h

theorem createBusinessService_wp {t : BusinessServices} (hsync : t.Synced)
    (hfree : t.Unwritten c.serviceId) :
    (createBusinessService c).Wp c.rely c.guar (fun o s => c.Ended o s.db) (Session.fresh t) := by
  refine Program.wp_ofExcept_bind (fun fault h => ?_) fun payload h => ?_
  · cases fault with
    | problem p =>
        refine ⟨hfree, fun hp => ?_⟩
        rw [hp] at h
        exact absurd h payload_ne
    | raised e => exact hfree
  · exact addBusinessService_wp h hsync hfree

end ServiceCall

/-! ## Any number of requests -/

/-- How the route has answered a request, if it has. -/
def Party.reply? (p : Party BusinessServices ServiceCall BodyFault BusinessService) :
    Option ServiceReply := p.outcome?.map serviceReply

/-- The services stored, and how the requests have been answered. -/
def serviceSummary (s : Parallel BusinessServices ServiceCall BodyFault BusinessService) :
    List BusinessService × List (Option ServiceReply) := (s.db.rows, s.parties.map Party.reply?)

/-- The requests of `calls`, in some interleaving. -/
def ServicesReached [Driver] (calls : List ServiceCall) (db : BusinessServices)
    (s : Parallel BusinessServices ServiceCall BodyFault BusinessService) : Prop :=
  (Parallel.start createBusinessService calls db).Reaches s

/-- What the requests have come to, from the rows `db`. -/
structure ServicesSettled (db : BusinessServices)
    (s : Parallel BusinessServices ServiceCall BodyFault BusinessService) : Prop where
  kept : db.rows ⊆ s.db.rows
  synced : s.db.Synced
  /-- A service that is answered is stored as its request asks. -/
  created : ∀ p ∈ s.parties, ∀ row, p.reply? = some (.created row) →
    p.call.Offers row ∧ row ∈ s.db.rows
  /-- A conflict is answered where the key is taken, and not by the request itself. -/
  conflict : ∀ p ∈ s.parties, p.reply? = some (.problem duplicateServiceError) →
    ∃ k, p.call.Asks k ∧ s.db.Holds k ∧ s.db.Unwritten p.call.serviceId
  /-- No two services that are answered have one key. -/
  once : ∀ (i j : ℕ) (p q : Party BusinessServices ServiceCall BodyFault BusinessService)
    (row row' : BusinessService), s.parties[i]? = some p → s.parties[j]? = some q →
    p.reply? = some (.created row) → q.reply? = some (.created row') →
    NaturalKey.natural row = NaturalKey.natural row' → i = j
  /-- A key that was free is taken for a request that is answered so. -/
  winner : ∀ k, ¬ db.Holds k → s.db.Holds k →
    (∀ p ∈ s.parties, p.call.Asks k → p.reply?.isSome = true) →
    ∃ p ∈ s.parties, ∃ row, p.reply? = some (.created row) ∧ NaturalKey.natural row = k

section Runs

variable [Driver] {calls : List ServiceCall} {db : BusinessServices}
  {s : Parallel BusinessServices ServiceCall BodyFault BusinessService}

/-- The requests draw ids that nobody has drawn. -/
structure ServiceCall.Drawn (calls : List ServiceCall) (db : BusinessServices) : Prop where
  nodup : (calls.map ServiceCall.serviceId).Nodup
  fresh : ∀ c ∈ calls, db.Unwritten c.serviceId

omit [Driver] in
theorem ServiceCall.guar_rely {c c' : ServiceCall} (hne : c.serviceId ≠ c'.serviceId)
    {t u : BusinessServices} (h : c.guar t u) : c'.rely t u := by
  obtain ⟨row, hoffers, hins⟩ := h
  obtain ⟨payload, hpayload, rfl⟩ := hoffers
  exact BusinessServices.grown_of_insert hins hne

theorem createBusinessService_outlined (hcalls : ServiceCall.Drawn calls db) (hsync : db.Synced) :
    Parallel.Outlined createBusinessService ServiceCall.rely ServiceCall.guar
      (fun c o s => c.Ended o s.db) calls db where
  refl := fun c => BusinessServices.Grown.refl c.serviceId
  trans := fun _ _ _ _ => BusinessServices.Grown.trans
  compatible := (List.pairwise_map.1 hcalls.nodup).imp fun hne =>
    ⟨fun _ _ => ServiceCall.guar_rely hne, fun _ _ => ServiceCall.guar_rely hne.symm⟩
  meets := fun c hc => ServiceCall.createBusinessService_wp hsync (hcalls.fresh c hc)

omit [Driver] in
/-- Rows that a chain of commits has led to are those it began with and what requests offer. -/
theorem rows_of_commits {t : BusinessServices} (hsync : db.Synced)
    (h : Relation.ReflTransGen (Parallel.Commits ServiceCall.guar calls) db t) :
    db.rows ⊆ t.rows ∧ t.Synced ∧
      ∀ row ∈ t.rows, row ∈ db.rows ∨ ∃ c ∈ calls, c.Offers row := by
  induction h with
  | refl => exact ⟨List.Subset.refl _, hsync, fun row hrow => .inl hrow⟩
  | @tail u v _ hcommit ih =>
      obtain ⟨hkept, hsynced, horigin⟩ := ih
      obtain ⟨c, hc, row, hoffers, hins⟩ := hcommit
      obtain ⟨-, hrows⟩ := BusinessServices.insert_eq_some.1 hins
      have hmem : ∀ r, r ∈ v.rows ↔ r ∈ u.rows ∨ r = row := by simp [hrows]
      refine ⟨fun r hr => (hmem r).2 (.inl (hkept hr)), fun r hr => ?_, fun r hr => ?_⟩
      · rcases (hmem r).1 hr with hr | rfl
        · exact hsynced r hr
        · obtain ⟨payload, -, rfl⟩ := hoffers
          rfl
      · rcases (hmem r).1 hr with hr | rfl
        · exact horigin r hr
        · exact .inr ⟨c, hc, hoffers⟩

section Reached

variable (hcalls : ServiceCall.Drawn calls db) (hsync : db.Synced) (hs : ServicesReached calls db s)

include hcalls hsync hs

/-- What was promised to a request that has been answered still holds of the rows. -/
theorem ended_of_reply {p : Party BusinessServices ServiceCall BodyFault BusinessService}
    (hp : p ∈ s.parties) {r : ServiceReply} (hr : p.reply? = some r) :
    ∃ o, serviceReply o = r ∧ p.call.Ended o s.db := by
  obtain ⟨o, ho, rfl⟩ := Option.map_eq_some_iff.1 hr
  obtain ⟨-, d, hd, hQ⟩ :=
    Parallel.ended (createBusinessService_outlined hcalls hsync) hs hp ho
  exact ⟨o, rfl, hQ.grown hd⟩

theorem created_of_reply {p : Party BusinessServices ServiceCall BodyFault BusinessService}
    (hp : p ∈ s.parties) {row : BusinessService} (hrow : p.reply? = some (.created row)) :
    p.call.Offers row ∧ row ∈ s.db.rows := by
  obtain ⟨o, ho, hQ⟩ := ended_of_reply hcalls hsync hs hp hrow
  simpa only [ServiceCall.Ended, ho] using hQ

/-- A request that is not answered with a service has stored none. -/
theorem unwritten_of_reply {p : Party BusinessServices ServiceCall BodyFault BusinessService}
    (hp : p ∈ s.parties) {r : ServiceReply} (hr : p.reply? = some r) :
    (∃ row, r = .created row) ∨ s.db.Unwritten p.call.serviceId := by
  obtain ⟨o, rfl, hQ⟩ := ended_of_reply hcalls hsync hs hp hr
  unfold ServiceCall.Ended at hQ
  split at hQ
  · next row hrow => exact .inl ⟨row, hrow⟩
  · exact .inr hQ.1
  · exact .inr hQ

theorem rows_of_reached : db.rows ⊆ s.db.rows ∧ s.db.Synced ∧
    ∀ row ∈ s.db.rows, row ∈ db.rows ∨ ∃ c ∈ calls, c.Offers row :=
  rows_of_commits hsync (Parallel.ready (createBusinessService_outlined hcalls hsync) hs).2

end Reached

/-- **Requests for services, in any interleaving.** What is answered as created is stored once for its
    key, a conflict is answered only where the key is taken, and of the requests for a key that was
    free one has created its service once all are answered. -/
theorem services_settled (hcalls : ServiceCall.Drawn calls db) (hsync : db.Synced)
    (hs : ServicesReached calls db s) : ServicesSettled db s := by
  have hnames : s.parties.map Party.call = calls :=
    (Parallel.Reaches.calls hs).trans (Parallel.start_calls _ _ _)
  obtain ⟨hkept, hsynced, horigin⟩ := rows_of_reached hcalls hsync hs
  refine ⟨hkept, hsynced, fun p hp row => created_of_reply hcalls hsync hs hp,
    fun p hp hconflict => ?_, ?_, fun k hfree hheld hall => ?_⟩
  · obtain ⟨o, ho, hQ⟩ := ended_of_reply hcalls hsync hs hp hconflict
    simp only [ServiceCall.Ended, ho] at hQ
    obtain ⟨k, hasks, hk⟩ := hQ.2 trivial
    exact ⟨k, hasks, hk, hQ.1⟩
  · intro i j p q row row' hi hj hrow hrow' hkey
    obtain ⟨hoffers, hmem⟩ :=
      created_of_reply hcalls hsync hs (List.mem_of_getElem? hi) hrow
    obtain ⟨hoffers', hmem'⟩ :=
      created_of_reply hcalls hsync hs (List.mem_of_getElem? hj) hrow'
    -- one key is one row, one row one id, and one id one request
    obtain rfl : row = row' := List.inj_on_of_nodup_map s.db.natural_nodup hmem hmem' hkey
    have hids : (s.parties.map fun p => p.call.serviceId).Nodup := by
      have hnodup := hcalls.nodup
      rw [← hnames, List.map_map] at hnodup
      exact hnodup
    have hlt : i < s.parties.length := (List.getElem?_eq_some_iff.1 hi).1
    refine (List.getElem?_inj (by simpa using hlt) hids).1 ?_
    rw [List.getElem?_map, List.getElem?_map, hi, hj]
    exact congrArg some (hoffers.id.symm.trans hoffers'.id)
  · obtain ⟨row, hrow, rfl⟩ := List.mem_map.1 hheld
    rcases horigin row hrow with hold | ⟨c, hc, hoffers⟩
    · exact absurd (List.mem_map_of_mem hold) hfree
    -- the request that has stored the row is answered, and not with a failure
    · rw [← hnames] at hc
      obtain ⟨p, hp, rfl⟩ := List.mem_map.1 hc
      obtain ⟨r, hr⟩ := Option.isSome_iff_exists.1 (hall p hp hoffers.asks)
      rcases unwritten_of_reply hcalls hsync hs hp hr with ⟨row', rfl⟩ | hnone
      · obtain ⟨hoffers', -⟩ := created_of_reply hcalls hsync hs hp hr
        exact ⟨p, hp, row', hr, hoffers'.asks.unique hoffers.asks⟩
      · exact absurd hoffers.id (hnone row hrow)

end Runs

end Races

/-! ## Two names that differ in case -/

def sampleServiceCall (name uuid : String) : ServiceCall where
  organizationId := "org-demo"
  body := .ok (.obj [("name", .str name), ("owner_team", .str "payments")])
  env := ⟨fun _ => 0, fun _ => uuid, none⟩

def BusinessServices.empty : BusinessServices := ⟨UniqueTable.empty, List.nodup_nil⟩

/-- Both look their key up before either commits. -/
def sampleServiceTurns : List ℕ := [0, 1, 0, 0, 0, 1, 1]

def sampleServiceCalls : List ServiceCall :=
  [sampleServiceCall " Pay" "a1", sampleServiceCall "PAY" "b2"]

/-- The service of the first request. -/
def samplePayService : BusinessService := ⟨"svc_a1", "org-demo", "Pay", "pay", "payments", none, 0, 0⟩

/-- The first request creates its service, and the second one is overtaken. -/
def sampleServiceSummary : List BusinessService × List (Option ServiceReply) :=
  ([samplePayService], [some (.created samplePayService), some (.problem duplicateServiceError)])

theorem sample_services_reached : ∃ s,
    @ServicesReached asciiPython sqliteDriver sampleServiceCalls .empty s ∧
    @serviceSummary asciiPython s = sampleServiceSummary := by
  let _ := asciiPython
  let _ := sqliteDriver
  have hturns : ((Parallel.start createBusinessService sampleServiceCalls .empty).runTurns
      sampleServiceTurns).any (fun s => serviceSummary s = sampleServiceSummary) = true := by
    decide +kernel
  obtain ⟨s, hs, hend⟩ := (Option.any_eq_true _ _).1 hturns
  exact ⟨s, Parallel.Reaches.of_runTurns _ hs, of_decide_eq_true hend⟩

theorem sample_services_drawn : ServiceCall.Drawn sampleServiceCalls .empty :=
  ⟨by decide +kernel, fun _ _ row hrow => by cases hrow⟩

theorem services_settled_overtaken : ∃ s,
    @ServicesReached asciiPython sqliteDriver sampleServiceCalls .empty s ∧
    @ServicesSettled asciiPython .empty s ∧
    @serviceSummary asciiPython s = sampleServiceSummary := by
  obtain ⟨s, hreached, hsummary⟩ := sample_services_reached
  exact ⟨s, hreached, @services_settled asciiPython sqliteDriver _ _ _ sample_services_drawn
    (fun row hrow => by cases hrow) hreached, hsummary⟩

end VulnOpsHub
