import VulnOpsHub.Workers.Checkpoints

set_option autoImplicit false

/-! # The package inventory of Wazuh

`WazuhClient.fetch` lists the agents of a manager and asks for the packages of each, one page of each
list. An agent whose request fails is skipped, and the poll is checkpointed like any other. -/

namespace VulnOpsHub

/-! ## The client -/

/-- The limit in both requests. -/
def inventoryLimit : ℕ := 500

/-- The HTTP client: the token, and the bodies of the answers. -/
structure WazuhHttp where
  token : Except PyError String
  agents : ℕ → Except PyError Json
  packages : String → ℕ → Except PyError Json

/-- `body["data"]["affected_items"]`. -/
def affectedItems (body : Json) : Except PyError Json :=
  body.index "data" >>= fun data => data.index "affected_items"

/-- What a `for` loop runs over. -/
def Json.iterated : Json → Except PyError (List Json)
  | .arr items => .ok items
  | .obj members => .ok (members.map fun member => .str member.1)
  | .str s => .ok (s.toList.map fun c => .str (String.singleton c))
  | _ => .error .typeError

/-- A record of the poll. -/
def inventoryEvent (agent package : Json) : Json := .obj [("agent", agent), ("package", package)]

section Client

variable [Python]

/-- The id of an agent in the path of its request; `None` is no id. -/
def pathId : Json → Option String
  | .null => none
  | id => some (pyStr id)

/-- The records of one agent: none without an id, and none when its request fails. -/
def agentEvents (http : WazuhHttp) (agent : Json) : Except PyError (List Json) := do
  let id ← agent.get "id"
  (pathId id).elim (.ok []) fun id =>
    match http.packages id inventoryLimit >>= affectedItems with
    | .error _ => .ok []
    | .ok packages => packages.iterated.map fun items => items.map (inventoryEvent agent)

/-- `WazuhClient.fetch`. -/
def fetchInventory (http : WazuhHttp) : Except PyError (List Json × Option String) := do
  let _ ← http.token
  let listed ← http.agents inventoryLimit >>= affectedItems
  let agents ← listed.iterated
  let events ← agents.mapM (agentEvents http)
  pure (events.flatten, none)

/-! ## Managers -/

/-- An agent, as a manager lists it. -/
structure WazuhAgent where
  members : List (String × Json)

def WazuhAgent.raw (a : WazuhAgent) : Json := .obj a.members

/-- The id of the agent, if it has one. -/
def WazuhAgent.idText (a : WazuhAgent) : Option String :=
  pathId ((a.members.lookup "id").getD .null)

/-- What a manager knows: its agents, and the packages of the agent with an id. -/
structure WazuhManager where
  agents : List WazuhAgent
  packages : String → List Json

/-- How a manager serves a poll: in pages of at most the limit, some requests failing. -/
structure WazuhService where
  agentPage : ℕ → ℕ
  agentPage_le : ∀ limit, agentPage limit ≤ limit
  packagePage : String → ℕ → ℕ
  packagePage_le : ∀ id limit, packagePage id limit ≤ limit
  failure : String → Option PyError

/-- The client is answered so. -/
structure WazuhService.Serves (svc : WazuhService) (m : WazuhManager) (http : WazuhHttp) : Prop where
  agents : ∀ limit listed, http.agents limit >>= affectedItems = .ok listed →
    listed = .arr ((m.agents.take (svc.agentPage limit)).map WazuhAgent.raw)
  packages : ∀ id limit, http.packages id limit >>= affectedItems =
    (svc.failure id).elim (.ok (.arr ((m.packages id).take (svc.packagePage id limit)))) .error

/-- The packages of an agent that has an id, as records. -/
def WazuhManager.inventoryOf (m : WazuhManager) (a : WazuhAgent) : List Json :=
  a.idText.elim [] fun id => (m.packages id).map (inventoryEvent a.raw)

/-- The whole inventory. -/
def WazuhManager.inventory (m : WazuhManager) : List Json := m.agents.flatMap m.inventoryOf

/-- What a poll gets of it. -/
def WazuhService.servedOf (svc : WazuhService) (m : WazuhManager) (a : WazuhAgent) : List Json :=
  a.idText.elim [] fun id => (svc.failure id).elim
    (((m.packages id).take (svc.packagePage id inventoryLimit)).map (inventoryEvent a.raw))
    fun _ => []

/-- Every agent that has an id and packages is on the page of agents, its request succeeds, and its
    packages fit on one page. -/
structure WazuhService.ServesWhole (svc : WazuhService) (m : WazuhManager) : Prop where
  agents : ∀ a ∈ m.agents.drop (svc.agentPage inventoryLimit), ∀ id, a.idText = some id →
    m.packages id = []
  packages : ∀ a ∈ m.agents.take (svc.agentPage inventoryLimit), ∀ id, a.idText = some id →
    m.packages id ≠ [] →
    svc.failure id = none ∧ (m.packages id).length ≤ svc.packagePage id inventoryLimit

variable {svc : WazuhService} {m : WazuhManager} {http : WazuhHttp}

theorem agentEvents_served (h : svc.Serves m http) (a : WazuhAgent) :
    agentEvents http a.raw = .ok (svc.servedOf m a) := by
  have hid : agentEvents http a.raw = a.idText.elim (.ok []) fun id =>
      match http.packages id inventoryLimit >>= affectedItems with
      | .error _ => .ok []
      | .ok packages => packages.iterated.map fun items => items.map (inventoryEvent a.raw) := rfl
  rw [hid, WazuhService.servedOf]
  cases a.idText with
  | none => rfl
  | some id =>
      simp only [Option.elim_some, h.packages]
      cases svc.failure id <;> rfl

/-- **What a fetch returns**, when it returns. -/
theorem fetchInventory_served (h : svc.Serves m http) {records : List Json} {next : Option String}
    (hfetch : fetchInventory http = .ok (records, next)) :
    records = (m.agents.take (svc.agentPage inventoryLimit)).flatMap (svc.servedOf m) := by
  unfold fetchInventory at hfetch
  simp only [except_bind_eq_ok] at hfetch
  obtain ⟨token, -, listed, hlisted, agents, hagents, events, hevents, hreturned⟩ := hfetch
  have hall : ∀ as : List WazuhAgent,
      (as.map WazuhAgent.raw).mapM (agentEvents http) = .ok (as.map (svc.servedOf m)) := by
    intro as
    induction as with
    | nil => rfl
    | cons a as ih =>
        rw [List.map_cons, List.mapM_cons, agentEvents_served h, ih]
        rfl
  obtain rfl := h.agents _ _ (except_bind_eq_ok.2 hlisted)
  obtain rfl := Except.ok.inj hagents
  obtain rfl := Except.ok.inj ((hall _).symm.trans hevents)
  rw [List.flatMap_def]
  exact (Prod.mk.inj (Except.ok.inj hreturned)).1.symm

theorem servedOf_sublist (svc : WazuhService) (m : WazuhManager) (a : WazuhAgent) :
    (svc.servedOf m a).Sublist (m.inventoryOf a) := by
  unfold WazuhService.servedOf WazuhManager.inventoryOf
  cases a.idText with
  | none => exact .slnil
  | some id =>
      cases hfailure : svc.failure id with
      | some e => simp [hfailure]
      | none =>
          simp only [Option.elim_some, hfailure, Option.elim_none]
          exact (List.take_sublist _ _).map _

theorem servedOf_eq_iff (a : WazuhAgent) : svc.servedOf m a = m.inventoryOf a ↔
    ∀ id, a.idText = some id → m.packages id ≠ [] →
      svc.failure id = none ∧ (m.packages id).length ≤ svc.packagePage id inventoryLimit := by
  unfold WazuhService.servedOf WazuhManager.inventoryOf
  cases a.idText with
  | none => simp
  | some id =>
      cases hfailure : svc.failure id with
      | some e =>
          simp only [Option.elim_some, hfailure, Option.some.injEq, forall_eq']
          rw [eq_comm, List.map_eq_nil_iff]
          simp
      | none =>
          simp only [Option.elim_some, hfailure, Option.elim_none, Option.some.injEq, forall_eq',
            true_and]
          constructor
          · intro heq _
            have hlength := congrArg List.length heq
            simp only [List.length_map, List.length_take] at hlength
            omega
          · intro h
            by_cases hempty : m.packages id = []
            · simp [hempty]
            · rw [List.take_of_length_le (h hempty)]

/-! ## Polls -/

/-- The cycle has checkpointed the source as fresh. -/
def ReportsFresh (source : String) (cycle : Except PyError ℕ × PollState) : Prop :=
  (∃ n, cycle.1 = .ok n) ∧ (cycle.2.statuses source).any (·.freshness = "fresh") = true

/-- The payloads of the jobs that have been queued since. -/
def PollState.queuedSince (s s' : PollState) : List Json :=
  (s'.queue.drop s.queue.length).map Job.payload

variable {env : PollEnv} {source : String} {s : PollState} {enqueued : EnqueueOutcome}

omit [Python] in
theorem checkpoint_fresh_iff (freshness : String) (cursor error : Option String) :
    ((s.checkpoint env source freshness cursor error).statuses source).any
      (·.freshness = "fresh") = true ↔ freshness = "fresh" := by
  unfold PollState.checkpoint
  by_cases h : freshness = "fresh"
  · simp [h]
  · simp [h]

/-- A job carries the record it was made for. -/
theorem payloads_of_jobs {records : List Json} {jobs : List Job} {organizationId : String}
    (h : records.mapM (fun record => jobOf source record organizationId) = .ok jobs) :
    jobs.map Job.payload = records := by
  have hpairs := mapM_eq_ok_iff.1 h
  clear h
  induction hpairs with
  | nil => rfl
  | cons hjob _ ih =>
      rw [List.map_cons, ih]
      simp only [jobOf, except_bind_eq_ok] at hjob
      obtain ⟨id, -, natural, -, hjob⟩ := hjob
      obtain rfl := Except.ok.inj hjob
      rfl

/-- The jobs of a cycle that reports the source as fresh are those for the records it fetched. -/
theorem queuedSince_of_fresh {fetched : Except PyError (List Json × Option String)}
    (h : ReportsFresh source (pollSource env source fetched enqueued s)) :
    ∃ next, fetched = .ok (s.queuedSince (pollSource env source fetched enqueued s).2, next) := by
  obtain ⟨⟨n, hn⟩, hfresh⟩ := h
  cases fetched with
  | error e =>
      have hstale := (checkpoint_fresh_iff _ _ _).1 hfresh
      simp at hstale
  | ok answer =>
      obtain ⟨records, next⟩ := answer
      unfold pollSource at hn hfresh ⊢
      cases hjobs : records.mapM fun record => jobOf source record env.organizationId with
      | error e =>
          simp only [hjobs] at hn
          cases hn
      | ok jobs =>
          simp only [hjobs] at hfresh ⊢
          cases enqueued with
          | raised pushed e =>
              have hstale := (checkpoint_fresh_iff _ _ _).1 hfresh
              simp at hstale
          | returned =>
              refine ⟨next, ?_⟩
              simp [PollState.queuedSince, PollState.checkpoint, EnqueueOutcome.pushed,
                payloads_of_jobs hjobs]

/-- **When a fresh poll is complete**: everything that the manager knows of was on the pages served. -/
theorem freshPoll_complete_iff (hserves : svc.Serves m http)
    (hfresh : ReportsFresh "wazuh" (pollSource env "wazuh" (fetchInventory http) enqueued s)) :
    m.inventory.Subperm
        (s.queuedSince (pollSource env "wazuh" (fetchInventory http) enqueued s).2) ↔
      svc.ServesWhole m := by
  obtain ⟨next, hfetch⟩ := queuedSince_of_fresh hfresh
  rw [fetchInventory_served hserves hfetch]
  have hsplit := subperm_served_iff (servedOf_sublist svc m)
    (m.agents.take (svc.agentPage inventoryLimit)) (m.agents.drop (svc.agentPage inventoryLimit))
  rw [List.take_append_drop] at hsplit
  refine hsplit.trans ⟨fun ⟨hwhole, hempty⟩ => ⟨?_, ?_⟩, fun h => ⟨?_, ?_⟩⟩
  · intro a ha id hid
    have hnone := hempty a ha
    rw [WazuhManager.inventoryOf, hid] at hnone
    simpa using hnone
  · exact fun a ha => (servedOf_eq_iff a).1 (hwhole a ha)
  · exact fun a ha => (servedOf_eq_iff a).2 (h.packages a ha)
  · intro a ha
    rw [WazuhManager.inventoryOf]
    cases hid : a.idText with
    | none => rfl
    | some id => simp [h.agents a ha id hid]

end Client

/-! ## Samples -/

/-- A manager with one agent, which has one package. -/
def sampleManager : WazuhManager where
  agents := [⟨[("id", .str "001")]⟩]
  packages := fun _ => [.obj [("name", .str "openssl"), ("version", .str "3.0.2")]]

/-- Full pages; the requests for packages fail so. -/
def sampleService (failure : Option PyError) : WazuhService where
  agentPage := id
  agentPage_le := fun _ => le_rfl
  packagePage := fun _ limit => limit
  packagePage_le := fun _ _ => le_rfl
  failure := fun _ => failure

def itemsBody (items : List Json) : Json := .obj [("data", .obj [("affected_items", .arr items)])]

/-- The client of a manager that is served so. -/
def sampleHttp (svc : WazuhService) (m : WazuhManager) : WazuhHttp where
  token := .ok "token"
  agents := fun limit => .ok (itemsBody ((m.agents.take (svc.agentPage limit)).map WazuhAgent.raw))
  packages := fun id limit => (svc.failure id).elim
    (.ok (itemsBody ((m.packages id).take (svc.packagePage id limit)))) .error

theorem sampleHttp_serves (svc : WazuhService) (m : WazuhManager) :
    svc.Serves m (sampleHttp svc m) where
  agents := fun limit listed h => (Except.ok.inj h).symm
  packages := fun id limit => by
    show (svc.failure id).elim _ _ >>= affectedItems = _
    cases svc.failure id <;> rfl

/-- The request for the packages times out, and the source is reported as fresh. -/
theorem freshPoll_incomplete : ¬ ∀ (_ : Python) (env : PollEnv) (s : PollState) (m : WazuhManager)
    (svc : WazuhService) (http : WazuhHttp) (enqueued : EnqueueOutcome), svc.Serves m http →
    ReportsFresh "wazuh" (pollSource env "wazuh" (fetchInventory http) enqueued s) →
    m.inventory.Subperm
      (s.queuedSince (pollSource env "wazuh" (fetchInventory http) enqueued s).2) := by
  intro h
  have hcomplete := h asciiPython samplePollEnv ⟨fun _ => none, []⟩ sampleManager
    (sampleService (some (.runtimeError "timed out"))) _ .returned (sampleHttp_serves _ _)
    ⟨⟨0, rfl⟩, rfl⟩
  have hlength := hcomplete.length_le
  revert hlength
  decide +kernel

/-- Five agents, one of them without an id; two have packages. -/
def sampleFleet : WazuhManager where
  agents := [⟨[("id", .str "001")]⟩, ⟨[("name", .str "unenrolled")]⟩, ⟨[("id", .str "002")]⟩,
    ⟨[("id", .str "003")]⟩, ⟨[("id", .str "004")]⟩]
  packages := fun id =>
    if id = "001" then
      [.obj [("name", .str "openssl"), ("version", .str "3.0.2")],
        .obj [("name", .str "bash"), ("version", .str "5.1")]]
    else if id = "003" then [.obj [("name", .str "openssl"), ("version", .str "3.0.2")]]
    else []

/-- The first four agents are on the page, and the request for the packages of one fails. -/
def sampleFleetService : WazuhService where
  agentPage := fun limit => min limit 4
  agentPage_le := fun limit => min_le_left limit 4
  packagePage := fun _ limit => limit
  packagePage_le := fun _ _ => le_rfl
  failure := fun id => if id = "002" then some (.runtimeError "timed out") else none

/-- What is left out of the pages has no packages, so every package has its job. -/
theorem freshPoll_complete_iff_fleet :
    (@WazuhManager.inventory asciiPython sampleFleet).length = 3 ∧
    (@WazuhManager.inventory asciiPython sampleFleet).Subperm
      (PollState.queuedSince ⟨fun _ => none, []⟩
        (@pollSource asciiPython samplePollEnv "wazuh"
          (@fetchInventory asciiPython (sampleHttp sampleFleetService sampleFleet))
          .returned ⟨fun _ => none, []⟩).2) := by
  let _ := asciiPython
  refine ⟨by decide +kernel, (freshPoll_complete_iff (sampleHttp_serves sampleFleetService sampleFleet)
    ⟨⟨3, rfl⟩, rfl⟩).2 ⟨fun a ha id hid => ?_, fun a _ id _ hpackages => ⟨?_, ?_⟩⟩⟩
  · obtain rfl := List.mem_singleton.1 (ha : a ∈ [⟨[("id", .str "004")]⟩])
    obtain rfl := Option.some.inj hid
    rfl
  · refine if_neg fun hid => hpackages ?_
    rw [hid]
    rfl
  · show (sampleFleet.packages id).length ≤ inventoryLimit
    unfold sampleFleet
    dsimp only
    split_ifs <;> decide

end VulnOpsHub
