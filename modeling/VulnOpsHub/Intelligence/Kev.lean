import VulnOpsHub.Intelligence.Enrichment
import VulnOpsHub.Intelligence.Persistence

set_option autoImplicit false

/-! # Refreshing the KEV catalogue

`intelligence/kev.py`, `is_kev_persisted`, `upsert_source_health` and `refresh_kev_catalog` of
`intelligence/persistence.py`, and the two callers that commit a refresh: the refresh worker and the
orchestrator. A refresh replaces the catalogue in memory and upserts its entries. -/

namespace VulnOpsHub

namespace Intel

variable {Content : Type}

/-! ## The catalogue -/

/-- An entry of the feed, with the members that are read and the whole of it. -/
structure KevEntry (Content : Type) where
  cveId : Option String
  dueDate : Option String
  shortDescription : Option String
  document : Content

/-- What the request for the feed gives. -/
inductive KevReply (Content : Type) where
  | failed (text : String)
  /-- No object with `vulnerabilities`. -/
  | invalid
  | entries (vulnerabilities : List (KevEntry Content))

/-- The ids of the entries that have one. -/
def KevReply.ids : KevReply Content → List String
  | .entries vulnerabilities => vulnerabilities.filterMap (·.cveId)
  | _ => []

/-- The adapter: its `_catalog`, a `dict` in insertion order, and its `_status`. -/
structure KevFeed (Content : Type) where
  catalog : Option (List (String × KevEntry Content))
  status : SourceHealth

namespace KevFeed

def start : KevFeed Content where
  catalog := none
  status :=
    { source := "kev", lastSuccessAt := none, lastCheckedAt := none, freshness := .unknown }

def baseUrl : String :=
  "https://www.cisa.gov/sites/default/files/feeds/known_exploited_vulnerabilities.json"

/-- What `is_kev` looks at. -/
def adapter (feed : KevFeed Content) : KEVAdapter := ⟨feed.catalog.map (·.map Prod.fst)⟩

/-- `catalog[cve_id] = entry`. -/
def setEntry (catalog : List (String × KevEntry Content)) (cveId : String)
    (entry : KevEntry Content) : List (String × KevEntry Content) :=
  if cveId ∈ catalog.map Prod.fst then
    catalog.map fun item => if item.1 = cveId then (cveId, entry) else item
  else catalog ++ [(cveId, entry)]

/-- `{v["cveID"]: v for v in vulnerabilities if "cveID" in v}`. -/
def catalogOf (vulnerabilities : List (KevEntry Content)) : List (String × KevEntry Content) :=
  vulnerabilities.foldl
    (fun catalog entry => entry.cveId.elim catalog fun cveId => setEntry catalog cveId entry) []

/-- The status after a fetch that raises `text`. -/
def failedStatus (now : Datetime) (freshness : Freshness) (text : String) (status : SourceHealth) :
    SourceHealth :=
  { status with lastCheckedAt := some now, freshness := freshness, error := some text }

/-- `fetch_catalog`; `false` when it raises. -/
def fetchCatalog (now : Datetime) (reply : KevReply Content) (feed : KevFeed Content) :
    Bool × KevFeed Content :=
  match reply with
  | .failed text =>
      (false, { feed with
        status := failedStatus now .stale (String.ofList (text.toList.take 512)) feed.status })
  | .invalid =>
      (false, { feed with
        status := failedStatus now .degraded "missing vulnerabilities" feed.status })
  | .entries vulnerabilities =>
      (true,
        { catalog := some (catalogOf vulnerabilities)
          status :=
            { feed.status with
              lastSuccessAt := some now
              lastCheckedAt := some now
              freshness := .fresh
              error := none } })

/-- The record of an entry. -/
def recordOf (now : Datetime) (cveId : String) (entry : KevEntry Content) :
    AdvisoryRecord Content where
  vulnerabilityId := cveId
  source := "kev"
  retrievedAt := some now
  sourceUrl := some baseUrl
  kev := some true
  kevDueDate := entry.dueDate
  content := some entry.document
  description := entry.shortDescription

/-- `get_record`. -/
def getRecord (now : Datetime) (feed : KevFeed Content) (cveId : String) :
    Option (AdvisoryRecord Content) :=
  ((feed.catalog.getD []).find? fun item => item.1 = cveId).map fun item =>
    recordOf now cveId item.2

/-- The records of the catalogue, in its order. -/
def records (now : Datetime) (feed : KevFeed Content) : List (AdvisoryRecord Content) :=
  ((feed.catalog.getD []).map Prod.fst).filterMap (getRecord now feed)

end KevFeed

/-- `is_kev_persisted`. -/
def isKevPersisted (db : IntelDb Content) (cveId : String) : Bool :=
  db.assertions.rows.any fun row =>
    row.vulnerabilityId = cveId ∧ row.source = "kev" ∧ row.kev = some true

/-! ## Source health -/

/-- A row with the attributes that the constructor sets; the others have their defaults. -/
def newStatus (id source scope : String) : SourceStatus where
  id := id
  source := source
  scope := scope
  lastSuccessAt := none
  lastCheckedAt := none
  lastError := none
  freshness := .fresh
  cursor := none
  enabled := true

/-- The attributes that a report of health sets. -/
def applyHealth (now : Datetime) (health : SourceHealth) : RowPatch SourceStatus where
  apply := fun row =>
    { row with
      lastCheckedAt := some (health.lastCheckedAt.getD now)
      freshness := health.freshness
      lastError := health.error
      enabled := health.enabled
      lastSuccessAt := if health.freshness = .fresh
        then some (health.lastSuccessAt.getD (health.lastCheckedAt.getD now)) else row.lastSuccessAt
      cursor := health.cursor.or row.cursor }
  key_apply := fun _ => rfl

/-- `upsert_source_health` for all scopes; `uuid` is the uuid a new row gets. -/
def upsertSourceHealth (now : Datetime) (health : SourceHealth) (uuid : String)
    (s : IntelSession Content) : IntelSession Content :=
  match s.flushed.statuses.byNatural (health.source, "global") with
  | none =>
      let id := "src_" ++ health.source ++ "_" ++ uuid
      s.add (.insertStatus ((applyHealth now health).apply (newStatus id health.source "global")))
  | some row => s.change fun db =>
      { db with statuses := db.statuses.update row.id (applyHealth now health) fun _ => rfl }

/-! ## Refreshes -/

/-- What a refresh reads: the clock, the feed and a uuid. -/
structure RefreshCall (Content : Type) where
  now : Datetime
  reply : KevReply Content
  uuid : String

structure KevState (Content : Type) where
  feed : KevFeed Content
  db : IntelDb Content

section Refreshes

variable [Sha256]

/-- `refresh_kev_catalog` on a session of its own: the adapter afterwards, and the session unless
    something raises. -/
def refreshKevCatalog (call : RefreshCall Content) (st : KevState Content) :
    KevFeed Content × Option (IntelSession Content) :=
  match KevFeed.fetchCatalog call.now call.reply st.feed with
  | (false, feed) => (feed, none)
  | (true, feed) =>
      (feed, (upsertAdvisoryRecords call.now (feed.records call.now) (.start st.db)).map fun r =>
        upsertSourceHealth call.now feed.status call.uuid r.1)

/-- The refresh and its commit: the adapter afterwards, and the rows unless something raises. -/
def refreshAndCommit (call : RefreshCall Content) (st : KevState Content) :
    KevFeed Content × Option (IntelDb Content) :=
  let (feed, session) := refreshKevCatalog call st
  (feed, (session.bind fun s => s.commit IntelWrite.apply).map (·.committed))

/-- What the orchestrator does after a refresh that raised and was rolled back. -/
def recordFailure (now : Datetime) (feed : KevFeed Content) (uuid : String)
    (db : IntelDb Content) : IntelDb Content :=
  match (upsertSourceHealth now feed.status uuid (.start db)).commit IntelWrite.apply with
  | none => db
  | some s => s.committed

/-- A refresh by the worker or by the orchestrator, or a restart of the process. -/
inductive KevStep (Content : Type) where
  | refresh (call : RefreshCall Content)
  | orchestratedRefresh (call : RefreshCall Content) (failureUuid : String)
  | restart

/-- One step, and whether it was a refresh that succeeded. -/
def KevStep.apply (step : KevStep Content) (st : KevState Content) : KevState Content × Bool :=
  match step with
  | .refresh call =>
      match refreshAndCommit call st with
      | (feed, none) => (⟨feed, st.db⟩, false)
      | (feed, some db) => (⟨feed, db⟩, true)
  | .orchestratedRefresh call failureUuid =>
      match refreshAndCommit call st with
      | (feed, none) => (⟨feed, recordFailure call.now feed failureUuid st.db⟩, false)
      | (feed, some db) => (⟨feed, db⟩, true)
  | .restart => (⟨.start, st.db⟩, false)

/-- The CVE ids of the catalogue that a step reads. -/
def KevStep.ids : KevStep Content → List String
  | .refresh call => call.reply.ids
  | .orchestratedRefresh call _ => call.reply.ids
  | .restart => []

/-- The ids that the successful refreshes of a run have read, and the state after it. -/
def runKev (steps : List (KevStep Content)) (st : KevState Content) :
    KevState Content × List String :=
  steps.foldl
    (fun r step =>
      let (st, succeeded) := step.apply r.1
      (st, if succeeded then r.2 ++ step.ids else r.2)) (st, [])

end Refreshes

end Intel

end VulnOpsHub
