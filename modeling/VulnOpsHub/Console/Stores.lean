import VulnOpsHub.Lib.Awaits
import Mathlib.Algebra.Ring.Int.Defs
import Mathlib.Data.Int.Basic

set_option autoImplicit false

/-! # The stores of the console

`stores/cases.ts`, `caseDetail.ts`, `dashboard.ts` and `sbomHistory.ts`: their actions as routines, with
the requests they send. `clear` is called when the session of the user ends. Each store is modelled
beside `org`, the field of the organization store that its actions read.

`Promise.all` is one `await`: the function goes on when all responses are there, or one request failed.
A rejected promise leaves the function, by way of its `finally`. -/

namespace VulnOpsHub.Console

/-! ## Requests -/

/-- What the stores use of a case. -/
structure CaseDetail where
  id : String
  version : ℤ
  createdAt : Option String
  updatedAt : Option String
  dueAt : Option String
deriving DecidableEq, Repr

/-- A status a case can go to. `caseId` is a ghost: the case of the response it comes from. -/
structure Target where
  name : String
  caseId : String
deriving DecidableEq, Repr

structure RiskDecisionItem where
  id : String
  caseId : String
deriving DecidableEq, Repr

structure VerificationItem where
  id : String
  caseId : String
deriving DecidableEq, Repr

/-- The calls of `apiClient` that the stores and the SBOM page make. A query is the list of its
    parameters, a body the text of its JSON. -/
inductive Request where
  | listCases (org : String) (query : List (String × String))
  | getCase (org caseId : String)
  | getAllowed (org caseId : String)
  | listRiskDecisions (org caseId : String)
  | listVerifications (org caseId : String)
  | transition (org caseId : String) (version : ℤ) (target : String) (reason : Option String)
  | createRiskDecision (org caseId payload : String)
  | submitVerification (org caseId payload : String)
  | submitSbom (org body idempotencyKey : String)
deriving DecidableEq, Repr

/-- What the stores use of the responses. -/
inductive Answer where
  | caseList (items : List CaseDetail) (total : ℤ)
  | caseDetail (detail : CaseDetail)
  | allowed (targets : List Target)
  | decisions (items : List RiskDecisionItem)
  | verifications (items : List VerificationItem)
  | done
  | sbom (id sha : String)
deriving DecidableEq, Repr

/-- The response has the type of the call. -/
def Request.typed : Request → Answer → Bool
  | .listCases _ _, .caseList _ _ => true
  | .getCase _ _, .caseDetail _ => true
  | .getAllowed _ _, .allowed _ => true
  | .listRiskDecisions _ _, .decisions _ => true
  | .listVerifications _ _, .verifications _ => true
  | .transition _ _ _ _ _, .done => true
  | .createRiskDecision _ _ _, .done => true
  | .submitVerification _ _ _, .done => true
  | .submitSbom _ _ _, .sbom _ _ => true
  | _, _ => false

def Answer.total : Answer → ℤ
  | .caseList _ total => total
  | _ => 0

/-- A part of an action. -/
abbrev Script (σ : Type) := Routine σ Request Answer

section Guards

variable {σ : Type} (gen : σ → ℕ)

/-- `if (generation !== this.generation) return`, where `stop` is what `finally` does then. -/
def unlessCleared (generation : ℕ) (k stop : Script σ) : Script σ :=
  .look fun s => if generation ≠ gen s then stop else k

/-- `finally`, where `loaded` sets `loading` to false. -/
def finish (loaded : σ → σ) (generation : ℕ) : Script σ :=
  .look fun s => if generation = gen s then .set loaded .done else .done

end Guards

/-! ## Cases -/

structure Filters where
  status : String
  priority : String
  ownerTeam : String
  slaBreached : Bool
deriving DecidableEq, Repr

def noFilters : Filters := ⟨"", "", "", false⟩

structure CasesStore where
  org : String
  items : List CaseDetail
  total : ℤ
  page : ℕ
  pageSize : ℕ
  sort : String
  loading : Bool
  generation : ℕ
  filters : Filters
deriving DecidableEq, Repr

namespace CasesStore

/-- The state of a new store, with the organization and the generation that a clear keeps. -/
def initial (org : String) (generation : ℕ) : CasesStore where
  org := org
  items := []
  total := 0
  page := 1
  pageSize := 20
  sort := "-created_at"
  loading := false
  generation := generation
  filters := noFilters

def clear (s : CasesStore) : CasesStore :=
  { s with
    items := []
    total := 0
    page := 1
    pageSize := 20
    sort := "-created_at"
    loading := false
    filters := noFilters
    generation := s.generation + 1 }

def query (s : CasesStore) : List (String × String) :=
  (if s.filters.status = "" then [] else [("status", s.filters.status)])
    ++ (if s.filters.priority = "" then [] else [("priority", s.filters.priority)])
    ++ (if s.filters.ownerTeam = "" then [] else [("owner_team", s.filters.ownerTeam)])
    ++ (if s.filters.slaBreached then [("sla_breached", "true")] else [])
    ++ [("page", toString s.page), ("page_size", toString s.pageSize), ("sort", s.sort)]

/-- `this.items = data.items`, and the total. -/
def install (answers : List Answer) (s : CasesStore) : CasesStore :=
  match answers with
  | [.caseList items total] => { s with items := items, total := total }
  | _ => s

theorem install_generation (answers : List Answer) (s : CasesStore) :
    (install answers s).generation = s.generation := by
  unfold install
  split <;> rfl

def fetch : Script CasesStore :=
  .look fun s =>
    let generation := s.generation
    let finally' := finish CasesStore.generation (fun s => { s with loading := false }) generation
    .set (fun s => { s with loading := true }) <| .look fun s =>
      .await [.listCases s.org s.query]
        (fun answers => unlessCleared CasesStore.generation generation
          (.set (install answers) finally') finally')
        finally'

end CasesStore

structure CaseDetailStore where
  org : String
  detail : Option CaseDetail
  allowed : List Target
  decisions : List RiskDecisionItem
  verifications : List VerificationItem
  loading : Bool
  generation : ℕ
deriving DecidableEq, Repr

namespace CaseDetailStore

/-- The state of a new store, with the organization and the generation that a clear keeps. -/
def initial (org : String) (generation : ℕ) : CaseDetailStore :=
  ⟨org, none, [], [], [], false, generation⟩

def clear (s : CaseDetailStore) : CaseDetailStore :=
  { s with
    detail := none
    allowed := []
    decisions := []
    verifications := []
    loading := false
    generation := s.generation + 1 }

def install (answers : List Answer) (s : CaseDetailStore) : CaseDetailStore :=
  match answers with
  | [.caseDetail detail, .allowed allowed, .decisions decisions, .verifications verifications] =>
      { s with
        detail := some detail
        allowed := allowed
        decisions := decisions
        verifications := verifications }
  | _ => s

theorem install_generation (answers : List Answer) (s : CaseDetailStore) :
    (install answers s).generation = s.generation := by
  unfold install
  split <;> rfl

/-- The requests of `fetchAll`. -/
def caseRequests (org caseId : String) : List Request :=
  [.getCase org caseId, .getAllowed org caseId, .listRiskDecisions org caseId,
    .listVerifications org caseId]

def fetchAll (caseId : String) : Script CaseDetailStore :=
  .look fun s =>
    let generation := s.generation
    let finally' :=
      finish CaseDetailStore.generation (fun s => { s with loading := false }) generation
    .set (fun s => { s with loading := true }) <| .look fun s =>
      .await (caseRequests s.org caseId)
        (fun answers => unlessCleared CaseDetailStore.generation generation
          (.set (install answers) finally') finally')
        finally'

def refresh : Script CaseDetailStore :=
  .look fun s =>
    match s.detail with
    | some detail => fetchAll detail.id
    | none => .done

/-- `transition`, `decide` and `verify`: send a request about the case in the store, and then fetch this
    case again. -/
def act (request : String → CaseDetail → Request) : Script CaseDetailStore :=
  .look fun s =>
    let generation := s.generation
    let org := s.org
    match s.detail with
    | none => .done
    | some detail =>
        .await [request org detail]
          (fun _ => unlessCleared CaseDetailStore.generation generation (fetchAll detail.id) .done)
          .done

def transition (target : String) (reason : Option String) : Script CaseDetailStore :=
  act fun org detail => .transition org detail.id detail.version target reason

def decide (payload : String) : Script CaseDetailStore :=
  act fun org detail => .createRiskDecision org detail.id payload

def verify (payload : String) : Script CaseDetailStore :=
  act fun org detail => .submitVerification org detail.id payload

end CaseDetailStore

inductive CaseDetailAction where
  | clear
  | fetchAll (caseId : String)
  | refresh
  | transition (target : String) (reason : Option String)
  | decide (payload : String)
  | verify (payload : String)
  | setOrg (org : String)
deriving DecidableEq, Repr

/-- The actions, when the responses are such as `fits` says. -/
def caseDetailActions (fits : Request → Answer → Bool) :
    Actions CaseDetailAction CaseDetailStore Request Answer where
  body
    | .clear => .set CaseDetailStore.clear .done
    | .fetchAll caseId => CaseDetailStore.fetchAll caseId
    | .refresh => CaseDetailStore.refresh
    | .transition target reason => CaseDetailStore.transition target reason
    | .decide payload => CaseDetailStore.decide payload
    | .verify payload => CaseDetailStore.verify payload
    | .setOrg org => .set (fun s => { s with org := org }) .done
  fits := fits

/-! ## Dashboard -/

/-- The figures the dashboard computes from the latest closed cases, in floating-point numbers: the
    average days to close, and for each day the share closed in time. -/
class Figures where
  avgCloseDays : List CaseDetail → Option ℤ
  slaTrend : List CaseDetail → List (String × ℤ)

structure DashboardStore where
  org : String
  byPriority : List (String × ℤ)
  breached : ℤ
  openCount : ℤ
  p0p1Open : ℤ
  avgCloseDays : Option ℤ
  slaTrend : List (String × ℤ)
  loading : Bool
  generation : ℕ
deriving DecidableEq, Repr

namespace DashboardStore

def priorities : List String := ["P0", "P1", "P2", "P3", "P4"]

/-- The state of a new store, with the organization and the generation that a clear keeps. -/
def initial (org : String) (generation : ℕ) : DashboardStore :=
  ⟨org, priorities.map fun p => (p, 0), 0, 0, 0, none, [], false, generation⟩

def clear (s : DashboardStore) : DashboardStore :=
  { s with
    byPriority := priorities.map fun p => (p, 0)
    breached := 0
    openCount := 0
    p0p1Open := 0
    avgCloseDays := none
    slaTrend := []
    loading := false
    generation := s.generation + 1 }

/-- `count`. -/
def count (org : String) (query : List (String × String)) : Request :=
  .listCases org (("page_size", "1") :: query)

/-- All, closed, accepted and not applicable ones: the requests whose counts tell how many are open. -/
def openRequests (org : String) (query : List (String × String)) : List Request :=
  [count org query, count org (query ++ [("status", "closed")]),
    count org (query ++ [("status", "risk_accepted")]),
    count org (query ++ [("status", "not_applicable")])]

def openOf (counts : List Answer) : ℤ :=
  match counts.map Answer.total with
  | [all, closed, riskAccepted, notApplicable] => all - closed - riskAccepted - notApplicable
  | _ => 0

def recentItems : List Answer → List CaseDetail
  | [.caseList items _] => items
  | _ => []

variable [Figures]

def fetch : Script DashboardStore :=
  .look fun s =>
    let generation := s.generation
    let finally' :=
      finish DashboardStore.generation (fun s => { s with loading := false }) generation
    let go := fun k => unlessCleared DashboardStore.generation generation k finally'
    .set (fun s => { s with loading := true }) <| .look fun s =>
      let org := s.org
      .await (priorities.map fun p => count org [("priority", p)]) (fun counts => go <|
        .set (fun s => { s with byPriority := priorities.zip (counts.map Answer.total) }) <|
        .await (openRequests org []) (fun counts => go <|
          .set (fun s => { s with openCount := openOf counts }) <|
          .await [count org [("sla_breached", "true")]] (fun counts => go <|
            .set (fun s => { s with breached := (counts.map Answer.total).sum }) <|
            -- both `highPriOpen`, which start their requests at once
            .await (openRequests org [("priority", "P0")] ++ openRequests org [("priority", "P1")])
              (fun counts => go <|
                .set (fun s =>
                  { s with p0p1Open := openOf (counts.take 4) + openOf (counts.drop 4) }) <|
                .await [.listCases org
                    [("page_size", "100"), ("status", "closed"), ("sort", "-updated_at")]]
                  (fun recent => go <|
                    .set (fun s =>
                      { s with
                        avgCloseDays := Figures.avgCloseDays (recentItems recent)
                        slaTrend := Figures.slaTrend (recentItems recent) }) finally')
                  finally')
              finally')
            finally')
          finally')
        finally'

end DashboardStore

structure SbomHistoryEntry where
  at' : String
  org : String
  sbomId : String
  sha : String
deriving DecidableEq, Repr

/-- `storage` is what `localStorage` holds under the key of the history. -/
structure SbomHistoryStore where
  org : String
  history : List SbomHistoryEntry
  generation : ℕ
  storage : Option (List SbomHistoryEntry)
deriving DecidableEq, Repr

namespace SbomHistoryStore

def clear (s : SbomHistoryStore) : SbomHistoryStore :=
  { s with history := [], generation := s.generation + 1, storage := none }

def record (entry : SbomHistoryEntry) (generation : ℕ) (s : SbomHistoryStore) :
    Bool × SbomHistoryStore :=
  if generation ≠ s.generation then (false, s)
  else
    let history := (entry :: s.history).take 20
    (true, { s with history := history, storage := some history })

/-- The entry for a response. -/
def entryOf (at' org : String) : List Answer → SbomHistoryEntry
  | [.sbom id sha] => ⟨at', org, id, sha⟩
  | _ => ⟨at', org, "", ""⟩

/-- `submit` of the SBOM page, the caller of `record`; `now` is the time at which it does so. -/
def submit (body key now : String) : Script SbomHistoryStore :=
  .look fun s =>
    let org := s.org
    let requestGeneration := s.generation
    .await [.submitSbom org body key]
      (fun answers => .set (fun s => (s.record (entryOf now org answers) requestGeneration).2) .done)
      .done

end SbomHistoryStore

end VulnOpsHub.Console
