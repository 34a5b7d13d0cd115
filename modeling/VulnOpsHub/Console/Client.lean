import VulnOpsHub.Api.History
import VulnOpsHub.Api.Server
import VulnOpsHub.Sbom.Ingestion

set_option autoImplicit false

/-! # The writes of the console

`api/client.ts`: `request` sends a request again, once, when the connection failed, whatever its method.
Whether a write takes effect at most once is then up to its route. -/

namespace VulnOpsHub.Console

/-- The calls of `apiClient` that change the server, with what they put into the path and what the
    server reads of the body. -/
inductive WriteCall where
  | createCase (payload : RequestBody)
  | transition (caseId : String) (version : ℤ) (target : String) (reason : Option String)
  | createRiskDecision (caseId : String) (payload : RequestBody)
  | approveRiskDecision (caseId decisionId : String) (payload : RequestBody)
  | submitVerification (caseId : String) (payload : RequestBody)
  | submitSbom (body : RequestBody) (idempotencyKey : String)
  | reviewExposure (exposureId : String) (payload : RequestBody)

/-- The body of a transition; a reason that is not given is left out. -/
def transitionBody (target : String) (reason : Option String) : Json :=
  .obj (("target", .str target) :: reason.toList.map fun text => ("reason", .str text))

/-- The request of a call: only a transition names the version it is about. -/
def WriteCall.request : WriteCall → ServerRequest
  | .createCase payload => .case (.createCase payload)
  | .transition caseId version target reason =>
      .case (.transition caseId (.ok (transitionBody target reason)) (some ("\"" ++ version.repr ++ "\"")))
  | .createRiskDecision caseId payload => .case (.createRiskDecision caseId payload none)
  | .approveRiskDecision caseId decisionId payload =>
      .case (.approveRiskDecision caseId decisionId payload)
  | .submitVerification caseId payload => .case (.submitVerification caseId payload)
  | .submitSbom body idempotencyKey => .submitSbom body (some idempotencyKey)
  | .reviewExposure exposureId payload => .reviewExposure exposureId payload

variable {σ : Type}

/-- `request`, with what the server replies, or nothing for a `network_error`. It calls itself without
    `allowRetry`, so for one more delivery. -/
def request (serve : Arrival → σ → ServerReply × σ) (connection : Connection Arrival)
    (allowRetry : Bool) (s : σ) : Option ServerReply × σ :=
  match deliver serve connection.first connection.firstEnv s with
  | (some reply, t) => (some reply, t)
  | (none, t) =>
      if allowRetry then deliver serve connection.second connection.secondEnv t else (none, t)

theorem request_true (serve : Arrival → σ → ServerReply × σ) (connection : Connection Arrival) (s : σ) :
    request serve connection true s = retried serve connection s := by
  unfold request retried
  rcases deliver serve connection.first connection.firstEnv s with ⟨_ | reply, t⟩ <;> rfl

open Sbom

section Calls

variable [Python] [PythonInt] [IsoParser] [Driver] [Sha256] [RowOrder]

/-- A call whose answer is lost, and whose request is taken twice, takes effect twice. -/
theorem request_taken_twice {storage : StorageSettings} {orgId : String} {call : WriteCall}
    {connection : Connection Arrival} {s : call.request.State} (hlost : connection.first = .lost)
    (htwice : call.request.TakenTwice orgId connection.firstEnv connection.secondEnv s) :
    ¬ AtMostOnce (call.request.serve storage orgId) s
      (request (call.request.serve storage orgId) connection true s).2 := by
  intro honce
  rw [request_true, retried_atMostOnce_iff] at honce
  exact not_atMostOnce_of_takenTwice htwice (honce hlost)

/-- A call takes effect at most once, however its connection fails, unless its answer is lost and the
    request is one that is taken twice. -/
theorem request_atMostOnce_iff (storage : StorageSettings) (orgId : String) (call : WriteCall)
    (connection : Connection Arrival) (s : call.request.State) :
    AtMostOnce (call.request.serve storage orgId) s
        (request (call.request.serve storage orgId) connection true s).2 ↔
      ¬ (connection.first = .lost ∧
        call.request.TakenTwice orgId connection.firstEnv connection.secondEnv s) := by
  refine ⟨fun honce hboth => request_taken_twice hboth.1 hboth.2 honce, fun hnot => ?_⟩
  rw [request_true, retried_atMostOnce_iff]
  exact fun hlost => AtMostOnce.of_absorbed (serve_absorbed fun htwice => hnot ⟨hlost, htwice⟩)

end Calls

/-! ## Samples -/

/-- The admin sends a request, by call `k` of the service. -/
def sampleArrival (k : ℕ) : Arrival :=
  ⟨some sampleAdmin, none, none, none, none, sampleEnv k, none⟩

/-- The first answer is lost, and the second one arrives. -/
def lostAnswer : Connection Arrival := ⟨.lost, .answered, sampleArrival 0, sampleArrival 1, Or.inr rfl⟩

def sampleCreation : WriteCall :=
  .createCase (.ok (.obj
    [("title", .str "outdated library"), ("owner_team", .str "platform"), ("priority", .str "P2")]))

/-- The answer to `createCase` is lost: the console sends it again, and there are two cases. -/
theorem created_twice : ¬ ∀ (_ : Python) (_ : PythonInt) (_ : IsoParser) (_ : Driver) (_ : Sha256)
    (_ : RowOrder) (storage : StorageSettings) (orgId : String) (call : WriteCall)
    (connection : Connection Arrival) (s : call.request.State),
    AtMostOnce (call.request.serve storage orgId) s
      (request (call.request.serve storage orgId) connection true s).2 := by
  intro hall
  let _ := asciiPython
  let _ := asciiDigits
  let _ := sampleIsoParser
  let _ := sqliteDriver
  let _ := findingDigests
  let _ := insertionOrder
  have honce : AtMostOnce (sampleCreation.request.serve sampleStorage "org") Db.sample
      (request (sampleCreation.request.serve sampleStorage "org") lostAnswer true Db.sample).2 :=
    hall _ _ _ _ _ _ sampleStorage "org" sampleCreation lostAnswer Db.sample
  have htwice : sampleCreation.request.TakenTwice "org" (sampleArrival 0) (sampleArrival 1) Db.sample :=
    ⟨sampleAdmin, sampleAdmin, rfl, rfl, CaseRequest.takenTwice_of_isSome (by decide +kernel)⟩
  exact request_taken_twice rfl htwice honce

end VulnOpsHub.Console
