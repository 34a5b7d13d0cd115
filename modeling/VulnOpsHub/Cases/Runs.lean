import VulnOpsHub.Cases.Steps

set_option autoImplicit false

/-! # Runs of calls, one after another

Sequences of calls each run to completion, with the rows visited on the way, and what a single call
can do to the status of a case. -/

namespace VulnOpsHub

/-- The status of the case stored under `id`. -/
def Db.statusOf (db : Db) (id : String) : Option CaseStatus := (db.case? id).map (·.status)

theorem Db.statusOf_of_case? {db : Db} {id : String} {case : RemediationCase}
    (h : db.case? id = some case) : db.statusOf id = some case.status := by
  rw [Db.statusOf, h]; rfl

/-! ## Statuses after a change -/

namespace Db.Becomes

variable {db db' : Db} {decisions : String → Option RiskDecision} {vs : List Verification}
  {as : List AuditEvent} {os : List OutboxEvent}

theorem statusOf_same (h : db.Becomes db' db.case? decisions vs as os) (id : String) :
    db'.statusOf id = db.statusOf id := by
  rw [Db.statusOf, h.cases_eq]; rfl

theorem statusOf_update {k : String} {next : RemediationCase}
    (h : db.Becomes db' (Function.update db.case? k (some next)) decisions vs as os) (id : String) :
    db'.statusOf id = if id = k then some next.status else db.statusOf id := by
  rw [Db.statusOf, h.cases_eq]
  by_cases hid : id = k
  · rw [if_pos hid, hid, Function.update_self]; rfl
  · rw [if_neg hid, Function.update_of_ne hid]; rfl

/-- A status change concerns one case. -/
theorem statusOf_cases {k : String} {next : RemediationCase} {t : CaseStatus}
    (h : db.Becomes db' (Function.update db.case? k (some next)) decisions vs as os)
    (ht : next.status = t) (id : String) :
    id = k ∧ db'.statusOf id = some t ∨ id ≠ k ∧ db'.statusOf id = db.statusOf id := by
  have hs := h.statusOf_update id
  split at hs
  · next hid => exact Or.inl ⟨hid, hs.trans (congrArg some ht)⟩
  · next hid => exact Or.inr ⟨hid, hs⟩

/-- Expiries leave a case alone or send it back to triage. -/
theorem statusOf_expiry {env : CallEnv} {due : List RiskDecision}
    (h : db.Becomes db' (fun id => (db.case? id).map (afterExpiry env due)) decisions vs as os)
    (id : String) : db'.statusOf id = db.statusOf id ∨
      db.statusOf id = some .riskAccepted ∧ db'.statusOf id = some .triage := by
  unfold Db.statusOf
  rw [h.cases_eq]
  dsimp only
  cases hc : db.case? id with
  | none => exact Or.inl rfl
  | some c =>
      simp only [Option.map_some, afterExpiry]
      split
      · next hif => exact Or.inr ⟨congrArg some hif.1, rfl⟩
      · exact Or.inl rfl

theorem fresh_audit {cases : String → Option RemediationCase} {x : AuditEvent}
    (h : db.Becomes db' cases decisions vs [x] os) : db.auditEvents.find? x.id = none :=
  Table.find?_of_rows_append h.audits_eq

theorem fresh_outbox {cases : String → Option RemediationCase} {x : OutboxEvent}
    (h : db.Becomes db' cases decisions vs as [x]) : db.outboxEvents.find? x.id = none :=
  Table.find?_of_rows_append h.outbox_eq

end Db.Becomes

/-! ## Accepted transitions -/

/-- The audit and the outbox row of a call get identifiers no row has yet. -/
def RowIdsFresh (db : Db) (env : CallEnv) : Prop :=
  db.auditEvents.find? (env.rowId "aud_" 12 1) = none ∧
    db.outboxEvents.find? (env.rowId "evt_" 12 2) = none

/-- The call is a `transition` of the case from `s` to `t` that the service accepts. -/
def TransitionsTo (id : String) (s t : CaseStatus) (db : Db) (c : Call) : Prop :=
  ∃ a case, c.op = .transition a ∧ a.caseId = id ∧ a.target = t.value ∧
    db.case? id = some case ∧ case.status = s ∧
    (∀ v, a.expectedVersion = some v → case.version = v) ∧
    ValidProvenance a.actor.provenance ∧ RowIdsFresh db c.env

theorem validProvenance_of_actorAuditFields {a : ActorContext} {fields : ActorFields}
    (h : actorAuditFields a = .ok fields) : ValidProvenance a.provenance := by
  unfold actorAuditFields at h
  split at h
  · next hvalid => exact hvalid
  · cases h

/-- The call is a `transition` to the status written `target`. -/
def Call.targets (c : Call) (target : String) : Bool :=
  match c.op with
  | .transition a => a.target = target
  | _ => false

theorem TransitionsTo.targets {id : String} {s t : CaseStatus} {db : Db} {c : Call}
    (h : TransitionsTo id s t db c) : c.targets t.value = true := by
  obtain ⟨a, case, hop, -, htarget, -⟩ := h
  simp [Call.targets, hop, htarget]

/-- The guards a committed `transition` has passed. -/
theorem transitionsTo_of_commit {a : TransitionArgs} {env : CallEnv} {db db' : Db}
    {case : RemediationCase} {target : CaseStatus} {fields : ActorFields}
    {cases : String → Option RemediationCase} {decisions : String → Option RiskDecision}
    {vs : List Verification} (found : db.case? a.caseId = some case)
    (target_eq : target.value = a.target)
    (version : ∀ v, a.expectedVersion = some v → case.version = v)
    (fields_eq : actorAuditFields a.actor = .ok fields)
    (h : db.Becomes db' cases decisions vs [transitionAudit a env case target fields]
      [transitionOutbox a env case target fields]) :
    TransitionsTo a.caseId case.status target db ⟨.transition a, env⟩ :=
  ⟨a, case, rfl, rfl, target_eq.symm, found, rfl, version,
    validProvenance_of_actorAuditFields fields_eq, h.fresh_audit, h.fresh_outbox⟩

section Runtime

variable [Python]

/-- The calls of a run, each satisfying `ok` where it is made. The run leads from `db₀` to `db`; the
    rows visited before are listed latest first. -/
inductive Run (ok : Db → Call → Prop) (db₀ : Db) : Db → List Db → Prop where
  | start : Run ok db₀ db₀ []
  | call {db : Db} {past : List Db} (h : Run ok db₀ db past) (c : Call) (hok : ok db c) :
      Run ok db₀ (c.run db) (db :: past)

/-- The rows a sequence of calls leads to. -/
def callAll (db : Db) : List Call → Db
  | [] => db
  | c :: rest => callAll (c.run db) rest

/-- The rows visited before the last call of a sequence, latest first. -/
def visited (db : Db) (past : List Db) : List Call → List Db
  | [] => past
  | c :: rest => visited (c.run db) (db :: past) rest

theorem Run.callAll {ok : Db → Call → Prop} {db₀ db : Db} {past : List Db} (h : Run ok db₀ db past)
    (calls : List Call) (hok : ∀ db, ∀ c ∈ calls, ok db c) :
    Run ok db₀ (callAll db calls) (visited db past calls) := by
  induction calls generalizing db past with
  | nil => exact h
  | cons c rest ih =>
      exact ih (h.call c (hok db c List.mem_cons_self))
        fun db x hx => hok db x (List.mem_cons_of_mem _ hx)

/-- Rows some sequence of calls reaches over some inventory. -/
def Db.Reached (db : Db) : Prop :=
  ∃ exposures assets services past,
    Run (fun _ _ => True) (Db.initial exposures assets services) db past

/-! ## One call and one case -/

/-- How a call can change the status of a case. -/
inductive StatusChange (db : Db) (c : Call) (db' : Db) (id : String) : Prop where
  | none (h : db'.statusOf id = db.statusOf id)
  | created (absent : db.statusOf id = none) (h : db'.statusOf id = some .new)
  | transitioned (s t : CaseStatus) (edge : t ∈ allowedTransitions s)
      (by_call : TransitionsTo id s t db c) (before : db.statusOf id = some s) (h : db'.statusOf id = some t)
  | verified (v : Verification) (before : db.statusOf id = some .awaitingVerification)
      (h : db'.statusOf id = some .closed) (mem : v ∈ db'.verifications.rows)
      (fresh : v ∉ db.verifications.rows) (case : v.caseId = id) (status : v.status = .closed)
  | approved (s : CaseStatus) (type : String) (edge : targetState type ∈ allowedTransitions s)
      (before : db.statusOf id = some s) (h : db'.statusOf id = some (targetState type))
  | revoked (a : RevokeArgs) (d : RiskDecision) (case : RemediationCase)
      (op : c.op = .revokeDecision a) (found : db.decision? a.decisionId = some d)
      (foundCase : db.case? d.caseId = some case) (ids : RowIdsFresh db c.env)
      (before : db.statusOf id = some case.status) (h : db'.statusOf id = some .triage)
  | expired (before : db.statusOf id = some .riskAccepted) (h : db'.statusOf id = some .triage)
  | reopened (before : db.statusOf id = some .closed) (h : db'.statusOf id = some .reopened)

theorem CaseStep.statusChange {db db' : Db} {c : Call} (h : CaseStep db c db') (id : String) :
    StatusChange db c db' id := by
  cases h with
  | quiet => exact .none rfl
  | created a env owner _ fresh h =>
      rcases h.statusOf_cases rfl id with ⟨hid, hs⟩ | ⟨-, hs⟩
      · exact .created (by rw [hid, Db.statusOf, fresh]; rfl) hs
      · exact .none hs
  | transitioned a env case next target fields _ found edge target_eq version fields_eq moves h =>
      rcases h.statusOf_cases moves.status id with ⟨rfl, hs⟩ | ⟨-, hs⟩
      · exact .transitioned case.status target edge
          (transitionsTo_of_commit found target_eq version fields_eq h)
          (Db.statusOf_of_case? found) hs
      · exact .none hs
  | verified a env case next reason fields _ found awaiting coverage fields_eq moves h =>
      rcases h.statusOf_cases moves.status id with ⟨rfl, hs⟩ | ⟨-, hs⟩
      · have hbefore := Db.statusOf_of_case? found
        rw [awaiting] at hbefore
        refine .verified (verificationRow a env true) hbefore hs ?_ h.fresh_verification rfl rfl
        rw [h.verifications_eq]
        exact List.mem_append_right _ (List.mem_singleton.2 rfl)
      · exact .none hs
  | unverified a env case reason fields _ found awaiting coverage h =>
      exact .none (h.statusOf_same id)
  | requested a env case scope expiresAt fields _ found scope_eq fresh h => exact .none (h.statusOf_same id)
  | approved a env stored d case next fields role _ found canonical guarded foundCase valid edge
      moves h =>
      rcases h.statusOf_cases moves.status id with ⟨rfl, hs⟩ | ⟨-, hs⟩
      · exact .approved case.status d.type edge (Db.statusOf_of_case? foundCase) hs
      · exact .none hs
  | rejected a env stored d case fields role _ found canonical guarded h =>
      exact .none (h.statusOf_same id)
  | revoked a env d case next time _ found foundCase moves h =>
      rcases h.statusOf_cases moves.status id with ⟨rfl, hs⟩ | ⟨-, hs⟩
      · exact .revoked a d case rfl found foundCase ⟨h.fresh_audit, h.fresh_outbox⟩
          (Db.statusOf_of_case? foundCase) hs
      · exact .none hs
  | expired now env due audits outbox _ approved audits_eq outbox_eq trail h =>
      rcases h.statusOf_expiry id with hs | ⟨hbefore, hs⟩
      · exact .none hs
      · exact .expired hbefore hs
  | reopened a env case next _ found closed moves h =>
      rcases h.statusOf_cases moves.status id with ⟨rfl, hs⟩ | ⟨-, hs⟩
      · have hbefore := Db.statusOf_of_case? found
        rw [closed] at hbefore
        exact .reopened hbefore hs
      · exact .none hs

end Runtime

/-! ## Sample calls

Concrete calls on one case of an empty database; call number `k` draws its identifiers and times
from `sampleEnv k`. -/

/-- The database of the samples. -/
def Db.sample : Db := Db.initial .empty .empty .empty

def sampleEnv (k : ℕ) : CallEnv where
  clock := fun i => (1000000 * k + i : ℕ)
  uuid := fun i => String.ofList (Nat.digitChar k :: Nat.digitChar i :: List.replicate 30 '0')
  defaultCaseOwnerTeam := none

def sampleActor (actor : String) : ActorContext where
  actor := actor
  provenance := authenticatedProvenance
  principalType := some "human"
  roles := some ["risk_approver"]
  scopes := none
  requestId := none
  correlationId := none

/-- The identifier `sampleCreate` gives its case. -/
def sampleCase : String := "case_000000000000"

def sampleCreate : Call where
  op := .createCase
    { organizationId := "org"
      title := "outdated library"
      ownerTeam := some "platform"
      priority := "P2"
      exposures := none
      policyVersion := none
      assignee := none
      assetId := none }
  env := sampleEnv 0

/-- The rows after sample calls, and the rows visited before. -/
def sampleRows (calls : List Call) : Db := @callAll asciiPython Db.sample calls

def samplePast (calls : List Call) : List Db := @visited asciiPython Db.sample [] calls

theorem sampleRows_run {ok : Db → Call → Prop} (calls : List Call)
    (hok : ∀ db, ∀ c ∈ calls, ok db c) :
    @Run asciiPython ok Db.sample (sampleRows calls) (samplePast calls) :=
  @Run.callAll asciiPython _ _ _ _ (@Run.start asciiPython _ _) calls hok

/-- Call `k`: a `transition` of the sample case. -/
def sampleTransition (k : ℕ) (target : String) : Call where
  op := .transition
    { caseId := sampleCase
      target := target
      actor := sampleActor "alice"
      reason := none
      extra := none
      expectedVersion := none }
  env := sampleEnv k

/-- The sample case, walked to `awaiting_verification`. -/
def sampleAwaiting : List Call :=
  [sampleCreate, sampleTransition 1 "triage", sampleTransition 2 "assigned",
    sampleTransition 3 "in_progress", sampleTransition 4 "awaiting_verification"]

/-- Call `k`: a scanner verification of the sample case with complete coverage. -/
def sampleVerify (k : ℕ) : Call where
  op := .verify
    { caseId := sampleCase
      method := "scanner"
      evidenceIds := .arr [.str "scan-1"]
      coverage := .obj [("status", .str "complete"), ("scope_version", .str "v1")]
      assertedResult := none
      actor := sampleActor "alice" }
  env := sampleEnv k

/-- Call `k`: alice requests a decision on the sample case, expiring at second 100. -/
def sampleRequest (k : ℕ) (type : String) : Call where
  op := .createRiskDecision
    { caseId := sampleCase
      type := type
      reason := "reviewed"
      expiresAt := .datetime (Datetime.utc 100000000)
      compensatingControls := none
      evidenceIds := .arr [.str "ev-1"]
      requestedBy := "alice"
      approver := none
      approverRole := none
      scope := .null
      actor := sampleActor "alice" }
  env := sampleEnv k

/-- The identifier `sampleRequest k` gives its decision. -/
def sampleDecision (k : ℕ) : String := (sampleEnv k).rowId "rdec_" 12 3

/-- Call `k`: bob approves the decision. -/
def sampleApprove (k : ℕ) (decisionId : String) : Call where
  op := .approveRiskDecision
    { decisionId := decisionId
      outcome := .str "approve"
      reason := "agreed"
      capabilities := some ["risk:approve"]
      actor := sampleActor "bob" }
  env := sampleEnv k

/-- Call `k`: decisions that expire by second 200 are processed. -/
def sampleExpire (k : ℕ) : Call where
  op := .processExpirations (some (Datetime.utc 200000000))
  env := sampleEnv k

/-- Call `k`: the decision is revoked. -/
def sampleRevoke (k : ℕ) (decisionId : String) : Call where
  op := .revokeDecision ⟨decisionId, "carol", "no longer wanted"⟩
  env := sampleEnv k

end VulnOpsHub
