import VulnOpsHub.Cases.Contracts
import Mathlib.Logic.Function.Basic

set_option autoImplicit false

/-! # What a call does when it runs alone

`CaseStep db c db'` lists what a call can do to the rows it finds: nothing, or the one change of its
operation. `Call.run_step` derives it from the contracts; every sequential invariant is a case
analysis on it. -/

namespace VulnOpsHub

/-! ## Changes of the rows -/

/-- The rows after a call, table by table; verifications, audit and outbox rows are appended. -/
structure Db.Becomes (db db' : Db) (cases : String → Option RemediationCase)
    (decisions : String → Option RiskDecision) (verifications : List Verification)
    (audits : List AuditEvent) (outbox : List OutboxEvent) : Prop where
  cases_eq : db'.case? = cases
  decisions_eq : db'.decision? = decisions
  verifications_eq : db'.verifications.rows = db.verifications.rows ++ verifications
  audits_eq : db'.auditEvents.rows = db.auditEvents.rows ++ audits
  outbox_eq : db'.outboxEvents.rows = db.outboxEvents.rows ++ outbox

theorem FlushEffect.becomes {ws : List Write} {db db' : Db} (he : FlushEffect ws db db')
    {cases : String → Option RemediationCase} {decisions : String → Option RiskDecision}
    (hcases : (fun id => ws.foldl (fun x w => w.onCase id x) (db.case? id)) = cases)
    (hdecisions : (fun id => ws.foldl (fun x w => w.onDecision id x) (db.decision? id))
      = decisions) :
    db.Becomes db' cases decisions (ws.filterMap Write.verification?) (ws.filterMap Write.audit?)
      (ws.filterMap Write.outbox?) :=
  ⟨(funext he.case?).trans hcases, (funext he.decision?).trans hdecisions, he.verifications,
    he.auditEvents, he.outboxEvents⟩

/-- An `UPDATE` of a row that exists. -/
theorem update_of_map {α : Type} {f : String → Option α} {k : String} {x : α} (g : α → α)
    (h : f k = some x) :
    (fun id => if id = k then (f id).map g else f id) = Function.update f k (some (g x)) := by
  funext id
  by_cases hid : id = k
  · rw [if_pos hid, hid, h, Function.update_self]; rfl
  · rw [if_neg hid, Function.update_of_ne hid]

/-- An `INSERT`. -/
theorem update_of_insert {α : Type} (f : String → Option α) (k : String) (x : α) :
    (fun id => if k = id then some x else f id) = Function.update f k (some x) := by
  funext id
  by_cases hid : k = id
  · rw [if_pos hid, ← hid, Function.update_self]
  · rw [if_neg hid, Function.update_of_ne (Ne.symm hid)]

theorem fresh_of_insertCase {c : RemediationCase} {ws : List Write} {db db' : Db}
    (h : Store.flush (.insertCase c :: ws) db = some db') : db.case? c.id = none := by
  obtain ⟨db₁, hw, -⟩ := Store.flush_cons h
  change Write.apply db (.insertCase c) = some db₁ at hw
  simp only [Write.apply] at hw
  split at hw
  · cases hw
  · obtain ⟨t, ht, -⟩ := Option.map_eq_some_iff.1 hw
    exact Table.find?_of_insert ht

theorem fresh_of_insertDecision {d : RiskDecision} {ws : List Write} {db db' : Db}
    (h : Store.flush (.insertDecision d :: ws) db = some db') : db.decision? d.id = none := by
  obtain ⟨db₁, hw, -⟩ := Store.flush_cons h
  obtain ⟨t, ht, -⟩ := Option.map_eq_some_iff.1 hw
  exact Table.find?_of_insert ht

/-- A verification added by a call was not there before. -/
theorem Db.Becomes.fresh_verification {db db' : Db} {cases : String → Option RemediationCase}
    {decisions : String → Option RiskDecision} {v : Verification} {audits : List AuditEvent}
    {outbox : List OutboxEvent} (h : db.Becomes db' cases decisions [v] audits outbox) :
    v ∉ db.verifications.rows := by
  intro hv
  have hfind := Table.find?_key_of_mem hv
  rw [Table.find?_of_rows_append h.verifications_eq] at hfind
  cases hfind

/-- A status change of a case, with its version. -/
structure Moves (case next : RemediationCase) (t : CaseStatus) : Prop where
  status : next.status = t
  version : next.version = case.version + 1

section Runtime

variable [Python]

/-! ## Guards of an approval -/

/-- What `approve_risk_decision` has checked when it passes its guards. -/
structure ApprovalGuarded (a : ApproveArgs) (d : RiskDecision) (outcome : ApprovalOutcome)
    (fields : ActorFields) (role : String) : Prop where
  pending : d.status = .pendingApproval
  human : a.actor.principalType = some "human"
  capability : "risk:approve" ∈ (a.capabilities.getD []).map (fun c => Python.lower (strip c))
  separate : a.actor.actor ≠ d.requestedBy
  outcome_eq : normalizeOutcome a.outcome = .ok outcome
  reason : strip a.reason ≠ ""
  fields_eq : actorAuditFields a.actor = .ok fields
  role_eq : approvalRole a.actor.roles = some role

theorem approvalGuards_ok {a : ApproveArgs} {d : RiskDecision} {outcome : ApprovalOutcome}
    {fields : ActorFields} {role : String}
    (h : approvalGuards a d = .ok (outcome, fields, role)) :
    ApprovalGuarded a d outcome fields role := by
  unfold approvalGuards at h
  simp only [except_bind_eq_ok, raiseIf_eq_ok, exists_const] at h
  obtain ⟨hpending, hhuman, hcapability, hseparate, o, houtcome, hreason, fs, hfields, hrole⟩ := h
  split at hrole
  · cases hrole
  · next r hr =>
      cases hrole
      exact ⟨not_not.1 hpending, not_not.1 hhuman, not_not.1 hcapability, hseparate, houtcome,
        hreason, hfields, hr⟩

/-- The decision as its approver leaves it. -/
def decidedDecision (a : ApproveArgs) (env : CallEnv) (d : RiskDecision) (outcome : ApprovalOutcome)
    (role : String) : RiskDecision :=
  { d with
    status := outcome.status
    approver := some a.actor.actor
    approverRole := some role
    approverProvenance := some a.actor.provenance
    approverPrincipalType := a.actor.principalType
    decidedAt := some (env.clock 0)
    updatedAt := env.clock 0 }

/-! ## Steps -/

/-- What a call can do to the rows `db` when it runs alone. -/
inductive CaseStep (db : Db) : Call → Db → Prop where
  | quiet (c : Call) : CaseStep db c db
  | created (a : CreateCaseArgs) (env : CallEnv) (owner : ResolvedOwner) (db' : Db)
      (fresh : db.case? (newCase a env owner).id = none)
      (h : db.Becomes db'
        (Function.update db.case? (newCase a env owner).id (some (newCase a env owner)))
        db.decision? []
        (createdAudit env (newCase a env owner) ::
          if (newCase a env owner).ownershipEscalated then
            [escalationAudit env (newCase a env owner)] else [])
        [createdOutbox env (newCase a env owner)]) :
      CaseStep db ⟨.createCase a, env⟩ db'
  | transitioned (a : TransitionArgs) (env : CallEnv) (case next : RemediationCase)
      (target : CaseStatus) (fields : ActorFields) (db' : Db)
      (found : db.case? a.caseId = some case) (edge : target ∈ allowedTransitions case.status)
      (target_eq : target.value = a.target)
      (version : ∀ v, a.expectedVersion = some v → case.version = v)
      (fields_eq : actorAuditFields a.actor = .ok fields) (moves : Moves case next target)
      (h : db.Becomes db' (Function.update db.case? a.caseId (some next)) db.decision? []
        [transitionAudit a env case target fields] [transitionOutbox a env case target fields]) :
      CaseStep db ⟨.transition a, env⟩ db'
  | verified (a : VerifyArgs) (env : CallEnv) (case next : RemediationCase) (reason : String)
      (fields : ActorFields) (db' : Db) (found : db.case? a.caseId = some case)
      (awaiting : case.status = .awaitingVerification)
      (coverage : evaluateCoverage a.method a.coverage = .ok (true, reason))
      (fields_eq : actorAuditFields a.actor = .ok fields)
      (moves : Moves case next .closed)
      (h : db.Becomes db' (Function.update db.case? a.caseId (some next)) db.decision?
        [verificationRow a env true] [verificationAudit a env case true reason fields]
        [verificationOutbox a env case true reason fields]) :
      CaseStep db ⟨.verify a, env⟩ db'
  | unverified (a : VerifyArgs) (env : CallEnv) (case : RemediationCase) (reason : String)
      (fields : ActorFields) (db' : Db) (found : db.case? a.caseId = some case)
      (awaiting : case.status = .awaitingVerification)
      (coverage : evaluateCoverage a.method a.coverage = .ok (false, reason))
      (h : db.Becomes db' db.case? db.decision? [verificationRow a env false]
        [verificationAudit a env case false reason fields]
        [verificationOutbox a env case false reason fields]) :
      CaseStep db ⟨.verify a, env⟩ db'
  | requested (a : CreateRiskDecisionArgs) (env : CallEnv) (case : RemediationCase) (scope : Json)
      (expiresAt : Datetime) (fields : ActorFields) (db' : Db)
      (found : db.case? a.caseId = some case)
      (scope_eq : (if a.scope.truthy then a.scope.get "exposure_ids" else .ok .null) = .ok scope)
      (fresh : db.decision? (newRiskDecision a env scope expiresAt).id = none)
      (h : db.Becomes db' db.case?
        (Function.update db.decision? (newRiskDecision a env scope expiresAt).id
          (some (newRiskDecision a env scope expiresAt))) []
        [requestedAudit a env case (newRiskDecision a env scope expiresAt) fields]
        [requestedOutbox a env case (newRiskDecision a env scope expiresAt) expiresAt fields]) :
      CaseStep db ⟨.createRiskDecision a, env⟩ db'
  | approved (a : ApproveArgs) (env : CallEnv) (stored d : RiskDecision)
      (case next : RemediationCase) (fields : ActorFields) (role : String) (db' : Db)
      (found : db.decision? a.decisionId = some stored)
      (canonical : d = canonicalizeRiskDecisionExpiry stored)
      (guarded : ApprovalGuarded a d .approve fields role)
      (foundCase : db.case? d.caseId = some case)
      (valid : validateApproval d (env.clock 1) = .ok ())
      (edge : targetState d.type ∈ allowedTransitions case.status)
      (moves : Moves case next (targetState d.type))
      (h : db.Becomes db' (Function.update db.case? d.caseId (some next))
        (Function.update db.decision? a.decisionId
          (some (decidedDecision a env stored .approve role)))
        [] [approvalAudit a env d case .approve fields]
        [approvalOutbox a env d case .approve fields role]) :
      CaseStep db ⟨.approveRiskDecision a, env⟩ db'
  | rejected (a : ApproveArgs) (env : CallEnv) (stored d : RiskDecision) (case : RemediationCase)
      (fields : ActorFields) (role : String) (db' : Db)
      (found : db.decision? a.decisionId = some stored)
      (canonical : d = canonicalizeRiskDecisionExpiry stored)
      (guarded : ApprovalGuarded a d .reject fields role)
      (h : db.Becomes db' db.case?
        (Function.update db.decision? a.decisionId
          (some (decidedDecision a env stored .reject role)))
        [] [approvalAudit a env d case .reject fields]
        [approvalOutbox a env d case .reject fields role]) :
      CaseStep db ⟨.approveRiskDecision a, env⟩ db'
  | revoked (a : RevokeArgs) (env : CallEnv) (d : RiskDecision) (case next : RemediationCase)
      (time : Instant) (db' : Db) (found : db.decision? a.decisionId = some d)
      (foundCase : db.case? d.caseId = some case) (moves : Moves case next .triage)
      (h : db.Becomes db' (Function.update db.case? d.caseId (some next))
        (Function.update db.decision? a.decisionId
          (some { d with status := .revoked, updatedAt := time }))
        [] [revokedAudit a env case] [revokedOutbox a env case]) :
      CaseStep db ⟨.revokeDecision a, env⟩ db'
  | expired (now : Option Datetime) (env : CallEnv) (due : List RiskDecision)
      (audits : List AuditEvent) (outbox : List OutboxEvent) (db' : Db)
      (approved : ∀ d ∈ due, db.decision? d.id = some d ∧ d.status = .approved)
      (audits_eq : ∀ x ∈ audits, x.action = "risk-decision.expired")
      (outbox_eq : ∀ x ∈ outbox, x.eventType = "vulnops.risk-decision.expired.v1")
      (trail : ExpiryTrail db due audits outbox)
      (h : db.Becomes db' (fun id => (db.case? id).map (afterExpiry env due))
        (fun id => (db.decision? id).map (afterOwnExpiry env due)) [] audits outbox) :
      CaseStep db ⟨.processExpirations now, env⟩ db'
  | reopened (a : ReopenArgs) (env : CallEnv) (case next : RemediationCase) (db' : Db)
      (found : db.case? a.caseId = some case) (closed : case.status = .closed)
      (moves : Moves case next .reopened)
      (h : db.Becomes db' (Function.update db.case? a.caseId (some next)) db.decision? []
        [reopenedAudit a env case] [reopenedOutbox a env]) :
      CaseStep db ⟨.reopenOnEvidence a, env⟩ db'

/-- Whatever a call does, it only adds to verifications, audit and outbox. -/
theorem CaseStep.becomes {db db' : Db} {c : Call} (h : CaseStep db c db') :
    ∃ cases decisions vs as os, db.Becomes db' cases decisions vs as os := by
  cases h with
  | quiet => exact ⟨_, _, [], [], [], rfl, rfl, by simp, by simp, by simp⟩
  | created a env owner _ fresh h => exact ⟨_, _, _, _, _, h⟩
  | transitioned a env case next target fields _ found edge target_eq version fields_eq moves h =>
      exact ⟨_, _, _, _, _, h⟩
  | verified a env case next reason fields _ found awaiting coverage fields_eq moves h =>
      exact ⟨_, _, _, _, _, h⟩
  | unverified a env case reason fields _ found awaiting coverage h => exact ⟨_, _, _, _, _, h⟩
  | requested a env case scope expiresAt fields _ found scope_eq fresh h => exact ⟨_, _, _, _, _, h⟩
  | approved a env stored d case next fields role _ found canonical guarded foundCase valid edge
      moves h =>
      exact ⟨_, _, _, _, _, h⟩
  | rejected a env stored d case fields role _ found canonical guarded h =>
      exact ⟨_, _, _, _, _, h⟩
  | revoked a env d case next time _ found foundCase moves h => exact ⟨_, _, _, _, _, h⟩
  | expired now env due audits outbox _ approved audits_eq outbox_eq trail h => exact ⟨_, _, _, _, _, h⟩
  | reopened a env case next _ found closed moves h => exact ⟨_, _, _, _, _, h⟩

section Commits

variable {env : CallEnv} {db db' : Db} {ex : List (CondUpdate Db)} {st : List Write}

theorem createCase_step {a : CreateCaseArgs} {owner : ResolvedOwner}
    (hf : Store.flush (createdRows env (newCase a env owner)) db = some db') :
    CaseStep db ⟨.createCase a, env⟩ db' := by
  refine .created a env owner db' (fresh_of_insertCase hf) ?_
  generalize newCase a env owner = case at hf ⊢
  have he := flush_effect hf
  unfold createdRows at he
  split at he
  · next hescalated =>
      rw [if_pos hescalated]
      exact he.becomes (update_of_insert db.case? _ _) rfl
  · next hescalated =>
      rw [if_neg hescalated]
      exact he.becomes (update_of_insert db.case? _ _) rfl

theorem TransitionCommit.step {a : TransitionArgs} {case : RemediationCase} {target : CaseStatus}
    {fields : ActorFields} (hc : TransitionCommit a env db case target fields ex st)
    (hg : ∀ u ∈ ex, u.guard db = true) (hf : Store.flush (transactionWrites ex st) db = some db') :
    CaseStep db ⟨.transition a, env⟩ db' := by
  have he := flush_effect hf
  have hw := hc.writes
  split at hw
  · next v hv =>
      obtain ⟨rfl, rfl⟩ := hw
      have hversion := hg _ (List.mem_singleton.2 rfl)
      simp only [transitionUpdate, CondUpdate.onCase, hc.found, Option.any_some,
        decide_eq_true_eq] at hversion
      refine .transitioned a env case _ target fields db' hc.found hc.edge hc.target_eq ?_
        hc.fields_eq ?_ (he.becomes (update_of_map _ hc.found) rfl)
      · intro w hw
        rw [hv] at hw
        exact hversion.trans (Option.some.inj hw)
      · exact ⟨rfl, by rw [hversion]; rfl⟩
  · next hv =>
      obtain ⟨rfl, rfl⟩ := hw
      refine .transitioned a env case _ target fields db' hc.found hc.edge hc.target_eq ?_
        hc.fields_eq ?_ (he.becomes (update_of_map _ hc.found) rfl)
      · intro w hw
        rw [hv] at hw
        cases hw
      · rw [CasePatch.ofChange_apply]
        exact ⟨rfl, rfl⟩

theorem VerifyCommit.step {a : VerifyArgs} {case : RemediationCase} {canClose : Bool}
    {reason : String} {fields : ActorFields}
    (hc : VerifyCommit a env db case canClose reason fields ex st)
    (hf : Store.flush (transactionWrites ex st) db = some db') :
    CaseStep db ⟨.verify a, env⟩ db' := by
  have he := flush_effect hf
  obtain ⟨hfound, hawaiting, hcoverage, hfields, rfl, rfl⟩ := hc
  cases canClose with
  | true =>
      refine .verified a env case _ reason fields db' hfound hawaiting hcoverage hfields ?_
        (he.becomes (update_of_map _ hfound) rfl)
      rw [CasePatch.ofChange_apply]
      exact ⟨rfl, rfl⟩
  | false =>
      exact .unverified a env case reason fields db' hfound hawaiting hcoverage (he.becomes rfl rfl)

theorem RequestCommit.step {a : CreateRiskDecisionArgs} {case : RemediationCase} {scope : Json}
    {given expiresAt : Datetime} {fields : ActorFields}
    (hc : RequestCommit a env db case scope given expiresAt fields ex st)
    (hf : Store.flush (transactionWrites ex st) db = some db') :
    CaseStep db ⟨.createRiskDecision a, env⟩ db' := by
  have he := flush_effect hf
  obtain ⟨-, -, -, -, hfound, hscope, rfl, rfl⟩ := hc
  exact .requested a env case scope expiresAt fields db' hfound hscope (fresh_of_insertDecision hf)
    (he.becomes rfl (update_of_insert db.decision? _ _))

/-- The rows after an approval or a rejection. -/
theorem ApproveCommit.becomes {a : ApproveArgs} {stored d : RiskDecision} {case : RemediationCase}
    {outcome : ApprovalOutcome} {fields : ActorFields} {role : String}
    (hc : ApproveCommit a env db db stored d case outcome fields role ex st)
    (hf : Store.flush (transactionWrites ex st) db = some db') :
    ∃ cases, db.Becomes db' cases
        (Function.update db.decision? a.decisionId
          (some (decidedDecision a env stored outcome role)))
        [] [approvalAudit a env d case outcome fields]
        [approvalOutbox a env d case outcome fields role] ∧
      match outcome with
      | .approve => ∃ next, Moves case next (targetState d.type) ∧
          cases = Function.update db.case? d.caseId (some next)
      | .reject => cases = db.case? := by
  have he := flush_effect hf
  obtain ⟨hfound, hcanonical, -, hcase, -, -, rfl, rfl⟩ := hc
  have hid : d.id = a.decisionId := by
    rw [hcanonical, ← Db.id_of_decision? hfound]; rfl
  have hcid : case.id = d.caseId := Db.id_of_case? hcase
  have hstored : db.decision? d.id = some stored := by rw [hid]; exact hfound
  have hread : db.case? case.id = some case := by rw [hcid]; exact hcase
  cases outcome with
  | approve =>
      have hcases := update_of_map
        (CasePatch.ofChange case (acceptedCase env case (targetState d.type))
          (env.clock 8)).toRow.apply hread
      have hb := he.becomes hcases (update_of_map _ hstored)
      rw [hcid, hid, CasePatch.ofChange_apply] at hb
      exact ⟨_, hb, _, ⟨rfl, rfl⟩, rfl⟩
  | reject =>
      have hb := he.becomes rfl (update_of_map _ hstored)
      rw [hid] at hb
      exact ⟨_, hb, rfl⟩

theorem ApproveCommit.step {a : ApproveArgs} {stored d : RiskDecision} {case : RemediationCase}
    {outcome : ApprovalOutcome} {fields : ActorFields} {role : String}
    (hc : ApproveCommit a env db db stored d case outcome fields role ex st)
    (hf : Store.flush (transactionWrites ex st) db = some db') :
    CaseStep db ⟨.approveRiskDecision a, env⟩ db' := by
  obtain ⟨cases, hb, hcases⟩ := hc.becomes hf
  have hguarded := approvalGuards_ok hc.guards
  cases outcome with
  | approve =>
      obtain ⟨next, hmoves, rfl⟩ := hcases
      exact .approved a env stored d case next fields role db' hc.found hc.canonical hguarded
        hc.foundCase (hc.valid rfl) (hc.edge rfl) hmoves hb
  | reject =>
      obtain rfl := hcases
      exact .rejected a env stored d case fields role db' hc.found hc.canonical hguarded hb

theorem RevokeCommit.step {a : RevokeArgs} {d : RiskDecision} {case : RemediationCase}
    (hc : RevokeCommit a env db db d case ex st)
    (hf : Store.flush (transactionWrites ex st) db = some db') :
    CaseStep db ⟨.revokeDecision a, env⟩ db' := by
  have he := flush_effect hf
  obtain ⟨hfound, hcase, rfl, rfl⟩ := hc
  have hid : d.id = a.decisionId := Db.id_of_decision? hfound
  have hcid : case.id = d.caseId := Db.id_of_case? hcase
  have hstored : db.decision? d.id = some d := by rw [hid]; exact hfound
  have hread : db.case? case.id = some case := by rw [hcid]; exact hcase
  have hcases := update_of_map
    (CasePatch.ofChange case (triagedCase case) (env.clock 8)).toRow.apply hread
  have hdecisions := update_of_map
    (DecisionPatch.ofChange d (revokedDecision env d) (env.clock 8)).toRow.apply hstored
  have hb := he.becomes hcases hdecisions
  rw [hcid, hid, CasePatch.ofChange_apply, DecisionPatch.ofChange_apply] at hb
  exact .revoked a env d case _ _ db' hfound hcase ⟨rfl, rfl⟩ hb

theorem ReopenCommit.step {a : ReopenArgs} {case : RemediationCase}
    (hc : ReopenCommit a env db case ex st)
    (hf : Store.flush (transactionWrites ex st) db = some db') :
    CaseStep db ⟨.reopenOnEvidence a, env⟩ db' := by
  have he := flush_effect hf
  obtain ⟨hfound, hclosed, rfl, rfl⟩ := hc
  refine .reopened a env case _ db' hfound hclosed ?_ (he.becomes (update_of_map _ hfound) rfl)
  rw [CasePatch.ofChange_apply]
  exact ⟨rfl, rfl⟩

theorem ExpirationCommit.step {now : Option Datetime} {due : List RiskDecision}
    (hc : ExpirationCommit (now.getD (Datetime.utc (env.clock 0))) env db due ex st)
    (hf : Store.flush (transactionWrites ex st) db = some db') :
    CaseStep db ⟨.processExpirations now, env⟩ db' := by
  have he := flush_effect hf
  obtain ⟨hdue, rfl, hstate⟩ := hc
  have hb := he.becomes (funext hstate.cases) (funext hstate.decisions)
  rw [show transactionWrites [] st = st from rfl, hstate.verifications] at hb
  refine .expired now env due _ _ db' ?_ hstate.audits hstate.outbox hstate.trail hb
  intro d hd
  have hmem := mem_of_dueDecisions hdue d hd
  simp only [List.mem_filter, decide_eq_true_eq] at hmem
  exact ⟨Table.find?_key_of_mem hmem.1, hmem.2.1⟩

end Commits

/-- How a call ended, by its contract. -/
theorem Call.ran (db : Db) (c : Call) :
    Program.Ran (c.contract fun _ => True) db (c.body.run (Session.fresh db)).1 (c.run db) :=
  Program.runDb_of_meets trivial (fun _ _ _ _ _ _ _ _ => trivial) (Call.body_meets _ c)

/-- **A call that runs alone makes one of the listed steps.** -/
theorem Call.run_step (db : Db) (c : Call) : CaseStep db c (c.run db) := by
  have hran := Call.ran db c
  generalize c.run db = db' at hran ⊢
  cases hran with
  | quiet h => exact .quiet c
  | committed h reads ex st db' hreads hguards hcommit hflush =>
      obtain ⟨op, env⟩ := c
      cases op with
      | createCase a =>
          obtain ⟨owner, rfl, rfl⟩ := hcommit
          exact createCase_step hflush
      | transition a =>
          obtain ⟨s, case, target, fields, rfl, hc⟩ := hcommit
          obtain rfl := hreads s (by simp)
          exact hc.step hguards hflush
      | verify a =>
          obtain ⟨s, case, canClose, reason, fields, rfl, hc⟩ := hcommit
          obtain rfl := hreads s (by simp)
          exact hc.step hflush
      | createRiskDecision a =>
          obtain ⟨s, case, scope, given, expiresAt, fields, rfl, hc⟩ := hcommit
          obtain rfl := hreads s (by simp)
          exact hc.step hflush
      | approveRiskDecision a =>
          obtain ⟨s₁, s₂, stored, d, case, outcome, fields, role, rfl, hc⟩ := hcommit
          obtain rfl := hreads s₁ (by simp)
          obtain rfl := hreads s₂ (by simp)
          exact hc.step hflush
      | revokeDecision a =>
          obtain ⟨s₁, s₂, d, case, rfl, hc⟩ := hcommit
          obtain rfl := hreads s₁ (by simp)
          obtain rfl := hreads s₂ (by simp)
          exact hc.step hflush
      | processExpirations now =>
          obtain ⟨due, hc⟩ := hcommit db hreads
          exact hc.step hflush
      | reopenOnEvidence a =>
          obtain ⟨s, case, rfl, hc⟩ := hcommit
          obtain rfl := hreads s (by simp)
          exact hc.step hflush

/-! ## What no call changes of a case -/

/-- What a case is about. -/
def RemediationCase.subject (c : RemediationCase) : String × List String :=
  (c.organizationId, c.exposures)

/-- The cases are about what they were about. -/
def Db.SameSubjects (db db' : Db) : Prop :=
  ∀ id, (db'.case? id).map RemediationCase.subject = (db.case? id).map RemediationCase.subject

omit [Python] in
/-- A statement other than an `INSERT` of a case leaves that alone. -/
theorem subject_onCase {w : Write} (hw : ∀ c, w ≠ .insertCase c) (id : String)
    (x : Option RemediationCase) :
    (w.onCase id x).map RemediationCase.subject = x.map RemediationCase.subject := by
  cases w with
  | insertCase c => exact absurd rfl (hw c)
  | updateCase k p =>
      simp only [Write.onCase]
      split_ifs
      · cases x <;> rfl
      · rfl
  | _ => rfl

omit [Python] in
theorem sameSubjects_of_flush {ws : List Write} {db db' : Db}
    (hflush : Store.flush ws db = some db') (hws : ∀ c, Write.insertCase c ∉ ws) :
    db.SameSubjects db' := by
  intro id
  rw [(flush_effect hflush).case?]
  generalize db.case? id = x
  clear hflush
  induction ws generalizing x with
  | nil => rfl
  | cons w ws ih =>
      have hw : ∀ c, w ≠ .insertCase c := fun c h => hws c (h ▸ List.mem_cons_self)
      rw [List.foldl_cons, ih (fun c h => hws c (List.mem_cons_of_mem _ h)), subject_onCase hw]

/-- **No call but `create_case` changes what a case is about.** -/
theorem Call.run_sameSubjects (db : Db) (c : Call) (hop : ∀ a, c.op ≠ .createCase a) :
    db.SameSubjects (c.run db) := by
  have hran := Call.ran db c
  generalize c.run db = db' at hran ⊢
  cases hran with
  | quiet h => exact fun _ => rfl
  | committed h reads ex st db' hreads hguards hcommit hflush =>
      refine sameSubjects_of_flush hflush ?_
      obtain ⟨op, env⟩ := c
      cases op with
      | createCase a => exact absurd rfl (hop a)
      | transition a =>
          obtain ⟨s, case, target, fields, rfl, hc⟩ := hcommit
          have hwrites := hc.writes
          split at hwrites <;> obtain ⟨rfl, rfl⟩ := hwrites <;>
            simp [transactionWrites, transitionUpdate, CondUpdate.onCase]
      | verify a =>
          obtain ⟨s, case, canClose, reason, fields, rfl, hc⟩ := hcommit
          rw [hc.executed_eq, hc.staged_eq]
          cases canClose <;> simp [transactionWrites, verificationRows]
      | createRiskDecision a =>
          obtain ⟨s, case, scope, given, expiresAt, fields, rfl, hc⟩ := hcommit
          rw [hc.executed_eq, hc.staged_eq]
          simp [transactionWrites]
      | approveRiskDecision a =>
          obtain ⟨s₁, s₂, stored, d, case, outcome, fields, role, rfl, hc⟩ := hcommit
          rw [hc.executed_eq, hc.staged_eq]
          cases outcome <;>
            simp [transactionWrites, approvalUpdate, CondUpdate.onDecision, approvalCaseWrites]
      | revokeDecision a =>
          obtain ⟨s₁, s₂, d, case, rfl, hc⟩ := hcommit
          rw [hc.executed_eq, hc.staged_eq]
          simp [transactionWrites]
      | processExpirations now =>
          obtain ⟨due, hc⟩ := hcommit db hreads
          rw [hc.executed_eq]
          exact hc.state.noNewCase
      | reopenOnEvidence a =>
          obtain ⟨s, case, rfl, hc⟩ := hcommit
          rw [hc.executed_eq, hc.staged_eq]
          simp [transactionWrites]

end Runtime

end VulnOpsHub
