import VulnOpsHub.Cases.Expirations

set_option autoImplicit false

/-! # What each call commits

One contract per operation: what the call read, the guards it has passed, and the statements of its
one transaction. Every later argument about an operation, alone or interleaved with others, starts
from its contract and does not look at the program again. -/

namespace VulnOpsHub

open Program

/-! ## Descriptions of commits -/

/-- The commit of `transition`, which read `case` from `db`. -/
structure TransitionCommit (a : TransitionArgs) (env : CallEnv) (db : Db) (case : RemediationCase)
    (target : CaseStatus) (fields : ActorFields) (executed : List (CondUpdate Db))
    (staged : List Write) : Prop where
  found : db.case? a.caseId = some case
  edge : target ∈ allowedTransitions case.status
  target_eq : target.value = a.target
  fields_eq : actorAuditFields a.actor = .ok fields
  writes : match a.expectedVersion with
    | some expected =>
        executed = [transitionUpdate a env case target expected] ∧ staged =
          [.insertAudit (transitionAudit a env case target fields),
            .insertOutbox (transitionOutbox a env case target fields)]
    | none =>
        executed = [] ∧ staged =
          [.updateCase a.caseId (.ofChange case (transitioned a env case target) (env.clock 8)),
            .insertAudit (transitionAudit a env case target fields),
            .insertOutbox (transitionOutbox a env case target fields)]

section Runtime

variable [Python]

/-- The commit of `verify`, which read `case` from `db`. -/
structure VerifyCommit (a : VerifyArgs) (env : CallEnv) (db : Db) (case : RemediationCase)
    (canClose : Bool) (reason : String) (fields : ActorFields) (executed : List (CondUpdate Db))
    (staged : List Write) : Prop where
  found : db.case? a.caseId = some case
  awaiting : case.status = .awaitingVerification
  coverage : evaluateCoverage a.method a.coverage = .ok (canClose, reason)
  fields_eq : actorAuditFields a.actor = .ok fields
  executed_eq : executed = []
  staged_eq : staged = verificationRows a env case canClose reason
    ++ [.insertAudit (verificationAudit a env case canClose reason fields),
      .insertOutbox (verificationOutbox a env case canClose reason fields)]

/-- The commit of `create_risk_decision`. -/
structure RequestCommit (a : CreateRiskDecisionArgs) (env : CallEnv) (db : Db)
    (case : RemediationCase) (scope : Json) (given expiresAt : Datetime) (fields : ActorFields)
    (executed : List (CondUpdate Db)) (staged : List Write) : Prop where
  requester : a.actor.actor = a.requestedBy
  valid : validateRiskDecisionRequest a.type a.reason a.evidenceIds a.expiresAt (env.clock 0)
    = .ok given
  normalized : normalizeUtc given = .ok expiresAt
  fields_eq : actorAuditFields a.actor = .ok fields
  found : db.case? a.caseId = some case
  scope_eq : (if a.scope.truthy then a.scope.get "exposure_ids" else .ok .null) = .ok scope
  executed_eq : executed = []
  staged_eq : staged =
    [.insertDecision (newRiskDecision a env scope expiresAt),
      .insertAudit (requestedAudit a env case (newRiskDecision a env scope expiresAt) fields),
      .insertOutbox
        (requestedOutbox a env case (newRiskDecision a env scope expiresAt) expiresAt fields)]

/-- The commit of `approve_risk_decision`, which read the decision `stored` from `db₁` and then its
    case from `db₂`; `d` is the decision with its expiry in UTC. -/
structure ApproveCommit (a : ApproveArgs) (env : CallEnv) (db₁ db₂ : Db) (stored d : RiskDecision)
    (case : RemediationCase) (outcome : ApprovalOutcome) (fields : ActorFields) (role : String)
    (executed : List (CondUpdate Db)) (staged : List Write) : Prop where
  found : db₁.decision? a.decisionId = some stored
  canonical : d = canonicalizeRiskDecisionExpiry stored
  guards : approvalGuards a d = .ok (outcome, fields, role)
  foundCase : db₂.case? d.caseId = some case
  valid : outcome = .approve → validateApproval d (env.clock 1) = .ok ()
  edge : outcome = .approve → targetState d.type ∈ allowedTransitions case.status
  executed_eq : executed = [approvalUpdate a env d outcome role]
  staged_eq : staged = approvalCaseWrites env d case outcome
    ++ [.insertAudit (approvalAudit a env d case outcome fields),
      .insertOutbox (approvalOutbox a env d case outcome fields role)]

/-- The commit of `revoke_decision`, which read the decision from `db₁` and its case from `db₂`. -/
structure RevokeCommit (a : RevokeArgs) (env : CallEnv) (db₁ db₂ : Db) (d : RiskDecision)
    (case : RemediationCase) (executed : List (CondUpdate Db)) (staged : List Write) : Prop where
  found : db₁.decision? a.decisionId = some d
  foundCase : db₂.case? d.caseId = some case
  executed_eq : executed = []
  staged_eq : staged =
    [.updateDecision d.id (.ofChange d (revokedDecision env d) (env.clock 8)),
      .updateCase case.id (.ofChange case (triagedCase case) (env.clock 8)),
      .insertAudit (revokedAudit a env case), .insertOutbox (revokedOutbox a env case)]

/-- The commit of `reopen_on_evidence`. -/
structure ReopenCommit (a : ReopenArgs) (env : CallEnv) (db : Db) (case : RemediationCase)
    (executed : List (CondUpdate Db)) (staged : List Write) : Prop where
  found : db.case? a.caseId = some case
  closed : case.status = .closed
  executed_eq : executed = []
  staged_eq : staged =
    [.updateCase a.caseId (.ofChange case (reopenedCase case) (env.clock 8)),
      .insertAudit (reopenedAudit a env case), .insertOutbox (reopenedOutbox a env)]

/-- The commit of `process_expirations`, all of whose reads saw `db`. -/
structure ExpirationCommit (now : Datetime) (env : CallEnv) (db : Db) (due : List RiskDecision)
    (executed : List (CondUpdate Db)) (staged : List Write) : Prop where
  due_eq : dueDecisions (ensureAware now) (db.decisions.rows.filter fun d =>
    d.status = .approved ∧ d.expiresAt ≠ .missing) = .ok due
  executed_eq : executed = []
  state : ExpirationState env db due staged

/-! ## Contracts -/

section Contracts

variable {α : Type}

def transitionContract (inv : Db → Prop) (a : TransitionArgs) (env : CallEnv) :
    Contract Db PyError α :=
  .once (fun reads executed staged => ∃ db case target fields,
      reads = [db] ∧ TransitionCommit a env db case target fields executed staged)
    (∀ db, inv db → (db.case? a.caseId).isSome)

def verifyContract (inv : Db → Prop) (a : VerifyArgs) (env : CallEnv) : Contract Db PyError α :=
  .once (fun reads executed staged => ∃ db case canClose reason fields,
      reads = [db] ∧ VerifyCommit a env db case canClose reason fields executed staged)
    (∀ db, inv db → (db.case? a.caseId).isSome)

def approveContract (inv : Db → Prop) (a : ApproveArgs) (env : CallEnv) : Contract Db PyError α :=
  .once (fun reads executed staged => ∃ db₁ db₂ stored d case outcome fields role,
      reads = [db₂, db₁] ∧
        ApproveCommit a env db₁ db₂ stored d case outcome fields role executed staged)
    (∀ db, inv db → (db.decision? a.decisionId).isSome)

def revokeContract (a : RevokeArgs) (env : CallEnv) : Contract Db PyError α :=
  .once (fun reads executed staged => ∃ db₁ db₂ d case,
      reads = [db₂, db₁] ∧ RevokeCommit a env db₁ db₂ d case executed staged) True

def reopenContract (a : ReopenArgs) (env : CallEnv) : Contract Db PyError α :=
  .once (fun reads executed staged => ∃ db case,
      reads = [db] ∧ ReopenCommit a env db case executed staged) True

/-- Whether a new row survives until the call reads it back is left open. -/
def createCaseContract (a : CreateCaseArgs) (env : CallEnv) : Contract Db PyError α :=
  .once (fun _ executed staged => ∃ owner,
      executed = [] ∧ staged = createdRows env (newCase a env owner)) False

def requestContract (a : CreateRiskDecisionArgs) (env : CallEnv) : Contract Db PyError α :=
  .once (fun reads executed staged => ∃ db case scope given expiresAt fields,
      reads = [db] ∧ RequestCommit a env db case scope given expiresAt fields executed staged) False

def expirationContract (now : Option Datetime) (env : CallEnv) : Contract Db PyError α :=
  .once (fun reads executed staged => ∀ db, (∀ r ∈ reads, r = db) →
      ∃ due, ExpirationCommit (now.getD (Datetime.utc (env.clock 0))) env db due executed staged) True

/-- The contract of a call. -/
def Call.contract (inv : Db → Prop) (c : Call) : Contract Db PyError Answer :=
  match c.op with
  | .createCase a => createCaseContract a c.env
  | .transition a => transitionContract inv a c.env
  | .verify a => verifyContract inv a c.env
  | .createRiskDecision a => requestContract a c.env
  | .approveRiskDecision a => approveContract inv a c.env
  | .revokeDecision a => revokeContract a c.env
  | .processExpirations now => expirationContract now c.env
  | .reopenOnEvidence a => reopenContract a c.env

end Contracts

/-! ## Operations meet their contracts -/

variable (inv : Db → Prop)

omit [Python] in
/-- After its commit a call finds its row, unless the invariant allows that row to be missing. -/
theorem once_missing {α β : Type} {inv : Db → Prop} {g : Db → Option β} {s : Db}
    {commit : List Db → List (CondUpdate Db) → List Write → Prop} {o : Outcome PyError α}
    (hs : inv s) (hnone : g s = none) :
    (Contract.once commit (∀ db, inv db → (g db).isSome = true)).onReturn true o := by
  intro hstable
  have hsome := hstable s hs
  rw [hnone] at hsome
  cases hsome

omit [Python] in
theorem transition_meets (a : TransitionArgs) (env : CallEnv) :
    (transition a env).Meets inv (transitionContract inv a env) [] [] [] false := by
  unfold transition getCase
  refine meets_lookup_bind (fun _ _ _ => rfl) fun db case _ hcase => ?_
  split
  · exact meets_raise rfl
  · next target htarget =>
      have hedge : target ∈ allowedTransitions case.status := List.mem_of_find?_eq_some htarget
      have hvalue : target.value = a.target := by simpa using List.find?_some htarget
      refine meets_ofExcept_bind (fun _ _ => rfl) fun fields hfields => ?_
      dsimp only
      split
      · next expected hexpected =>
          refine meets_execute_bind ?_ ?_ rfl
          · rw [if_pos rfl]
            refine meets_add_bind (meets_commitAll_bind ?_ rfl ?_)
            · refine ⟨db, case, target, fields, rfl, hcase, hedge, hvalue, hfields, ?_⟩
              rw [hexpected]
              exact ⟨rfl, rfl⟩
            · exact meets_lookup (fun _ hs hnone => once_missing hs hnone) fun _ _ => rfl
          · rw [if_neg Bool.false_ne_true]
            refine meets_rollbackAll_bind (meets_lookup_bind (fun _ _ _ => rfl) ?_)
            exact fun _ _ _ _ => meets_raise rfl
      · next hexpected =>
          refine meets_add_bind (meets_commitAll_bind ?_ rfl ?_)
          · refine ⟨db, case, target, fields, rfl, hcase, hedge, hvalue, hfields, ?_⟩
            rw [hexpected]
            exact ⟨rfl, rfl⟩
          · exact meets_lookup (fun _ hs hnone => once_missing hs hnone) fun _ _ => rfl

theorem verify_meets (a : VerifyArgs) (env : CallEnv) :
    (verify a env).Meets inv (verifyContract inv a env) [] [] [] false := by
  unfold verify getCase refreshCase
  refine meets_lookup_bind (fun _ _ _ => rfl) fun db case _ hcase => ?_
  split
  · exact meets_raise rfl
  · next hawaiting =>
      refine meets_ofExcept_bind (fun _ _ => rfl) fun coverage hcoverage => ?_
      refine meets_add_bind (meets_ofExcept_bind (fun _ _ => rfl) fun fields hfields => ?_)
      refine meets_add_bind (meets_commitAll_bind ?_ rfl ?_)
      · exact ⟨db, case, coverage.1, coverage.2, fields, rfl, hcase, not_not.1 hawaiting,
          hcoverage, hfields, rfl, rfl⟩
      · refine meets_lookup_bind (fun _ hs hnone => once_missing hs hnone) fun _ _ _ _ => ?_
        exact meets_pure fun _ => rfl

theorem createRiskDecision_meets (a : CreateRiskDecisionArgs) (env : CallEnv) :
    (createRiskDecision a env).Meets inv (requestContract a env) [] [] [] false := by
  unfold createRiskDecision getCase refreshCase
  split
  · exact meets_raise rfl
  · split
    · exact meets_raise rfl
    · next hrequester =>
        refine meets_ofExcept_bind (fun _ _ => rfl) fun given hgiven => ?_
        refine meets_ofExcept_bind (fun _ _ => rfl) fun expiresAt hnormalized => ?_
        refine meets_ofExcept_bind (fun _ _ => rfl) fun fields hfields => ?_
        refine meets_lookup_bind (fun _ _ _ => rfl) fun db case _ hcase => ?_
        refine meets_ofExcept_bind (fun _ _ => rfl) fun scope hscope => ?_
        refine meets_add_bind (meets_commitAll_bind ?_ rfl ?_)
        · exact ⟨db, case, scope, given, expiresAt, fields, rfl, not_not.1 hrequester, hgiven,
            hnormalized, hfields, hcase, hscope, rfl, rfl⟩
        · exact meets_lookup_bind (fun _ _ _ h => h.elim) fun _ _ _ _ =>
            meets_lookup_bind (fun _ _ _ h => h.elim) fun _ _ _ _ => meets_pure fun h => h.elim

theorem approveRiskDecision_meets (a : ApproveArgs) (env : CallEnv) :
    (approveRiskDecision a env).Meets inv (approveContract inv a env) [] [] [] false := by
  unfold approveRiskDecision getRiskDecision getCase
  refine meets_lookup_bind (fun _ _ _ => rfl) fun db₁ d _ hd => ?_
  obtain ⟨stored, hstored, rfl⟩ := Option.map_eq_some_iff.1 hd
  refine meets_ofExcept_bind (fun _ _ => rfl) fun checked hguards => ?_
  obtain ⟨outcome, fields, role⟩ := checked
  refine meets_lookup_bind (fun _ _ _ => rfl) fun db₂ case _ hcase => ?_
  refine meets_ofExcept_bind (fun _ _ => rfl) fun _ hvalid => ?_
  refine meets_execute_bind ?_ ?_ rfl
  · rw [if_pos rfl]
    split
    · exact meets_rollbackAll_bind (meets_raise rfl)
    · next hedge =>
        refine meets_add_bind (meets_add_bind (meets_commitAll_bind ?_ rfl ?_))
        · refine ⟨db₁, db₂, stored, _, case, outcome, fields, role, rfl, hstored, rfl, hguards,
            hcase, ?_, ?_, rfl, rfl⟩
          · intro happrove
            simpa [happrove] using hvalid
          · intro happrove
            by_contra hnot
            exact hedge ⟨happrove, hnot⟩
        · refine meets_lookup (fun _ hs hnone => once_missing hs ?_) fun _ _ => rfl
          exact Option.map_eq_none_iff.1 hnone
  · rw [if_neg Bool.false_ne_true]
    exact meets_rollbackAll_bind (meets_raise rfl)

omit [Python] in
theorem revokeDecision_meets (a : RevokeArgs) (env : CallEnv) :
    (revokeDecision a env).Meets inv (revokeContract a env) [] [] [] false := by
  unfold revokeDecision getCase
  refine meets_lookup_bind (fun _ _ _ => rfl) fun db₁ d _ hd => ?_
  refine meets_add_bind (meets_lookup_bind (fun _ _ _ => rfl) fun db₂ case _ hcase => ?_)
  refine meets_add_bind (meets_commitAll ?_ rfl fun _ => rfl)
  exact ⟨db₁, db₂, d, case, rfl, hd, hcase, rfl, rfl⟩

omit [Python] in
theorem reopenOnEvidence_meets (a : ReopenArgs) (env : CallEnv) :
    (reopenOnEvidence a env).Meets inv (reopenContract a env) [] [] [] false := by
  unfold reopenOnEvidence getCase
  refine meets_lookup_bind (fun _ _ _ => rfl) fun db case _ hcase => ?_
  split
  · exact meets_raise rfl
  · next hclosed =>
      refine meets_add_bind (meets_commitAll_bind ?_ rfl (meets_pure fun _ => rfl))
      exact ⟨db, case, rfl, hcase, not_not.1 hclosed, rfl, rfl⟩

theorem createCase_meets (a : CreateCaseArgs) (env : CallEnv) :
    (createCase a env).Meets inv (createCaseContract a env) [] [] [] false := by
  unfold createCase refreshCase
  refine meets_select_bind fun db _ => ?_
  refine (resolveOwners_queries _ _ _ _).meets_bind (fun _ h => h.elim) fun owners reads => ?_
  refine meets_ofExcept_bind (fun _ _ => rfl) fun owner _ => ?_
  refine meets_add_bind (meets_commitAll_bind ⟨owner, rfl, List.nil_append _⟩ rfl ?_)
  exact meets_lookup (fun _ _ _ h => h.elim) fun _ h => h.elim

theorem processExpirations_meets (now : Option Datetime) (env : CallEnv) :
    (processExpirations now env).Meets inv (expirationContract now env) [] [] [] false := by
  unfold processExpirations
  refine meets_select_bind fun db _ => ?_
  refine meets_ofExcept_bind (fun _ _ => rfl) fun due hdue => ?_
  refine expireLoop_meets env _ 0 due [] (fun _ => rfl) ?_ ?_ ?_
  · rintro _ hdb d hd
    obtain rfl := hdb db (List.mem_singleton.2 rfl)
    have hmem := mem_of_dueDecisions hdue d hd
    simp only [List.mem_filter, decide_eq_true_eq] at hmem
    exact ⟨Table.find?_key_of_mem hmem.1, hmem.2.1⟩
  · exact fun db _ => ExpirationState.init env db
  · intro reads staged hsub hstate
    refine meets_commitAll_bind ?_ rfl (meets_pure fun _ => rfl)
    intro db' hdb'
    obtain rfl := hdb' db (hsub db (List.mem_singleton.2 rfl))
    exact ⟨due, hdue, rfl, hstate db hdb'⟩

/-- **Every call meets its contract.** -/
theorem Call.body_meets (c : Call) : c.body.Meets inv (c.contract inv) [] [] [] false := by
  unfold Call.body Call.contract
  cases c.op with
  | createCase a => exact meets_map_once (createCase_meets inv a c.env)
  | transition a => exact meets_map_once (transition_meets inv a c.env)
  | verify a => exact meets_map_once (verify_meets inv a c.env)
  | createRiskDecision a => exact meets_map_once (createRiskDecision_meets inv a c.env)
  | approveRiskDecision a => exact meets_map_once (approveRiskDecision_meets inv a c.env)
  | revokeDecision a => exact meets_map_once (revokeDecision_meets inv a c.env)
  | processExpirations now => exact meets_map_once (processExpirations_meets inv now c.env)
  | reopenOnEvidence a => exact meets_map_once (reopenOnEvidence_meets inv a c.env)

end Runtime

end VulnOpsHub
