import VulnOpsHub.Cases.Concurrency

set_option autoImplicit false

/-! # Racing approvals of one decision

Any number of `approve_risk_decision` calls on one pending decision. The conditional `UPDATE` of the
decision decides between them: the first commit moves the decision out of `pending_approval` for
good, so a call that commits has read, and found, the rows nobody else had touched. -/

namespace VulnOpsHub

/-! ## Records of a decision -/

/-- The actions of the audit rows an approval or a rejection writes. -/
def approvalActions : List String :=
  ["risk.waiver.accepted", "risk.compensating_control.accepted", "risk.false_positive.accepted",
    "risk.not_affected.accepted", "risk.accepted", "risk.decision.rejected"]

def approvalEventTypes : List String :=
  ["vulnops.risk-decision.accepted.v1", "vulnops.risk-decision.rejected.v1"]

/-- The audit row records an approval or a rejection of the decision. -/
def recordsApproval (did : String) (x : AuditEvent) : Bool :=
  x.subjectType == "risk_decision" && x.subjectId == did && approvalActions.contains x.action

/-- The outbox row announces an approval or a rejection of the decision. -/
def announcesApproval (did : String) (x : OutboxEvent) : Bool :=
  x.aggregateType == "risk_decision" && x.aggregateId == did
    && approvalEventTypes.contains x.eventType

/-- The decision exists and is no longer pending. -/
def Decided (did : String) (db : Db) : Prop :=
  ∃ d, db.decision? did = some d ∧ d.status ≠ .pendingApproval

/-- Only decided decisions have records of an approval or a rejection. -/
structure RecordsDecided (did : String) (db : Db) : Prop where
  audits : ∀ x ∈ db.auditEvents.rows, recordsApproval did x = true → Decided did db
  outbox : ∀ x ∈ db.outboxEvents.rows, announcesApproval did x = true → Decided did db

theorem ApprovalOutcome.status_ne (outcome : ApprovalOutcome) :
    outcome.status ≠ .pendingApproval := by
  cases outcome <;> decide

theorem ApprovalOutcome.action_mem (type : String) (outcome : ApprovalOutcome) :
    outcome.action type ∈ approvalActions := by
  cases outcome with
  | approve =>
      unfold ApprovalOutcome.action approvalAction
      split_ifs <;> decide
  | reject =>
      show "risk.decision.rejected" ∈ approvalActions
      decide

theorem ApprovalOutcome.eventType_mem (outcome : ApprovalOutcome) :
    outcome.eventType ∈ approvalEventTypes := by
  cases outcome <;> decide

theorem Decided.of_update {did k : String} {db db' : Db} {d : RiskDecision}
    {cases : String → Option RemediationCase} {vs : List Verification} {as : List AuditEvent}
    {os : List OutboxEvent}
    (h : db.Becomes db' cases (Function.update db.decision? k (some d)) vs as os)
    (hstatus : d.status ≠ .pendingApproval) (hdid : did = k ∨ Decided did db) :
    Decided did db' := by
  unfold Decided
  rw [h.decisions_eq]
  by_cases hk : did = k
  · rw [hk, Function.update_self]
    exact ⟨d, rfl, hstatus⟩
  · rw [Function.update_of_ne hk]
    exact hdid.resolve_left hk

/-! ## What an approval requires -/

/-- What an approval at `now` requires of the decision. -/
structure CompleteAt (d : RiskDecision) (now : Instant) : Prop where
  type : d.type ∈ supportedRiskDecisionTypes
  reason : strip d.reason ≠ ""
  evidence : ∃ ids : List String, ids ≠ [] ∧ d.evidenceIds = .arr (ids.map .str) ∧
    ∀ id ∈ ids, strip id ≠ ""
  unexpired : ∃ expiry utc, d.expiresAt = .datetime expiry ∧ normalizeUtc expiry = .ok utc ∧
    now < utc.wall

/-- Evidence that passes its check is a nonempty list of nonblank strings. -/
theorem validateEvidenceIds_ok {evidence : Json} (h : validateEvidenceIds evidence = .ok ()) :
    ∃ ids : List String, ids ≠ [] ∧ evidence = .arr (ids.map .str) ∧
      ∀ id ∈ ids, strip id ≠ "" := by
  have hstrings : ∀ items : List Json,
      items.any isBlankItem = false →
      ∃ ids : List String, items = ids.map .str ∧ ∀ id ∈ ids, strip id ≠ "" := by
    intro items
    induction items with
    | nil => exact fun _ => ⟨[], rfl, by simp⟩
    | cons item items ih =>
        intro hany
        rw [List.any_cons, Bool.or_eq_false_iff] at hany
        obtain ⟨ids, rfl, hids⟩ := ih hany.2
        cases item with
        | str s =>
            refine ⟨s :: ids, rfl, fun id hid => ?_⟩
            rcases List.mem_cons.1 hid with rfl | hid
            · simpa [isBlankItem] using hany.1
            · exact hids id hid
        | _ => exact absurd hany.1 (by simp [isBlankItem])
  unfold validateEvidenceIds at h
  split at h
  · next item items =>
      split at h
      · cases h
      · next hany =>
          obtain ⟨ids, hids, hblank⟩ := hstrings _ (Bool.eq_false_iff.2 hany)
          refine ⟨ids, ?_, by rw [hids], hblank⟩
          rintro rfl
          cases hids
  · cases h

theorem normalizeUtc_ok {dt u : Datetime} (h : normalizeUtc dt = .ok u) :
    ∃ w, u = Datetime.utc w ∧ representable w = true := by
  unfold normalizeUtc at h
  obtain ⟨offset, -, h⟩ := except_bind_eq_ok.1 h
  cases offset with
  | none => cases h
  | some o =>
      dsimp only at h
      split at h
      · next hrep =>
          cases h
          exact ⟨_, rfl, hrep⟩
      · cases h

/-- A time in UTC is normalized already. -/
theorem normalizeUtc_utc {w : Instant} (h : representable w = true) :
    normalizeUtc (Datetime.utc w) = .ok (Datetime.utc w) := by
  have hoffset : safeUtcoffset (ensureAware (Datetime.utc w)) = .ok (some 0) := rfl
  unfold normalizeUtc
  rw [hoffset]
  show (if representable (w - 0) then pure (Datetime.utc (w - 0)) else throw invalidExpiryTimezone)
    = Except.ok (Datetime.utc w)
  rw [Int.sub_zero, if_pos h]
  rfl

/-- Reading an expiry in UTC does not change what it normalizes to. -/
theorem normalizeUtc_of_canonicalizeExpiry {e : Expiry} {dt utc : Datetime}
    (hcanonical : canonicalizeExpiry e = .datetime dt) (h : normalizeUtc dt = .ok utc) :
    ∃ expiry, e = .datetime expiry ∧ normalizeUtc expiry = .ok utc := by
  cases e with
  | missing => cases hcanonical
  | notDatetime => cases hcanonical
  | datetime expiry =>
      refine ⟨expiry, rfl, ?_⟩
      simp only [canonicalizeExpiry] at hcanonical
      split at hcanonical
      · next u hu =>
          cases hcanonical
          obtain ⟨w, rfl, hrep⟩ := normalizeUtc_ok hu
          rw [normalizeUtc_utc hrep] at h
          rw [hu, ← h]
      · cases hcanonical
        exact h

/-- The checks of an approval, made on the decision as it was read. -/
theorem completeAt_of_validateApproval {stored : RiskDecision} {now : Instant}
    (h : validateApproval (canonicalizeRiskDecisionExpiry stored) now = .ok ()) :
    CompleteAt stored now := by
  unfold validateApproval at h
  obtain ⟨_, htype, h⟩ := except_bind_eq_ok.1 h
  obtain ⟨_, hevidence, hexpiry⟩ := except_bind_eq_ok.1 h
  unfold validateTypeAndReason at htype
  split at htype
  · cases htype
  · next hsupported =>
      split at htype
      · cases htype
      · next hreason =>
          refine ⟨not_not.1 hsupported, hreason, validateEvidenceIds_ok hevidence, ?_⟩
          unfold validateRiskDecisionExpiry at hexpiry
          split at hexpiry
          · cases hexpiry
          · cases hexpiry
          · next dt hdt =>
              obtain ⟨utc, hutc, hlt⟩ := except_bind_eq_ok.1 hexpiry
              obtain ⟨expiry, he, hnorm⟩ := normalizeUtc_of_canonicalizeExpiry hdt hutc
              refine ⟨expiry, utc, he, hnorm, ?_⟩
              by_contra hnot
              rw [if_pos (not_lt.1 hnot)] at hlt
              cases hlt

section Runtime

variable [Python]

omit [Python] in
theorem approvalAudit_records (a : ApproveArgs) (env : CallEnv) (d : RiskDecision)
    (case : RemediationCase) (outcome : ApprovalOutcome) (fields : ActorFields) (did : String) :
    recordsApproval did (approvalAudit a env d case outcome fields) = (d.id == did) := by
  have haction : approvalActions.contains (outcome.action d.type) = true :=
    List.contains_iff_mem.2 (outcome.action_mem d.type)
  unfold recordsApproval approvalAudit CallEnv.actorAudit CallEnv.audit
  dsimp only
  rw [haction]
  simp

theorem approvalOutbox_announces (a : ApproveArgs) (env : CallEnv) (d : RiskDecision)
    (case : RemediationCase) (outcome : ApprovalOutcome) (fields : ActorFields)
    (role did : String) :
    announcesApproval did (approvalOutbox a env d case outcome fields role) = (d.id == did) := by
  have htype : approvalEventTypes.contains outcome.eventType = true :=
    List.contains_iff_mem.2 outcome.eventType_mem
  unfold announcesApproval approvalOutbox CallEnv.outbox
  dsimp only
  rw [htype]
  simp

/-- A decision that has been decided never becomes pending again. -/
theorem CaseStep.decided {db db' : Db} {c : Call} (h : CaseStep db c db') {did : String}
    (hd : Decided did db) : Decided did db' := by
  have hsame : db'.decision? = db.decision? → Decided did db' := by
    intro heq
    unfold Decided
    rw [heq]
    exact hd
  cases h with
  | quiet => exact hd
  | created a env owner _ fresh h => exact hsame h.decisions_eq
  | transitioned a env case next target fields _ found edge target_eq version fields_eq moves h =>
      exact hsame h.decisions_eq
  | verified a env case next reason fields _ found awaiting coverage fields_eq moves h =>
      exact hsame h.decisions_eq
  | unverified a env case reason fields _ found awaiting coverage h => exact hsame h.decisions_eq
  | requested a env case scope expiresAt fields _ found scope_eq fresh h =>
      obtain ⟨d, hfound, hstatus⟩ := hd
      refine ⟨d, ?_, hstatus⟩
      rw [h.decisions_eq, Function.update_of_ne]
      · exact hfound
      · intro heq
        rw [heq, fresh] at hfound
        cases hfound
  | approved a env stored d case next fields role _ found canonical guarded foundCase valid edge
      moves h =>
      exact .of_update h (ApprovalOutcome.status_ne .approve) (Or.inr hd)
  | rejected a env stored d case fields role _ found canonical guarded h =>
      exact .of_update h (ApprovalOutcome.status_ne .reject) (Or.inr hd)
  | revoked a env d case next time _ found foundCase moves h =>
      exact .of_update h (fun hstatus => by cases hstatus) (Or.inr hd)
  | expired now env due audits outbox _ approved audits_eq outbox_eq trail h =>
      obtain ⟨d, hfound, hstatus⟩ := hd
      refine ⟨afterOwnExpiry env due d, ?_, ?_⟩
      · rw [h.decisions_eq]
        dsimp only
        rw [hfound]; rfl
      · unfold afterOwnExpiry
        split
        · exact fun hstatus => by cases hstatus
        · exact hstatus
  | reopened a env case next _ found closed moves h => exact hsame h.decisions_eq

omit [Python] in
/-- Records accumulate; the new ones have to be of a decision decided by then. -/
theorem RecordsDecided.of_becomes {did : String} {db db' : Db}
    {cases : String → Option RemediationCase} {decisions : String → Option RiskDecision}
    {vs : List Verification} {as : List AuditEvent} {os : List OutboxEvent}
    (hI : RecordsDecided did db) (h : db.Becomes db' cases decisions vs as os)
    (hkept : Decided did db → Decided did db')
    (haudits : ∀ x ∈ as, recordsApproval did x = true → Decided did db')
    (houtbox : ∀ x ∈ os, announcesApproval did x = true → Decided did db') :
    RecordsDecided did db' := by
  refine ⟨fun x hx hrec => ?_, fun x hx hrec => ?_⟩
  · rw [h.audits_eq, List.mem_append] at hx
    rcases hx with hx | hx
    · exact hkept (hI.audits x hx hrec)
    · exact haudits x hx hrec
  · rw [h.outbox_eq, List.mem_append] at hx
    rcases hx with hx | hx
    · exact hkept (hI.outbox x hx hrec)
    · exact houtbox x hx hrec

omit [Python] in
/-- A call that only writes records about cases. -/
theorem RecordsDecided.of_case {did : String} {db db' : Db}
    {cases : String → Option RemediationCase} {decisions : String → Option RiskDecision}
    {vs : List Verification} {as : List AuditEvent} {os : List OutboxEvent}
    (hI : RecordsDecided did db) (h : db.Becomes db' cases decisions vs as os)
    (hkept : Decided did db → Decided did db') (haudits : ∀ x ∈ as, x.subjectType = "case")
    (houtbox : ∀ x ∈ os, x.aggregateType = "case") : RecordsDecided did db' := by
  refine hI.of_becomes h hkept (fun x hx hrec => ?_) fun x hx hrec => ?_
  · rw [recordsApproval, haudits x hx] at hrec
    cases hrec
  · rw [announcesApproval, houtbox x hx] at hrec
    cases hrec

/-- An approval or a rejection decides the decision it records. -/
theorem RecordsDecided.of_approval {did : String} {db db' : Db} {a : ApproveArgs} {env : CallEnv}
    {stored d : RiskDecision} {case : RemediationCase} {outcome : ApprovalOutcome}
    {fields : ActorFields} {role : String} {cases : String → Option RemediationCase}
    (hI : RecordsDecided did db) (found : db.decision? a.decisionId = some stored)
    (canonical : d = canonicalizeRiskDecisionExpiry stored)
    (h : db.Becomes db' cases
      (Function.update db.decision? a.decisionId (some (decidedDecision a env stored outcome role)))
      [] [approvalAudit a env d case outcome fields]
      [approvalOutbox a env d case outcome fields role])
    (hkept : Decided did db → Decided did db') : RecordsDecided did db' := by
  have hid : d.id = a.decisionId := by rw [canonical, ← Db.id_of_decision? found]; rfl
  refine hI.of_becomes h hkept (fun x hx hrec => ?_) fun x hx hrec => ?_
  · rw [List.mem_singleton.1 hx, approvalAudit_records, hid, beq_iff_eq] at hrec
    exact .of_update h outcome.status_ne (Or.inl hrec.symm)
  · rw [List.mem_singleton.1 hx, approvalOutbox_announces, hid, beq_iff_eq] at hrec
    exact .of_update h outcome.status_ne (Or.inl hrec.symm)

/-- One call keeps records to decided decisions. -/
theorem CaseStep.recordsDecided {db db' : Db} {c : Call} (hstep : CaseStep db c db') {did : String}
    (hI : RecordsDecided did db) : RecordsDecided did db' := by
  have hkept : Decided did db → Decided did db' := hstep.decided
  cases hstep with
  | quiet => exact hI
  | created a env owner _ fresh h =>
      refine hI.of_case h hkept (fun x hx => ?_) (by simp [createdOutbox, CallEnv.outbox])
      split at hx
      · simp only [List.mem_cons, List.not_mem_nil, or_false] at hx
        rcases hx with rfl | rfl <;> rfl
      · rw [List.mem_singleton.1 hx]; rfl
  | transitioned a env case next target fields _ found edge target_eq version fields_eq moves h =>
      exact hI.of_case h hkept (by simp [transitionAudit, CallEnv.actorAudit, CallEnv.audit])
        (by simp [transitionOutbox, CallEnv.outbox])
  | verified a env case next reason fields _ found awaiting coverage fields_eq moves h =>
      exact hI.of_case h hkept (by simp [verificationAudit, CallEnv.actorAudit, CallEnv.audit])
        (by simp [verificationOutbox, CallEnv.outbox])
  | unverified a env case reason fields _ found awaiting coverage h =>
      exact hI.of_case h hkept (by simp [verificationAudit, CallEnv.actorAudit, CallEnv.audit])
        (by simp [verificationOutbox, CallEnv.outbox])
  | requested a env case scope expiresAt fields _ found scope_eq fresh h =>
      -- a request is about a decision, but neither approves nor rejects it
      refine hI.of_becomes h hkept (fun x hx hrec => ?_) fun x hx hrec => ?_
      · rw [List.mem_singleton.1 hx] at hrec
        simp [recordsApproval, requestedAudit, CallEnv.actorAudit, CallEnv.audit,
          approvalActions] at hrec
      · rw [List.mem_singleton.1 hx] at hrec
        simp [announcesApproval, requestedOutbox, CallEnv.outbox, approvalEventTypes] at hrec
  | approved a env stored d case next fields role _ found canonical guarded foundCase valid edge
      moves h =>
      exact hI.of_approval found canonical h hkept
  | rejected a env stored d case fields role _ found canonical guarded h =>
      exact hI.of_approval found canonical h hkept
  | revoked a env d case next time _ found foundCase moves h =>
      exact hI.of_case h hkept (by simp [revokedAudit, CallEnv.audit])
        (by simp [revokedOutbox, CallEnv.outbox])
  | expired now env due audits outbox _ approved audits_eq outbox_eq trail h =>
      refine hI.of_becomes h hkept (fun x hx hrec => ?_) fun x hx hrec => ?_
      · simp [recordsApproval, audits_eq x hx, approvalActions] at hrec
      · simp [announcesApproval, outbox_eq x hx, approvalEventTypes] at hrec
  | reopened a env case next _ found closed moves h =>
      exact hI.of_case h hkept (by simp [reopenedAudit, CallEnv.audit])
        (by simp [reopenedOutbox, CallEnv.outbox])

/-- Over all runs, only decided decisions have records of an approval or a rejection. -/
theorem Db.Reached.recordsDecided {db : Db} (h : db.Reached) (did : String) :
    RecordsDecided did db := by
  obtain ⟨exposures, assets, services, past, hrun⟩ := h
  induction hrun with
  | start => exact ⟨fun _ hx _ => (by cases hx), fun _ hx _ => (by cases hx)⟩
  | call _ c _ ih => exact (c.run_step _).recordsDecided ih

/-! ## One approval alone -/

/-- A call whose guards hold commits what its contract describes. -/
theorem ApproveCommit.run {a : ApproveArgs} {env : CallEnv} {db db' : Db} {stored d : RiskDecision}
    {case : RemediationCase} {outcome : ApprovalOutcome} {fields : ActorFields} {role : String}
    {ex : List (CondUpdate Db)} {st : List Write}
    (hc : ApproveCommit a env db db stored d case outcome fields role ex st)
    (hg : ∀ u ∈ ex, u.guard db = true) (hf : Store.flush (transactionWrites ex st) db = some db') :
    Call.run db ⟨.approveRiskDecision a, env⟩ = db' := by
  obtain ⟨hfound, rfl, hguards, hcase, hvalid, hedge, rfl, rfl⟩ := hc
  have hread : (db.decision? a.decisionId).map canonicalizeRiskDecisionExpiry
      = some (canonicalizeRiskDecisionExpiry stored) := by rw [hfound]; rfl
  have hchecked : (if outcome = .approve then
        validateApproval (canonicalizeRiskDecisionExpiry stored) (env.clock 1)
      else .ok ()) = .ok () := by
    split
    · next happrove => exact hvalid happrove
    · rfl
  have hguard := hg _ (List.mem_singleton.2 rfl)
  unfold Call.run Call.body Program.runDb
  rw [Program.run_map]
  unfold approveRiskDecision getRiskDecision getCase
  rw [Program.run_lookup_bind hread, hguards, Program.ofExcept_ok_bind]
  dsimp only
  rw [Program.run_lookup_bind hcase, hchecked, Program.ofExcept_ok_bind,
    Program.run_execute_bind hguard, if_pos rfl, if_neg fun h => h.2 (hedge h.1),
    Program.run_add_bind, Program.run_add_bind, Program.run_commitAll_bind,
    Program.run_lookup_snd]
  · rfl
  · exact hf

/-! ## Any number of approvals -/

/-- What lets a call approve or reject the decision `d`, in the rows `db`. -/
structure ApprovalAllowed (a : ApproveArgs) (env : CallEnv) (db : Db) (d : RiskDecision) :
    Prop where
  human : a.actor.principalType = some "human"
  separate : a.actor.actor ≠ d.requestedBy
  capability : "risk:approve" ∈ (a.capabilities.getD []).map (fun c => Python.lower (strip c))
  role : ∃ role ∈ approverRoleOrder, ∃ r ∈ a.actor.roles.getD [], Python.lower (strip r) = role
  outcome : ∃ outcome, normalizeOutcome a.outcome = .ok outcome
  approve : normalizeOutcome a.outcome = .ok .approve →
    CompleteAt d (env.clock 1) ∧ ∃ case, db.case? d.caseId = some case ∧
      targetState d.type ∈ allowedTransitions case.status

theorem approvalRole_eq_some {roles : Option (List String)} {role : String}
    (h : approvalRole roles = some role) :
    role ∈ approverRoleOrder ∧ ∃ r ∈ roles.getD [], Python.lower (strip r) = role := by
  unfold approvalRole at h
  refine ⟨List.mem_of_find?_eq_some h, ?_⟩
  have hmem := List.find?_some h
  simp only [decide_eq_true_eq, List.mem_map, List.mem_filter] at hmem
  obtain ⟨r, ⟨hr, -⟩, hrole⟩ := hmem
  exact ⟨r, hr, hrole⟩

theorem ApproveCommit.allowed {a : ApproveArgs} {env : CallEnv} {db : Db} {stored d : RiskDecision}
    {case : RemediationCase} {outcome : ApprovalOutcome} {fields : ActorFields} {role : String}
    {ex : List (CondUpdate Db)} {st : List Write}
    (hc : ApproveCommit a env db db stored d case outcome fields role ex st) :
    ApprovalAllowed a env db stored := by
  obtain ⟨-, rfl, hguards, hcase, hvalid, hedge, -, -⟩ := hc
  have hguarded := approvalGuards_ok hguards
  refine ⟨hguarded.human, hguarded.separate, hguarded.capability, ?_,
    ⟨outcome, hguarded.outcome_eq⟩, fun happrove => ?_⟩
  · obtain ⟨hrole, hr⟩ := approvalRole_eq_some hguarded.role_eq
    exact ⟨role, hrole, hr⟩
  · rw [hguarded.outcome_eq] at happrove
    cases happrove
    exact ⟨completeAt_of_validateApproval (hvalid rfl), case, hcase, hedge rfl⟩

/-- Approvals and rejections of the decision. -/
def approvalRequests (did : String) : Protocol Db Call PyError Answer where
  body := Call.body
  allows := fun _ c => ∃ a, c.op = .approveRiskDecision a ∧ a.decisionId = did
  rely := fun _ => True

/-- Until the decision is decided nothing is committed, and it stays decided. -/
def approvalOutline (did : String) : Outline Db Call PyError Answer where
  inv := fun db => (db.decision? did).isSome
  rel := fun s t => s = t ∨ Decided did t
  contract := Call.contract fun db => (db.decision? did).isSome
  rel_refl := fun _ => Or.inl rfl
  rel_trans := fun h₁ h₂ => by
    rcases h₂ with rfl | h₂
    · exact h₁
    · exact Or.inr h₂

section Commit

variable {did : String} {r : CaseCommit}

/-- A call that commits found the decision pending, so everything it had read is still so: its
    commit is the one it would have made alone. -/
theorem CommitRecord.Valid.approval (hr : r.Valid (approvalRequests did) (approvalOutline did)) :
    ∃ a stored d case outcome fields role, r.call = ⟨.approveRiskDecision a, r.call.env⟩ ∧
      a.decisionId = did ∧ stored.status = .pendingApproval ∧
      ApproveCommit a r.call.env r.before r.before stored d case outcome fields role r.executed
        r.staged := by
  obtain ⟨a, hop, hid⟩ := hr.allowed
  have hcommit := hr.onCommit
  change (r.call.contract _).onCommit _ _ _ at hcommit
  unfold Call.contract at hcommit
  rw [hop] at hcommit
  obtain ⟨db₁, db₂, stored, d, case, outcome, fields, role, hreads, hc⟩ := hcommit
  have hdid : d.id = did := by rw [hc.canonical, ← hid, ← Db.id_of_decision? hc.found]; rfl
  have hguard := hr.guards _ (by rw [hc.executed_eq]; exact List.mem_singleton.2 rfl)
  obtain ⟨e, he, hpending⟩ := (Option.any_eq_true _ _).1 hguard
  rw [decide_eq_true_eq] at hpending
  have hread : ∀ db ∈ r.reads, db = r.before := by
    intro db hdb
    refine ((hr.reads_rel db hdb).2).resolve_right ?_
    rintro ⟨e', he', hdecided⟩
    rw [← hdid, he] at he'
    cases he'
    exact hdecided hpending
  obtain rfl := hread db₁ (by simp [hreads])
  obtain rfl := hread db₂ (by simp [hreads])
  have hstored : stored.status = .pendingApproval := by
    have hd := (approvalGuards_ok hc.guards).pending
    rw [hc.canonical] at hd
    exact hd
  exact ⟨a, stored, d, case, outcome, fields, role, by rw [← hop], hid, hstored, hc⟩

/-- What a commit leaves. -/
theorem CommitRecord.Valid.approval_becomes
    (hr : r.Valid (approvalRequests did) (approvalOutline did)) :
    ∃ d audit outbox, r.after.decision? did = some d ∧ d.status ≠ .pendingApproval ∧
      r.after.auditEvents.rows = r.before.auditEvents.rows ++ [audit] ∧
      recordsApproval did audit = true ∧
      r.after.outboxEvents.rows = r.before.outboxEvents.rows ++ [outbox] ∧
      announcesApproval did outbox = true := by
  obtain ⟨a, stored, d, case, outcome, fields, role, -, hid, -, hc⟩ := hr.approval
  obtain ⟨cases, hb, -⟩ := hc.becomes hr.flushed
  have hdid : d.id = did := by rw [hc.canonical, ← hid, ← Db.id_of_decision? hc.found]; rfl
  refine ⟨decidedDecision a r.call.env stored outcome role, _, _, ?_, outcome.status_ne,
    hb.audits_eq, ?_, hb.outbox_eq, ?_⟩
  · rw [hb.decisions_eq, ← hid, Function.update_self]
  · rw [approvalAudit_records, hdid, beq_self_eq_true]
  · rw [approvalOutbox_announces, hdid, beq_self_eq_true]

end Commit

theorem approvalOutline_proved (did : String) :
    (approvalOutline did).Proved (approvalRequests did) := by
  refine ⟨fun _ c _ => Call.body_meets _ c, fun r hr => ?_, fun r hr => Or.inr ?_⟩
  · obtain ⟨d, audit, outbox, hd, -⟩ := hr.approval_becomes
    exact Option.isSome_iff_exists.2 ⟨d, hd⟩
  · obtain ⟨d, audit, outbox, hd, hstatus, -⟩ := hr.approval_becomes
    exact ⟨d, hd, hstatus⟩

/-- At most one approval commits, over the rows all of them started from. -/
theorem approval_log {did : String} {db₀ : Db} {s : System Db Call PyError Answer}
    (hs : s.Valid (approvalRequests did) (approvalOutline did) db₀) :
    (s.log = [] ∧ s.db = db₀) ∨ ∃ r, s.log = [r] ∧ r.before = db₀ ∧ s.db = r.after := by
  have hlinked := hs.linked
  cases hlog : s.log with
  | nil =>
      rw [hlog] at hlinked
      exact Or.inl ⟨rfl, hlinked⟩
  | cons r rest =>
      rw [hlog] at hlinked
      obtain ⟨hdb, hlinked⟩ := hlinked
      cases rest with
      | nil => exact Or.inr ⟨r, rfl, hlinked, hdb⟩
      | cons r' rest =>
          -- the second commit would have found the decision decided
          have hr := hs.log r (by rw [hlog]; exact List.mem_cons_self)
          have hr' := hs.log r' (by rw [hlog]; exact List.mem_cons_of_mem _ List.mem_cons_self)
          obtain ⟨a, stored, d, case, outcome, fields, role, -, hid, hpending, hc⟩ := hr.approval
          obtain ⟨e, audit, outbox, he, hdecided, -⟩ := hr'.approval_becomes
          have hfound := hc.found
          rw [hlinked.1, hid, he] at hfound
          cases hfound
          exact absurd hpending hdecided

/-- A call that returned made the one commit there is. -/
theorem approval_commit_of_returned {did : String} {db₀ : Db} {s : System Db Call PyError Answer}
    (hs : s.Valid (approvalRequests did) (approvalOutline did) db₀) {i : ℕ}
    {t : Thread Db Call PyError Answer} {x : Answer} (ht : s.threads[i]? = some t)
    (hprog : t.prog = .ret (.returned x)) :
    ∃ r, s.log = [r] ∧ r.before = db₀ ∧ r.thread = i ∧ r.call = t.call := by
  obtain ⟨a, hop, -⟩ := (hs.threads i t ht).allowed
  have hquiet : ¬ ((approvalOutline did).contract t.call).onReturn false (.returned x) := by
    change ¬ (t.call.contract _).onReturn _ _
    unfold Call.contract
    rw [hop]
    exact Bool.noConfusion
  obtain ⟨r, hr, hri, hcall⟩ := hs.exists_commit ht hprog hquiet
  rcases approval_log hs with ⟨hnil, -⟩ | ⟨r', hone, hbefore, -⟩
  · rw [hnil] at hr
    cases hr
  · rw [hone] at hr
    cases List.mem_singleton.1 hr
    exact ⟨r, hone, hbefore, hri, hcall⟩

/-- A call that failed made no commit. -/
theorem approval_no_commit_of_failed {did : String} {db₀ : Db}
    {s : System Db Call PyError Answer}
    (hs : s.Valid (approvalRequests did) (approvalOutline did) db₀) {i : ℕ}
    {t : Thread Db Call PyError Answer} {o : Outcome PyError Answer} (ht : s.threads[i]? = some t)
    (hprog : t.prog = .ret o) (hfailed : o.isReturned = false) : ∀ r ∈ s.log, r.thread ≠ i := by
  obtain ⟨a, hop, hid⟩ := (hs.threads i t ht).allowed
  refine hs.no_commit ht hprog fun hreturn => ?_
  change (t.call.contract _).onReturn _ _ at hreturn
  unfold Call.contract at hreturn
  rw [hop] at hreturn
  have hreturned : o.isReturned = true := hreturn fun db hdb => by rw [hid]; exact hdb
  rw [hfailed] at hreturned
  cases hreturned

/-- A pending decision has no audit and no outbox row of an approval. -/
theorem Db.Reached.countP_of_pending {db : Db} (h : db.Reached) {did : String} {d : RiskDecision}
    (hd : db.decision? did = some d) (hpending : d.status = .pendingApproval) :
    db.auditEvents.rows.countP (recordsApproval did) = 0 ∧
      db.outboxEvents.rows.countP (announcesApproval did) = 0 := by
  have hundecided : ¬ Decided did db := by
    rintro ⟨d', hd', hdecided⟩
    rw [hd] at hd'
    cases hd'
    exact hdecided hpending
  have hrecords := h.recordsDecided did
  exact ⟨List.countP_eq_zero.2 fun x hx hrec => hundecided (hrecords.audits x hx hrec),
    List.countP_eq_zero.2 fun x hx hrec => hundecided (hrecords.outbox x hx hrec)⟩

/-- A commit adds one row of each kind. -/
theorem CommitRecord.Valid.approval_countP {did : String} {r : CaseCommit} {d : RiskDecision}
    (hr : r.Valid (approvalRequests did) (approvalOutline did))
    (hd : r.after.decision? did = some d) : d.status ≠ .pendingApproval ∧
      r.after.auditEvents.rows.countP (recordsApproval did)
        = r.before.auditEvents.rows.countP (recordsApproval did) + 1 ∧
      r.after.outboxEvents.rows.countP (announcesApproval did)
        = r.before.outboxEvents.rows.countP (announcesApproval did) + 1 := by
  obtain ⟨e, audit, outbox, he, hdecided, haudits, haudit, houtbox, hannounce⟩ :=
    hr.approval_becomes
  rw [he] at hd
  cases hd
  rw [haudits, houtbox, List.countP_append, List.countP_append, List.countP_singleton,
    List.countP_singleton, if_pos haudit, if_pos hannounce]
  exact ⟨hdecided, rfl, rfl⟩

/-- What any number of approvals and rejections make of a pending decision: one of them at most
    succeeds, with its guards satisfied; the rows are as if it alone had been called; and a decision
    has its one audit and one outbox row exactly when it is decided. -/
structure OneApproval (did : String) (db₀ : Db) (d₀ : RiskDecision)
    (s : System Db Call PyError Answer) : Prop where
  unique : ∀ (i j : ℕ) t u x y, s.threads[i]? = some t → s.threads[j]? = some u →
    t.prog = .ret (.returned x) → u.prog = .ret (.returned y) → i = j
  allowed : ∀ (i : ℕ) t x, s.threads[i]? = some t → t.prog = .ret (.returned x) →
    ∃ a, t.call.op = .approveRiskDecision a ∧ ApprovalAllowed a t.call.env db₀ d₀
  records : ∀ d, s.db.decision? did = some d →
    s.db.auditEvents.rows.countP (recordsApproval did)
        = (if d.status = .pendingApproval then 0 else 1) ∧
      s.db.outboxEvents.rows.countP (announcesApproval did)
        = (if d.status = .pendingApproval then 0 else 1)
  alone : (s.log = [] ∧ s.db = db₀) ∨ ∃ r, s.log = [r] ∧ s.db = r.call.run db₀
  failed : ∀ (i : ℕ) t o, s.threads[i]? = some t → t.prog = .ret o → o.isReturned = false →
    ∀ r ∈ s.log, r.thread ≠ i

/-- **At most one approval of a decision succeeds, and the others leave nothing behind.** -/
theorem oneApproval_of_pending {did : String} {db₀ : Db} {d₀ : RiskDecision}
    (hreached : db₀.Reached) (hd₀ : db₀.decision? did = some d₀)
    (hpending : d₀.status = .pendingApproval) {s : System Db Call PyError Answer}
    (h : Reachable (approvalRequests did) db₀ s) : OneApproval did db₀ d₀ s := by
  have hs := h.valid (approvalOutline_proved did) (Option.isSome_iff_exists.2 ⟨d₀, hd₀⟩)
  have hlog := approval_log hs
  have hnone := hreached.countP_of_pending hd₀ hpending
  refine ⟨?_, ?_, ?_, ?_, ?_⟩
  · intro i j t u x y ht hu hx hy
    obtain ⟨r, hone, -, hri, -⟩ := approval_commit_of_returned hs ht hx
    obtain ⟨r', hone', -, hrj, -⟩ := approval_commit_of_returned hs hu hy
    rw [hone] at hone'
    cases hone'
    exact hri.symm.trans hrj
  · intro i t x ht hprog
    obtain ⟨r, hone, rfl, -, hcall⟩ := approval_commit_of_returned hs ht hprog
    have hr := hs.log r (by rw [hone]; exact List.mem_singleton.2 rfl)
    obtain ⟨a, stored, d, case, outcome, fields, role, hop, hid, -, hc⟩ := hr.approval
    have hfound := hc.found
    rw [hid, hd₀] at hfound
    cases hfound
    rw [← hcall]
    exact ⟨a, by rw [hop], hc.allowed⟩
  · intro d hd
    rcases hlog with ⟨-, hdb⟩ | ⟨r, hone, rfl, hdb⟩
    · rw [hdb, hd₀] at hd
      cases hd
      rw [hdb, if_pos hpending]
      exact hnone
    · have hr := hs.log r (by rw [hone]; exact List.mem_singleton.2 rfl)
      rw [hdb] at hd
      obtain ⟨hdecided, haudits, houtbox⟩ := hr.approval_countP hd
      rw [hdb, if_neg hdecided, haudits, houtbox, hnone.1, hnone.2]
      exact ⟨rfl, rfl⟩
  · rcases hlog with hnil | ⟨r, hone, rfl, hdb⟩
    · exact Or.inl hnil
    · have hr := hs.log r (by rw [hone]; exact List.mem_singleton.2 rfl)
      obtain ⟨a, stored, d, case, outcome, fields, role, hop, -, -, hc⟩ := hr.approval
      refine Or.inr ⟨r, hone, ?_⟩
      rw [hdb, hop]
      exact (hc.run hr.guards hr.flushed).symm
  · intro i t o ht hprog hfailed
    exact approval_no_commit_of_failed hs ht hprog hfailed

end Runtime

/-- Bob approves a waiver twice at the same time: one of the calls conflicts. -/
theorem oneApproval_of_pending_race : ∃ d₀ s,
    sampleSchedule
      (sampleRows [sampleCreate, sampleTransition 1 "triage", sampleRequest 2 "waiver"])
      [.start (sampleApprove 3 (sampleDecision 2)), .start (sampleApprove 4 (sampleDecision 2)),
        .run 0, .run 1, .run 0, .run 1, .run 0, .run 0, .run 0, .run 0, .run 0, .run 1, .run 1]
      = some s ∧
    s.log.length = 1 ∧ @OneApproval asciiPython (sampleDecision 2)
      (sampleRows [sampleCreate, sampleTransition 1 "triage", sampleRequest 2 "waiver"]) d₀ s := by
  have hrun := sampleRows_run [sampleCreate, sampleTransition 1 "triage", sampleRequest 2 "waiver"]
    fun _ _ _ => trivial
  have hpending : ((sampleRows
      [sampleCreate, sampleTransition 1 "triage", sampleRequest 2 "waiver"]).decision?
        (sampleDecision 2)).any (fun d => d.status = .pendingApproval) = true := by
    decide +kernel
  have hone : (sampleSchedule
      (sampleRows [sampleCreate, sampleTransition 1 "triage", sampleRequest 2 "waiver"])
      [.start (sampleApprove 3 (sampleDecision 2)), .start (sampleApprove 4 (sampleDecision 2)),
        .run 0, .run 1, .run 0, .run 1, .run 0, .run 0, .run 0, .run 0, .run 0, .run 1, .run 1]).any
      (fun s => decide (s.log.length = 1)) = true := by
    decide +kernel
  obtain ⟨d₀, hd₀, hstatus⟩ := (Option.any_eq_true _ _).1 hpending
  obtain ⟨s, hs, hlog⟩ := (Option.any_eq_true _ _).1 hone
  rw [decide_eq_true_eq] at hstatus hlog
  refine ⟨d₀, s, hs, hlog, @oneApproval_of_pending asciiPython _ _ _ ⟨_, _, _, _, hrun⟩ hd₀
    hstatus _ (.of_runEvents _ .init (fun db c hc => ?_) hs fun _ _ => trivial)⟩
  simp only [List.mem_cons, List.not_mem_nil, or_false, reduceCtorEq,
    Event.start.injEq] at hc
  rcases hc with rfl | rfl <;> exact ⟨_, rfl, rfl⟩

end VulnOpsHub
