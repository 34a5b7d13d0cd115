import VulnOpsHub.Cases.Runs

set_option autoImplicit false

/-! # The audit trail of a case

Every operation writes its audit and outbox rows by itself. A transition, a revocation, an expiry and
a reopening record the case with both of its states; a verification that closes a case records no
state, and the approval of a decision is recorded under the decision. -/

namespace VulnOpsHub

/-! ## Recorded states -/

/-- The states that audit rows record of the case `id`, a prior and a new one for each row. -/
def recordedOf (id : String) (audits : List AuditEvent) : List (Option String × String) :=
  audits.filterMap (AuditEvent.recorded? id)

/-- The statuses of the case that its audit rows tell of, in order. -/
def replay (id : String) (audits : List AuditEvent) : List String :=
  (recordedOf id audits).map Prod.snd

/-- The rows that a step adds say what it does to the status of each case. -/
structure Traces (db db' : Db) (audits : List AuditEvent) (outbox : List OutboxEvent) : Prop where
  audits_eq : db'.auditEvents.rows = db.auditEvents.rows ++ audits
  outbox_eq : db'.outboxEvents.rows = db.outboxEvents.rows ++ outbox
  unchanged : ∀ id, db'.statusOf id = db.statusOf id → recordedOf id audits = []
  changed : ∀ id, db'.statusOf id ≠ db.statusOf id → ∃ t, db'.statusOf id = some t ∧
    recordedOf id audits = [((db.statusOf id).map CaseStatus.value, t.value)] ∧
    (outbox.filter (OutboxEvent.aboutCase id)).length = 1

/-- The statuses a case has gone through, over the rows visited, latest first. -/
def statusHistory (id : String) : List Db → List CaseStatus
  | [] => []
  | db :: past =>
      if db.statusOf id = (statusHistory id past).getLast? then statusHistory id past
      else statusHistory id past ++ (db.statusOf id).toList

theorem replay_append (id : String) (audits more : List AuditEvent) :
    replay id (audits ++ more) = replay id audits ++ replay id more := by
  simp [replay, recordedOf]

/-! ## The rows of the operations -/

section Rows

variable {env : CallEnv} {id : String} {case : RemediationCase}

theorem recordedOf_single (id : String) (a : AuditEvent) :
    recordedOf id [a] = (a.recorded? id).toList := by
  unfold recordedOf
  rw [filterMap_cons_toList, List.filterMap_nil, List.append_nil]

/-- A row about something else than a case. -/
theorem recorded?_of_subjectType {a : AuditEvent} (h : a.subjectType ≠ "case") :
    a.recorded? id = none :=
  if_neg fun hn => h hn.1

/-- A row without a prior state that does not tell of a creation. -/
theorem recorded?_of_priorState {a : AuditEvent} (hprior : a.priorState = none)
    (haction : a.action ≠ "case.created") : a.recorded? id = none := by
  refine if_neg fun hn => ?_
  rcases hn.2.2 with h | h
  · rw [hprior] at h
    cases h
  · exact haction h

theorem recordedOf_created (id : String) (env : CallEnv) (case : RemediationCase) :
    recordedOf id (createdAudit env case ::
        if case.ownershipEscalated then [escalationAudit env case] else [])
      = if case.id = id then [(none, CaseStatus.new.value)] else [] := by
  have hescalation : recordedOf id
      (if case.ownershipEscalated then [escalationAudit env case] else []) = [] := by
    by_cases hescalated : case.ownershipEscalated = true
    · rw [if_pos hescalated, recordedOf_single,
        recorded?_of_priorState rfl (by simp [escalationAudit, CallEnv.audit])]
      rfl
    · rw [if_neg hescalated]
      rfl
  unfold recordedOf at hescalation ⊢
  rw [filterMap_cons_toList, hescalation, List.append_nil]
  by_cases hid : case.id = id
  · simp [createdAudit, CallEnv.audit, AuditEvent.recorded?, hid]
  · simp [createdAudit, CallEnv.audit, AuditEvent.recorded?, hid]

/-- A row that records a case with both states. -/
theorem recordedOf_change {a : AuditEvent} {caseId : String} {s t : CaseStatus}
    (htype : a.subjectType = "case") (hid : a.subjectId = caseId)
    (hprior : a.priorState = some s.value) (hnew : a.newState = some t.value) (id : String) :
    recordedOf id [a] = if id = caseId then [(some s.value, t.value)] else [] := by
  rw [recordedOf_single]
  by_cases h : id = caseId
  · simp [AuditEvent.recorded?, htype, hid, hprior, hnew, h]
  · have hne : caseId ≠ id := Ne.symm h
    simp [AuditEvent.recorded?, htype, hid, h, hne]

theorem verificationResult_action (method : String) (canClose : Bool) :
    (verificationResult method canClose).2.1 ≠ "case.created" := by
  unfold verificationResult
  split_ifs <;> decide

theorem aboutCase_single {e : OutboxEvent} {caseId : String} (htype : e.aggregateType = "case")
    (hid : e.aggregateId = caseId) : ([e].filter (OutboxEvent.aboutCase caseId)).length = 1 := by
  simp [OutboxEvent.aboutCase, htype, hid]

end Rows

/-! ## One step -/

theorem ne_of_mem_allowedTransitions {s t : CaseStatus} (h : t ∈ allowedTransitions s) : s ≠ t := by
  rintro rfl
  revert h
  cases s <;> decide

section Steps

variable {db db' : Db} {cases : String → Option RemediationCase}
  {decisions : String → Option RiskDecision} {vs : List Verification} {as : List AuditEvent}
  {os : List OutboxEvent}

/-- A step that leaves the cases alone and records none. -/
theorem Db.Becomes.traces_same (h : db.Becomes db' db.case? decisions vs as os)
    (hquiet : ∀ id, recordedOf id as = []) : Traces db db' as os where
  audits_eq := h.audits_eq
  outbox_eq := h.outbox_eq
  unchanged := fun id _ => hquiet id
  changed := fun id hne => absurd (h.statusOf_same id) hne

/-- A step that moves one case and records that. -/
theorem Db.Becomes.traces_change {k : String} {case next : RemediationCase} {t : CaseStatus}
    {a : AuditEvent} {e : OutboxEvent}
    (h : db.Becomes db' (Function.update db.case? k (some next)) decisions vs [a] [e])
    (found : db.case? k = some case) (ht : next.status = t) (hne : case.status ≠ t)
    (hrecorded : ∀ id, recordedOf id [a]
      = if id = k then [(some case.status.value, t.value)] else [])
    (htype : e.aggregateType = "case") (hid : e.aggregateId = k) : Traces db db' [a] [e] where
  audits_eq := h.audits_eq
  outbox_eq := h.outbox_eq
  unchanged := by
    intro id hsame
    rw [hrecorded]
    refine if_neg fun hk => ?_
    subst hk
    rcases h.statusOf_cases ht id with ⟨-, hs⟩ | ⟨hk, -⟩
    · rw [hs, Db.statusOf_of_case? found, Option.some.injEq] at hsame
      exact hne hsame.symm
    · exact hk rfl
  changed := by
    intro id hchanged
    rcases h.statusOf_cases ht id with ⟨rfl, hs⟩ | ⟨-, hs⟩
    · refine ⟨t, hs, ?_, aboutCase_single htype hid⟩
      rw [hrecorded, if_pos rfl, Db.statusOf_of_case? found]
      rfl
    · exact absurd hs hchanged

/-- The statuses after expiries. -/
theorem Db.Becomes.statusOf_sentBack {env : CallEnv} {due : List RiskDecision}
    (h : db.Becomes db' (fun id => (db.case? id).map (afterExpiry env due)) decisions vs as os)
    (id : String) :
    db'.statusOf id = if db.sentBack due id then some .triage else db.statusOf id := by
  unfold Db.statusOf Db.sentBack
  rw [h.cases_eq]
  cases hc : db.case? id with
  | none => simp [hc]
  | some c =>
      simp only [hc, Option.map_some, afterExpiry, Option.any_some, decide_eq_true_eq]
      split <;> rfl

theorem Db.statusOf_of_sentBack {due : List RiskDecision} {id : String}
    (hback : db.sentBack due id = true) : db.statusOf id = some .riskAccepted := by
  unfold Db.sentBack at hback
  cases hc : db.case? id with
  | none =>
      rw [hc] at hback
      cases hback
  | some c =>
      rw [hc, Option.any_some, decide_eq_true_eq] at hback
      rw [Db.statusOf_of_case? hc, hback.1]

theorem Db.Becomes.traces_expiry {env : CallEnv} {due : List RiskDecision}
    (h : db.Becomes db' (fun id => (db.case? id).map (afterExpiry env due)) decisions vs as os)
    (trail : ExpiryTrail db due as os) : Traces db db' as os := by
  have hstatus := h.statusOf_sentBack
  refine ⟨h.audits_eq, h.outbox_eq, fun id hsame => ?_, fun id hchanged => ?_⟩
  · unfold recordedOf
    rw [trail.audits]
    refine if_neg fun hback => ?_
    rw [hstatus, if_pos hback, Db.statusOf_of_sentBack hback] at hsame
    cases hsame
  · have hback : db.sentBack due id = true := by
      by_contra hback
      rw [hstatus, if_neg hback] at hchanged
      exact hchanged rfl
    refine ⟨.triage, by rw [hstatus, if_pos hback], ?_, by rw [trail.outbox, if_pos hback]⟩
    unfold recordedOf
    rw [trail.audits, if_pos hback, Db.statusOf_of_sentBack hback]
    rfl

end Steps

section Runtime

variable [Python]

/-- The call is none that leaves the trail: it closes no case by a verification, accepts no risk, and
    revokes no decision about a case that is in triage already. -/
def Call.OnTrail (db : Db) (c : Call) : Prop :=
  match c.op with
  | .verify a => ∀ case reason fields, db.case? a.caseId = some case →
      case.status = .awaitingVerification → actorAuditFields a.actor = .ok fields →
      evaluateCoverage a.method a.coverage ≠ .ok (true, reason)
  | .approveRiskDecision a => ∀ stored case fields role, db.decision? a.decisionId = some stored →
      ApprovalGuarded a (canonicalizeRiskDecisionExpiry stored) .approve fields role →
      db.case? stored.caseId = some case →
      validateApproval (canonicalizeRiskDecisionExpiry stored) (c.env.clock 1) = .ok () →
      targetState stored.type ∉ allowedTransitions case.status
  | .revokeDecision a => ∀ d case, db.decision? a.decisionId = some d →
      db.case? d.caseId = some case → case.status ≠ .triage
  | _ => True

/-- **A step on the trail is recorded.** -/
theorem CaseStep.traces {db db' : Db} {c : Call} (hstep : CaseStep db c db') (hok : c.OnTrail db) :
    ∃ audits outbox, Traces db db' audits outbox := by
  cases hstep with
  | quiet =>
      exact ⟨[], [], by simp, by simp, fun _ _ => rfl, fun id hne => absurd rfl hne⟩
  | created a env owner _ fresh h =>
      have hstatus := fun id => h.statusOf_cases (t := .new) rfl id
      refine ⟨_, _, h.audits_eq, h.outbox_eq, fun id hsame => ?_, fun id hchanged => ?_⟩
      · rw [recordedOf_created]
        refine if_neg fun hid => ?_
        subst hid
        rcases hstatus (newCase a env owner).id with ⟨-, hs⟩ | ⟨hk, -⟩
        · rw [hs, Db.statusOf, fresh] at hsame
          cases hsame
        · exact hk rfl
      · rcases hstatus id with ⟨rfl, hs⟩ | ⟨-, hs⟩
        · refine ⟨.new, hs, ?_, aboutCase_single rfl rfl⟩
          rw [recordedOf_created, if_pos rfl, Db.statusOf, fresh]
          rfl
        · exact absurd hs hchanged
  | transitioned a env case next target fields _ found edge target_eq version fields_eq moves h =>
      exact ⟨_, _, h.traces_change found moves.status (ne_of_mem_allowedTransitions edge)
        (recordedOf_change rfl rfl rfl rfl) rfl rfl⟩
  | verified a env case next reason fields _ found awaiting coverage fields_eq moves h =>
      exact absurd coverage (hok case reason fields found awaiting fields_eq)
  | unverified a env case reason fields _ found awaiting coverage h =>
      refine ⟨_, _, h.traces_same fun id => ?_⟩
      rw [recordedOf_single, recorded?_of_priorState rfl (verificationResult_action _ _)]
      rfl
  | requested a env case scope expiresAt fields _ found scope_eq fresh h =>
      refine ⟨_, _, h.traces_same fun id => ?_⟩
      have htype : (requestedAudit a env case (newRiskDecision a env scope expiresAt)
          fields).subjectType ≠ "case" := by simp [requestedAudit, CallEnv.actorAudit, CallEnv.audit]
      rw [recordedOf_single, recorded?_of_subjectType htype]
      rfl
  | approved a env stored d case next fields role _ found canonical guarded foundCase valid edge
      moves h =>
      subst canonical
      exact absurd edge (hok stored case fields role found guarded foundCase valid)
  | rejected a env stored d case fields role _ found canonical guarded h =>
      refine ⟨_, _, h.traces_same fun id => ?_⟩
      have htype : (approvalAudit a env d case .reject fields).subjectType ≠ "case" := by
        simp [approvalAudit, CallEnv.actorAudit, CallEnv.audit]
      rw [recordedOf_single, recorded?_of_subjectType htype]
      rfl
  | revoked a env d case next time _ found foundCase moves h =>
      have hid : case.id = d.caseId := Db.id_of_case? foundCase
      exact ⟨_, _, h.traces_change foundCase moves.status (hok d case found foundCase)
        (recordedOf_change rfl hid rfl rfl) rfl hid⟩
  | expired now env due audits outbox _ approved audits_eq outbox_eq trail h =>
      exact ⟨_, _, h.traces_expiry trail⟩
  | reopened a env case next _ found closed moves h =>
      exact ⟨_, _, h.traces_change found moves.status (by rw [closed]; decide)
        (recordedOf_change rfl rfl rfl rfl) rfl rfl⟩

/-! ## Runs -/

omit [Python] in
/-- A recorded step extends the history by what its rows say. -/
theorem Traces.history {db db' : Db} {audits : List AuditEvent} {outbox : List OutboxEvent}
    {past : List Db} (htraces : Traces db db' audits outbox) (id : String)
    (hlast : (statusHistory id (db :: past)).getLast? = db.statusOf id)
    (hreplay : replay id db.auditEvents.rows
      = (statusHistory id (db :: past)).map CaseStatus.value) :
    (statusHistory id (db' :: db :: past)).getLast? = db'.statusOf id ∧
      replay id db'.auditEvents.rows
        = (statusHistory id (db' :: db :: past)).map CaseStatus.value := by
  rw [statusHistory, hlast, htraces.audits_eq, replay_append, hreplay]
  by_cases hsame : db'.statusOf id = db.statusOf id
  · rw [if_pos hsame, hsame, replay, htraces.unchanged id hsame]
    exact ⟨hlast, List.append_nil _⟩
  · obtain ⟨t, ht, hrecorded, -⟩ := htraces.changed id hsame
    rw [if_neg hsame, ht, replay, hrecorded]
    simp

/-- In a run on the trail the audit rows of a case tell its history. -/
theorem Run.history {exposures : Table ExposureRow} {assets : Table AssetRow}
    {services : Table BusinessServiceRow} {db : Db} {past : List Db}
    (hrun : Run Call.OnTrail (Db.initial exposures assets services) db past) (id : String) :
    (statusHistory id (db :: past)).getLast? = db.statusOf id ∧
      replay id db.auditEvents.rows = (statusHistory id (db :: past)).map CaseStatus.value := by
  induction hrun with
  | start => exact ⟨rfl, rfl⟩
  | call h c hok ih =>
      obtain ⟨audits, outbox, htraces⟩ := (Call.run_step _ c).traces hok
      exact htraces.history id ih.1 ih.2

/-- **The audit trail.** In a run in which every call is on the trail, each call adds exactly one
    audit row and one event for a case whose status it changes, with both states, and no such row for
    the others; and the audit rows of a case tell its whole history. -/
theorem auditTrail_faithful (exposures : Table ExposureRow) (assets : Table AssetRow)
    (services : Table BusinessServiceRow) {db : Db} {past : List Db}
    (hrun : Run Call.OnTrail (Db.initial exposures assets services) db past) :
    (∀ c : Call, c.OnTrail db → ∃ audits outbox, Traces db (c.run db) audits outbox) ∧
    ∀ id, replay id db.auditEvents.rows = (statusHistory id (db :: past)).map CaseStatus.value :=
  ⟨fun c hok => (Call.run_step db c).traces hok, fun id => (hrun.history id).2⟩

end Runtime

/-! ## A verified case -/

/-- A verification closes the case, and its audit rows do not say so. -/
theorem auditTrail_unfaithful : ¬ ∀ (_ : Python) (exposures : Table ExposureRow)
    (assets : Table AssetRow) (services : Table BusinessServiceRow) (db : Db) (past : List Db),
    Run (fun _ _ => True) (Db.initial exposures assets services) db past → ∀ id,
      replay id db.auditEvents.rows = (statusHistory id (db :: past)).map CaseStatus.value := by
  intro h
  have hreplay := h asciiPython .empty .empty .empty _ _
    (sampleRows_run (sampleAwaiting ++ [sampleVerify 5]) fun _ _ _ => trivial) sampleCase
  revert hreplay
  decide +kernel

/-- The transitions before it are recorded. -/
theorem auditTrail_faithful_awaiting :
    replay sampleCase (sampleRows sampleAwaiting).auditEvents.rows
      = ["new", "triage", "assigned", "in_progress", "awaiting_verification"] := by
  have hok : ∀ db, ∀ c ∈ sampleAwaiting, @Call.OnTrail asciiPython db c := by
    intro db c hc
    simp only [sampleAwaiting, List.mem_cons, List.not_mem_nil, or_false] at hc
    rcases hc with rfl | rfl | rfl | rfl | rfl <;> trivial
  have hfaithful := @auditTrail_faithful asciiPython .empty .empty .empty _ _
    (sampleRows_run sampleAwaiting hok)
  rw [hfaithful.2]
  decide +kernel

end VulnOpsHub
