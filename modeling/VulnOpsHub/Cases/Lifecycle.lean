import VulnOpsHub.Cases.Runs

set_option autoImplicit false

/-! # The case lifecycle over runs

What the status of a case says about its history: closed cases and their verifications, accepted
cases and their decisions, and the documented state machine. -/

namespace VulnOpsHub

/-! ## Closing needs a verification -/

/-- The case enters `awaiting_verification` between `before` and `after`. -/
def Entered (id : String) (before after : Db) : Prop :=
  after.statusOf id = some .awaitingVerification ∧ before.statusOf id ≠ some .awaitingVerification

instance (id : String) (before after : Db) : Decidable (Entered id before after) :=
  inferInstanceAs (Decidable (_ ∧ _))

/-- The rows right after the case last entered `awaiting_verification`, if it ever did. -/
def lastEntry (id : String) : Db → List Db → Option Db
  | _, [] => none
  | db, before :: past => if Entered id before db then some db else lastEntry id before past

/-- A closing verification of the case has been recorded since that entry. -/
def VerifiedSinceEntry (id : String) (db : Db) (past : List Db) : Prop :=
  ∃ entry, lastEntry id db past = some entry ∧
    ∃ v ∈ db.verifications.rows, v ∉ entry.verifications.rows ∧ v.caseId = id ∧ v.status = .closed

/-- A `transition` to closed that the service accepts for a case awaiting verification. -/
def BypassesVerification (id : String) (db : Db) (c : Call) : Prop :=
  TransitionsTo id .awaitingVerification .closed db c

/-- The history of a case: the rows of its verifications accumulate since the last entry. -/
structure ClosureInv (id : String) (db : Db) (past : List Db) : Prop where
  entered : db.statusOf id = some .awaitingVerification → (lastEntry id db past).isSome
  kept : ∀ entry, lastEntry id db past = some entry →
    ∀ v ∈ entry.verifications.rows, v ∈ db.verifications.rows
  closed : db.statusOf id = some .closed → VerifiedSinceEntry id db past

section Runtime

variable [Python]

/-- Verifications are never deleted. -/
theorem CaseStep.verifications_kept {db db' : Db} {c : Call} (h : CaseStep db c db') :
    ∀ v ∈ db.verifications.rows, v ∈ db'.verifications.rows := by
  intro v hv
  obtain ⟨_, _, vs, _, _, hbecomes⟩ := h.becomes
  rw [hbecomes.verifications_eq]
  exact List.mem_append_left vs hv

omit [Python] in
/-- How a case comes to be closed after a call. -/
theorem StatusChange.closed {db db' : Db} {c : Call} {id : String} (h : StatusChange db c db' id)
    (hclosed : db'.statusOf id = some .closed) :
    db.statusOf id = some .closed ∨ BypassesVerification id db c ∨
      db.statusOf id = some .awaitingVerification ∧ ∃ v ∈ db'.verifications.rows,
        v ∉ db.verifications.rows ∧ v.caseId = id ∧ v.status = .closed := by
  cases h with
  | none h => exact Or.inl (h ▸ hclosed)
  | created absent h => rw [h] at hclosed; cases hclosed
  | transitioned s t edge by_call before h =>
      rw [h] at hclosed
      cases hclosed
      -- only a case awaiting verification has an edge to closed
      have hs : s = .awaitingVerification := by
        cases s <;> simp [allowedTransitions] at edge ⊢
      subst hs
      exact Or.inr (Or.inl by_call)
  | verified v before h mem fresh case status =>
      exact Or.inr (Or.inr ⟨before, v, mem, fresh, case, status⟩)
  | approved s type edge before h =>
      rw [h] at hclosed
      unfold targetState at hclosed
      split at hclosed <;> cases hclosed
  | revoked a d case op found foundCase ids before h => rw [h] at hclosed; cases hclosed
  | expired before h => rw [h] at hclosed; cases hclosed
  | reopened before h => rw [h] at hclosed; cases hclosed

/-- One call keeps the history invariant, unless it bypasses verification. -/
theorem ClosureInv.step {id : String} {db : Db} {past : List Db} (hI : ClosureInv id db past)
    (c : Call) (hok : ¬ BypassesVerification id db c) :
    ClosureInv id (c.run db) (db :: past) := by
  have hstep := c.run_step db
  generalize c.run db = db' at hstep ⊢
  have hkept := hstep.verifications_kept
  by_cases hentered : Entered id db db'
  · -- a new entry: nothing recorded since
    have hlast : lastEntry id db' (db :: past) = some db' := if_pos hentered
    refine ⟨fun _ => by rw [hlast]; rfl, ?_, ?_⟩
    · intro entry he v hv
      rw [hlast] at he
      rwa [Option.some.inj he]
    · intro hclosed
      rw [hentered.1] at hclosed
      cases hclosed
  · have hlast : lastEntry id db' (db :: past) = lastEntry id db past := if_neg hentered
    refine ⟨?_, ?_, ?_⟩
    · intro hawaiting
      rw [hlast]
      refine hI.entered ?_
      by_contra hnot
      exact hentered ⟨hawaiting, hnot⟩
    · intro entry he v hv
      rw [hlast] at he
      exact hkept v (hI.kept entry he v hv)
    · intro hclosed
      rcases (hstep.statusChange id).closed hclosed with hbefore | hbypass | ⟨hbefore, v, hv⟩
      · obtain ⟨entry, he, v, hv, hnew, hrest⟩ := hI.closed hbefore
        exact ⟨entry, hlast.trans he, v, hkept v hv, hnew, hrest⟩
      · exact absurd hbypass hok
      · obtain ⟨entry, he⟩ := Option.isSome_iff_exists.1 (hI.entered hbefore)
        refine ⟨entry, hlast.trans he, v, hv.1, ?_, hv.2.2⟩
        intro hmem
        exact hv.2.1 (hI.kept entry he v hmem)

/-- **Closed cases are verified.** In a run without a bypass, a closed case has a closing
    verification recorded since it last entered `awaiting_verification`. -/
theorem closed_verifiedSinceEntry {exposures : Table ExposureRow} {assets : Table AssetRow}
    {services : Table BusinessServiceRow} {id : String} {db : Db} {past : List Db}
    (h : Run (fun db c => ¬ BypassesVerification id db c) (Db.initial exposures assets services)
      db past) (hclosed : db.statusOf id = some .closed) : VerifiedSinceEntry id db past := by
  have hI : ClosureInv id db past := by
    clear hclosed
    induction h with
    | start =>
        refine ⟨fun hawaiting => ?_, fun entry he => ?_, fun hclosed => ?_⟩
        · cases hawaiting
        · cases he
        · cases hclosed
    | call h c hok ih => exact ih.step c hok
  exact hI.closed hclosed

end Runtime

/-- A case is walked to `awaiting_verification` and then moved to closed by `transition`. -/
theorem closed_without_verification : ¬ ∀ (_ : Python) (exposures : Table ExposureRow)
    (assets : Table AssetRow) (services : Table BusinessServiceRow) (id : String) (db : Db)
    (past : List Db), Run (fun _ _ => True) (Db.initial exposures assets services) db past →
      db.statusOf id = some .closed → VerifiedSinceEntry id db past := by
  intro h
  have hrun := sampleRows_run (sampleAwaiting ++ [sampleTransition 5 "closed"])
    fun _ _ _ => trivial
  have hclosed : (sampleRows (sampleAwaiting ++ [sampleTransition 5 "closed"])).statusOf sampleCase
      = some .closed := by decide +kernel
  have hnone : (sampleRows
      (sampleAwaiting ++ [sampleTransition 5 "closed"])).verifications.rows.length = 0 := by
    decide +kernel
  obtain ⟨-, -, v, hv, -⟩ := h asciiPython _ _ _ sampleCase _ _ hrun hclosed
  rw [List.length_eq_zero_iff.1 hnone] at hv
  cases hv

/-- A case closed by a scanner verification. -/
theorem closed_verifiedSinceEntry_scanner : VerifiedSinceEntry sampleCase
    (sampleRows (sampleAwaiting ++ [sampleVerify 5]))
    (samplePast (sampleAwaiting ++ [sampleVerify 5])) := by
  refine @closed_verifiedSinceEntry asciiPython _ _ _ _ _ _ (sampleRows_run _ ?_)
    (by decide +kernel)
  intro db c hc hbypass
  have hsafe : ∀ c ∈ sampleAwaiting ++ [sampleVerify 5], c.targets "closed" = false := by decide
  have htargets := TransitionsTo.targets hbypass
  rw [show CaseStatus.closed.value = "closed" from rfl, hsafe c hc] at htargets
  cases htargets

/-! ## Accepting needs an approved decision -/

/-- Decision types that accept a risk. -/
def riskTypes : List String := ["risk_accepted", "waiver", "compensating_control"]

/-- Decision types that declare a finding not applicable. -/
def notApplicableTypes : List String := ["false_positive", "not_affected"]

/-- A decision taken by a human other than the requester. -/
structure SeparatelyDecided (d : RiskDecision) : Prop where
  approver : ∃ approver, d.approver = some approver ∧ approver ≠ d.requestedBy
  human : d.approverPrincipalType = some "human"

/-- The case has a decision of one of the types, in one of the statuses, that was separately
    decided. -/
def Backed (id : String) (db : Db) (statuses : List DecisionStatus) (types : List String) : Prop :=
  ∃ d, db.decision? d.id = some d ∧ d.caseId = id ∧ d.status ∈ statuses ∧ d.type ∈ types
    ∧ SeparatelyDecided d

/-- A `transition` that moves the case into an accepted status by itself. -/
def AcceptsDirectly (id : String) (db : Db) (c : Call) : Prop :=
  TransitionsTo id .triage .riskAccepted db c ∨ TransitionsTo id .triage .notApplicable db c

/-- What stands behind an accepted case. A decision that declared a case not applicable may have
    expired since: only an accepted risk goes back to triage by itself. -/
structure AcceptanceInv (id : String) (db : Db) : Prop where
  risk : db.statusOf id = some .riskAccepted → Backed id db [.approved] riskTypes
  notApplicable : db.statusOf id = some .notApplicable →
    Backed id db [.approved, .expired] notApplicableTypes

/-- A decision that survives a call keeps backing its case. -/
theorem Backed.mono {id : String} {db db' : Db} {statuses : List DecisionStatus}
    {types : List String} (h : Backed id db statuses types)
    (hkept : ∀ d, db.decision? d.id = some d → d.caseId = id → d.status ∈ statuses →
      db'.decision? d.id = some d) : Backed id db' statuses types := by
  obtain ⟨d, hd, hcase, hstatus, hrest⟩ := h
  exact ⟨d, hkept d hd hcase hstatus, hcase, hstatus, hrest⟩

theorem AcceptanceInv.mono {id : String} {db db' : Db} (h : AcceptanceInv id db)
    (hstatus : db'.statusOf id = db.statusOf id)
    (hkept : ∀ d, db.decision? d.id = some d → d.caseId = id →
      d.status ∈ [DecisionStatus.approved, .expired] → db'.decision? d.id = some d) :
    AcceptanceInv id db' := by
  refine ⟨fun hra => ?_, fun hna => ?_⟩
  · refine (h.risk (hstatus ▸ hra)).mono fun d hd hcase happroved => ?_
    exact hkept d hd hcase (List.mem_cons.2 (Or.inl (List.mem_singleton.1 happroved)))
  · exact (h.notApplicable (hstatus ▸ hna)).mono hkept

theorem AcceptanceInv.same_decisions {id : String} {db db' : Db} (h : AcceptanceInv id db)
    (hstatus : db'.statusOf id = db.statusOf id) (hsame : db'.decision? = db.decision?) :
    AcceptanceInv id db' :=
  h.mono hstatus fun d hd _ _ => by rw [hsame]; exact hd

/-- A decision that backed nothing of this case may change. -/
theorem AcceptanceInv.update_decision {id k : String} {db db' : Db} {d' : RiskDecision}
    (h : AcceptanceInv id db) (hstatus : db'.statusOf id = db.statusOf id)
    (hupdate : db'.decision? = Function.update db.decision? k (some d'))
    (hidle : ∀ d, db.decision? k = some d → d.caseId = id →
      d.status ∉ [DecisionStatus.approved, .expired]) : AcceptanceInv id db' := by
  refine h.mono hstatus fun d hd hcase hstatus' => ?_
  rw [hupdate, Function.update_of_ne]
  · exact hd
  · rintro rfl
    exact hidle d hd hcase hstatus'

/-- A status that is not accepted needs nothing behind it. -/
theorem AcceptanceInv.of_status {id : String} {db : Db} {t : CaseStatus}
    (h : db.statusOf id = some t) (hra : t ≠ .riskAccepted) (hna : t ≠ .notApplicable) :
    AcceptanceInv id db := by
  refine ⟨fun h' => ?_, fun h' => ?_⟩
  · rw [h] at h'; exact absurd (Option.some.inj h') hra
  · rw [h] at h'; exact absurd (Option.some.inj h') hna

/-- Expiries keep every accepted case backed: an accepted risk whose decision expires goes back to
    triage, and a decision behind a case declared not applicable stays, expired. -/
theorem AcceptanceInv.expiry {id : String} {db db' : Db} {env : CallEnv} {due : List RiskDecision}
    {vs : List Verification} {as : List AuditEvent} {os : List OutboxEvent}
    (hI : AcceptanceInv id db)
    (approved : ∀ d ∈ due, db.decision? d.id = some d ∧ d.status = .approved)
    (h : db.Becomes db' (fun id => (db.case? id).map (afterExpiry env due))
      (fun id => (db.decision? id).map (afterOwnExpiry env due)) vs as os) :
    AcceptanceInv id db' := by
  have hdecision : ∀ d, db.decision? d.id = some d →
      db'.decision? d.id = some (afterOwnExpiry env due d) := by
    intro d hd
    rw [h.decisions_eq]
    simp only [hd, Option.map_some]
  rcases h.statusOf_expiry id with hs | ⟨-, hs⟩
  · refine ⟨fun hra => ?_, fun hna => ?_⟩
    · obtain ⟨c, hc, hcra⟩ := Option.map_eq_some_iff.1 hra
      rw [h.cases_eq] at hc
      obtain ⟨c₀, hc₀, rfl⟩ := Option.map_eq_some_iff.1 hc
      have hid : c₀.id = id := Db.id_of_case? hc₀
      refine (hI.risk (hs ▸ hra)).mono fun d hd hcase _ => ?_
      rw [hdecision d hd, afterOwnExpiry, if_neg]
      -- had the decision expired, the case would be back in triage
      rintro ⟨e, he, heid⟩
      have hed : e = d := by
        have := (approved e he).1
        rw [heid, hd] at this
        exact (Option.some.inj this).symm
      have hkeep := afterExpiry_eq_self hcra
      rw [hkeep] at hcra
      rw [afterExpiry, if_pos ⟨hcra, d, hed ▸ he, hcase.trans hid.symm⟩] at hkeep
      rw [← hkeep] at hcra
      cases hcra
    · obtain ⟨d, hd, hcase, hstatus, htype, hseparate⟩ := hI.notApplicable (hs ▸ hna)
      have hd' := hdecision d hd
      unfold afterOwnExpiry at hd'
      split at hd'
      · exact ⟨{ expiredDecision d with updatedAt := env.clock 8 }, hd', hcase,
          by simp [expiredDecision], htype, hseparate.1, hseparate.2⟩
      · exact ⟨d, hd', hcase, hstatus, htype, hseparate⟩
  · exact .of_status hs (by decide) (by decide)

section Acceptance

variable [Python]

omit [Python] in
theorem validateApproval_type {d : RiskDecision} {now : Instant}
    (h : validateApproval d now = .ok ()) : d.type ∈ supportedRiskDecisionTypes := by
  unfold validateApproval at h
  obtain ⟨_, htype, _⟩ := except_bind_eq_ok.1 h
  unfold validateTypeAndReason at htype
  split at htype
  · cases htype
  · next hnot => exact not_not.1 hnot

omit [Python] in
/-- The target status of a supported type. -/
theorem targetState_cases {type : String} (h : type ∈ supportedRiskDecisionTypes) :
    targetState type = .riskAccepted ∧ type ∈ riskTypes ∨
      targetState type = .notApplicable ∧ type ∈ notApplicableTypes := by
  simp only [supportedRiskDecisionTypes, List.mem_cons, List.not_mem_nil, or_false] at h
  rcases h with rfl | rfl | rfl | rfl | rfl <;> decide

/-- An approval backs the case it accepts. -/
theorem decidedDecision_backs {a : ApproveArgs} {env : CallEnv} {db' : Db} {stored d : RiskDecision}
    {fields : ActorFields} {role : String} {types : List String}
    {statuses : List DecisionStatus} (canonical : d = canonicalizeRiskDecisionExpiry stored)
    (guarded : ApprovalGuarded a d .approve fields role) (htype : d.type ∈ types)
    (hstatus : .approved ∈ statuses)
    (hfound : db'.decision? stored.id = some (decidedDecision a env stored .approve role)) :
    Backed d.caseId db' statuses types := by
  subst canonical
  exact ⟨decidedDecision a env stored .approve role, hfound, rfl, hstatus, htype,
    ⟨a.actor.actor, rfl, guarded.separate⟩, guarded.human⟩

/-- An approval that accepts the case backs it. -/
theorem AcceptanceInv.of_approval {a : ApproveArgs} {env : CallEnv} {db' : Db}
    {stored d : RiskDecision} {fields : ActorFields} {role : String}
    (canonical : d = canonicalizeRiskDecisionExpiry stored)
    (guarded : ApprovalGuarded a d .approve fields role)
    (valid : validateApproval d (env.clock 1) = .ok ())
    (hs : db'.statusOf d.caseId = some (targetState d.type))
    (hfound : db'.decision? stored.id = some (decidedDecision a env stored .approve role)) :
    AcceptanceInv d.caseId db' := by
  rcases targetState_cases (validateApproval_type valid) with ⟨ht, htype⟩ | ⟨ht, htype⟩
  · rw [ht] at hs
    refine ⟨fun _ => decidedDecision_backs canonical guarded htype (by decide) hfound, ?_⟩
    intro hna
    rw [hs] at hna
    cases hna
  · rw [ht] at hs
    refine ⟨?_, fun _ => decidedDecision_backs canonical guarded htype (by decide) hfound⟩
    intro hra
    rw [hs] at hra
    cases hra

omit [Python] in
/-- Only triage has edges to the accepted statuses. -/
theorem triage_of_accepting_edge {s t : CaseStatus} (h : t ∈ allowedTransitions s)
    (ht : t = .riskAccepted ∨ t = .notApplicable) : s = .triage := by
  rcases ht with rfl | rfl <;> revert h <;> cases s <;> decide

/-- One call keeps every accepted case backed, unless it accepts the case by itself. -/
theorem AcceptanceInv.step {id : String} {db : Db} (hI : AcceptanceInv id db) (c : Call)
    (hok : ¬ AcceptsDirectly id db c) : AcceptanceInv id (c.run db) := by
  have hstep := c.run_step db
  generalize c.run db = db' at hstep ⊢
  cases hstep with
  | quiet => exact hI
  | created a env owner _ fresh h =>
      have hnew : (newCase a env owner).status = .new := rfl
      rcases h.statusOf_cases hnew id with ⟨-, hs⟩ | ⟨-, hs⟩
      · exact .of_status hs (by decide) (by decide)
      · exact hI.same_decisions hs h.decisions_eq
  | transitioned a env case next target fields _ found edge target_eq version fields_eq moves h =>
      rcases h.statusOf_cases moves.status id with ⟨rfl, hs⟩ | ⟨-, hs⟩
      · have hto := transitionsTo_of_commit found target_eq version fields_eq h
        refine .of_status hs ?_ ?_
        · rintro rfl
          exact hok (Or.inl (triage_of_accepting_edge edge (Or.inl rfl) ▸ hto))
        · rintro rfl
          exact hok (Or.inr (triage_of_accepting_edge edge (Or.inr rfl) ▸ hto))
      · exact hI.same_decisions hs h.decisions_eq
  | verified a env case next reason fields _ found awaiting coverage fields_eq moves h =>
      rcases h.statusOf_cases moves.status id with ⟨-, hs⟩ | ⟨-, hs⟩
      · exact .of_status hs (by decide) (by decide)
      · exact hI.same_decisions hs h.decisions_eq
  | unverified a env case reason fields _ found awaiting coverage h =>
      exact hI.same_decisions (h.statusOf_same id) h.decisions_eq
  | requested a env case scope expiresAt fields _ found scope_eq fresh h =>
      refine hI.update_decision (h.statusOf_same id) h.decisions_eq fun d hd _ _ => ?_
      rw [fresh] at hd
      cases hd
  | approved a env stored d case next fields role _ found canonical guarded foundCase valid edge
      moves h =>
      have hid : stored.id = a.decisionId := Db.id_of_decision? found
      rcases h.statusOf_cases moves.status id with ⟨rfl, hs⟩ | ⟨hne, hs⟩
      · refine .of_approval canonical guarded valid hs ?_
        rw [h.decisions_eq, hid, Function.update_self]
      · refine hI.update_decision hs h.decisions_eq fun e he hcase _ => ?_
        -- the approved decision belongs to another case
        rw [found] at he
        cases he
        subst canonical
        exact hne hcase.symm
  | rejected a env stored d case fields role _ found canonical guarded h =>
      refine hI.update_decision (h.statusOf_same id) h.decisions_eq fun e he _ => ?_
      -- the rejected decision was pending
      rw [found] at he
      cases he
      subst canonical
      have hpending : stored.status = .pendingApproval := guarded.pending
      rw [hpending]
      decide
  | revoked a env d case next time _ found foundCase moves h =>
      rcases h.statusOf_cases moves.status id with ⟨-, hs⟩ | ⟨hne, hs⟩
      · exact .of_status hs (by decide) (by decide)
      · refine hI.update_decision hs h.decisions_eq fun e he hcase _ => ?_
        rw [found] at he
        cases he
        exact hne hcase.symm
  | expired now env due audits outbox _ approved audits_eq outbox_eq trail h =>
      exact hI.expiry approved h
  | reopened a env case next _ found closed moves h =>
      rcases h.statusOf_cases moves.status id with ⟨-, hs⟩ | ⟨-, hs⟩
      · exact .of_status hs (by decide) (by decide)
      · exact hI.same_decisions hs h.decisions_eq

/-- **Accepted cases are backed by a separately taken decision.** In a run without a transition
    that accepts the case by itself, an accepted risk has an approved decision, and a case that is
    not applicable one that is approved or has expired. -/
theorem accepted_backed {exposures : Table ExposureRow} {assets : Table AssetRow}
    {services : Table BusinessServiceRow} {id : String} {db : Db} {past : List Db}
    (h : Run (fun db c => ¬ AcceptsDirectly id db c) (Db.initial exposures assets services)
      db past) :
    (db.statusOf id = some .riskAccepted → Backed id db [.approved] riskTypes) ∧
      (db.statusOf id = some .notApplicable →
        Backed id db [.approved, .expired] notApplicableTypes) := by
  have hI : AcceptanceInv id db := by
    induction h with
    | start => exact ⟨fun hra => (by cases hra), fun hna => (by cases hna)⟩
    | call h c hok ih => exact ih.step c hok
  exact ⟨hI.risk, hI.notApplicable⟩

end Acceptance

/-- A decision that is not approved backs nothing as an approved one. -/
theorem not_backed {id : String} {db : Db} {types : List String}
    (h : db.decisions.rows.all (fun d => d.status ≠ .approved) = true) :
    ¬ Backed id db [.approved] types := by
  rintro ⟨d, hd, -, hstatus, -⟩
  have hnot := List.all_eq_true.1 h d (Table.mem_of_find? hd)
  simp [List.mem_singleton.1 hstatus] at hnot

/-- `transition` accepts a risk nobody decided on; and the expiry of the decision behind it leaves a
    case not applicable. -/
theorem accepted_not_always_backed :
    (¬ ∀ (_ : Python) (exposures : Table ExposureRow) (assets : Table AssetRow)
      (services : Table BusinessServiceRow) (id : String) (db : Db) (past : List Db),
      Run (fun _ _ => True) (Db.initial exposures assets services) db past →
        db.statusOf id = some .riskAccepted → Backed id db [.approved] riskTypes) ∧
    (¬ ∀ (_ : Python) (exposures : Table ExposureRow) (assets : Table AssetRow)
      (services : Table BusinessServiceRow) (id : String) (db : Db) (past : List Db),
      Run (fun _ _ => True) (Db.initial exposures assets services) db past →
        db.statusOf id = some .notApplicable →
        Backed id db [.approved] notApplicableTypes) := by
  constructor
  · intro h
    have hrun := sampleRows_run
      [sampleCreate, sampleTransition 1 "triage", sampleTransition 2 "risk_accepted"]
      fun _ _ _ => trivial
    exact not_backed (by decide +kernel)
      (h asciiPython _ _ _ sampleCase _ _ hrun (by decide +kernel))
  · intro h
    have hrun := sampleRows_run
      [sampleCreate, sampleTransition 1 "triage", sampleRequest 2 "false_positive",
        sampleApprove 3 (sampleDecision 2), sampleExpire 4] fun _ _ _ => trivial
    exact not_backed (by decide +kernel)
      (h asciiPython _ _ _ sampleCase _ _ hrun (by decide +kernel))

/-- A waiver, requested and approved. -/
theorem accepted_backed_waiver :
    Backed sampleCase (sampleRows [sampleCreate, sampleTransition 1 "triage",
      sampleRequest 2 "waiver", sampleApprove 3 (sampleDecision 2)]) [.approved] riskTypes := by
  refine (@accepted_backed asciiPython _ _ _ _ _ _ (sampleRows_run _ ?_)).1 (by decide +kernel)
  intro db c hc haccepts
  have hsafe : ∀ c ∈ [sampleCreate, sampleTransition 1 "triage", sampleRequest 2 "waiver",
      sampleApprove 3 (sampleDecision 2)],
      c.targets CaseStatus.riskAccepted.value = false ∧
        c.targets CaseStatus.notApplicable.value = false := by decide
  rcases haccepts with h | h
  · have htargets := h.targets
    rw [(hsafe c hc).1] at htargets
    cases htargets
  · have htargets := h.targets
    rw [(hsafe c hc).2] at htargets
    cases htargets

/-! ## The documented state machine -/

section StateMachine

variable [Python]

/-- An operation on a row that is not in the status it is meant for leaves that row (and, where the
    operation works on one row, everything) as it is. -/
def UnmeantUnchanged (db : Db) (c : Call) (db' : Db) : Prop :=
  match c.op with
  | .transition a => ∀ case, db.case? a.caseId = some case →
      (∀ t ∈ allowedTransitions case.status, t.value ≠ a.target) → db' = db
  | .verify a => ∀ case, db.case? a.caseId = some case →
      case.status ≠ .awaitingVerification → db' = db
  | .approveRiskDecision a => ∀ d, db.decision? a.decisionId = some d →
      (d.status ≠ .pendingApproval ∨ normalizeOutcome a.outcome = .ok .approve ∧
        ∀ case, db.case? d.caseId = some case →
          targetState d.type ∉ allowedTransitions case.status) → db' = db
  | .revokeDecision a => ∀ d, db.decision? a.decisionId = some d → d.status ≠ .approved → db' = db
  | .processExpirations _ =>
      (∀ d, db.decision? d.id = some d → d.status ≠ .approved → db'.decision? d.id = some d) ∧
        ∀ case, db.case? case.id = some case → case.status ≠ .riskAccepted →
          db'.case? case.id = some case
  | .reopenOnEvidence a => ∀ case, db.case? a.caseId = some case →
      case.status ≠ .closed → db' = db
  | .createCase _ => True
  | .createRiskDecision _ => True

/-- The step refines the state machine: status changes follow its edges, and an operation out of
    place changes nothing. -/
structure Refines (db : Db) (c : Call) (db' : Db) : Prop where
  edges : ∀ id s t, db.statusOf id = some s → db'.statusOf id = some t → s ≠ t →
    t ∈ allowedTransitions s
  unmeant : UnmeantUnchanged db c db'

omit [Python] in
/-- A revocation that finds its rows and free identifiers is one of an approved decision, of a case
    in triage or with an edge to triage. -/
def RevocationFits (db : Db) (c : Call) : Prop :=
  ∀ a, c.op = .revokeDecision a → ∀ d case, db.decision? a.decisionId = some d →
    db.case? d.caseId = some case → RowIdsFresh db c.env →
    d.status = .approved ∧
      (case.status = .triage ∨ .triage ∈ allowedTransitions case.status)

omit [Python] in
/-- Status changes follow the edges of the state machine, revocations apart. -/
theorem StatusChange.edge {db db' : Db} {c : Call} {id : String} {s t : CaseStatus}
    (h : StatusChange db c db' id) (hfits : RevocationFits db c) (hs : db.statusOf id = some s)
    (ht : db'.statusOf id = some t) (hne : s ≠ t) : t ∈ allowedTransitions s := by
  cases h with
  | none h =>
      rw [h, hs] at ht
      exact absurd (Option.some.inj ht) hne
  | created absent h => rw [absent] at hs; cases hs
  | transitioned s' t' edge by_call before h =>
      rw [before] at hs; rw [h] at ht
      cases hs; cases ht
      exact edge
  | verified v before h mem fresh case status =>
      rw [before] at hs; rw [h] at ht
      cases hs; cases ht
      decide
  | approved s' type edge before h =>
      rw [before] at hs; rw [h] at ht
      cases hs; cases ht
      exact edge
  | revoked a d case op found foundCase ids before h =>
      rw [before] at hs; rw [h] at ht
      cases hs; cases ht
      exact ((hfits a op d case found foundCase ids).2).resolve_left hne
  | expired before h =>
      rw [before] at hs; rw [h] at ht
      cases hs; cases ht
      decide
  | reopened before h =>
      rw [before] at hs; rw [h] at ht
      cases hs; cases ht
      decide

/-- An operation out of place changes nothing, revocations apart. -/
theorem CaseStep.unmeantUnchanged {db db' : Db} {c : Call} (h : CaseStep db c db')
    (hfits : RevocationFits db c) : UnmeantUnchanged db c db' := by
  cases h with
  | quiet =>
      obtain ⟨op, env⟩ := c
      cases op with
      | processExpirations now => exact ⟨fun d hd _ => hd, fun case hcase _ => hcase⟩
      | createCase a => trivial
      | createRiskDecision a => trivial
      | _ => exact fun _ _ _ => rfl
  | created a env owner _ fresh h => trivial
  | transitioned a env case next target fields _ found edge target_eq version fields_eq moves h =>
      intro case' hcase' hnone
      rw [found] at hcase'
      cases hcase'
      exact absurd target_eq (hnone target edge)
  | verified a env case next reason fields _ found awaiting coverage fields_eq moves h =>
      intro case' hcase' hnot
      rw [found] at hcase'
      cases hcase'
      exact absurd awaiting hnot
  | unverified a env case reason fields _ found awaiting coverage h =>
      intro case' hcase' hnot
      rw [found] at hcase'
      cases hcase'
      exact absurd awaiting hnot
  | requested a env case scope expiresAt fields _ found scope_eq fresh h => trivial
  | approved a env stored d case next fields role _ found canonical guarded foundCase valid edge
      moves h =>
      intro d' hd' hnot
      rw [found] at hd'
      cases hd'
      subst canonical
      rcases hnot with hnot | ⟨-, hnot⟩
      · exact absurd guarded.pending hnot
      · exact absurd edge (hnot case foundCase)
  | rejected a env stored d case fields role _ found canonical guarded h =>
      intro d' hd' hnot
      rw [found] at hd'
      cases hd'
      subst canonical
      rcases hnot with hnot | ⟨happrove, -⟩
      · exact absurd guarded.pending hnot
      · rw [guarded.outcome_eq] at happrove
        cases happrove
  | revoked a env d case next time _ found foundCase moves h =>
      intro d' hd' hnot
      rw [found] at hd'
      cases hd'
      exact absurd (hfits a rfl d case found foundCase ⟨h.fresh_audit, h.fresh_outbox⟩).1 hnot
  | expired now env due audits outbox _ approved audits_eq outbox_eq trail h =>
      refine ⟨fun d hd hnot => ?_, fun case hcase hnot => ?_⟩
      · rw [h.decisions_eq]
        simp only [hd, Option.map_some, afterOwnExpiry]
        rw [if_neg]
        rintro ⟨e, he, heid⟩
        obtain ⟨hfound, happroved⟩ := approved e he
        rw [heid, hd] at hfound
        cases hfound
        exact hnot happroved
      · rw [h.cases_eq]
        simp only [hcase, Option.map_some, afterExpiry]
        rw [if_neg fun hif => hnot hif.1]
  | reopened a env case next _ found closed moves h =>
      intro case' hcase' hnot
      rw [found] at hcase'
      cases hcase'
      exact absurd closed hnot

/-- A revocation that finds its rows and free identifiers goes through, whatever the decision's
    status and the case's. -/
theorem revokeDecision_commits {a : RevokeArgs} {env : CallEnv} {db : Db} {d : RiskDecision}
    {case : RemediationCase} (hd : db.decision? a.decisionId = some d)
    (hc : db.case? d.caseId = some case) (hfresh : RowIdsFresh db env) :
    ∃ next d', db.Becomes (Call.run db ⟨.revokeDecision a, env⟩)
      (Function.update db.case? d.caseId (some next))
      (Function.update db.decision? a.decisionId (some d')) [] [revokedAudit a env case]
      [revokedOutbox a env case] ∧ Moves case next .triage := by
  have haudit : db.auditEvents.find? (revokedAudit a env case).id = none := hfresh.1
  have hevent : db.outboxEvents.find? (revokedOutbox a env case).id = none := hfresh.2
  obtain ⟨audits, haudits⟩ := Table.insert_eq_some haudit
  obtain ⟨outbox, houtbox⟩ := Table.insert_eq_some hevent
  have hflush : (Store.flush
      [.updateDecision d.id (.ofChange d (revokedDecision env d) (env.clock 8)),
        .updateCase case.id (.ofChange case (triagedCase case) (env.clock 8)),
        .insertAudit (revokedAudit a env case), .insertOutbox (revokedOutbox a env case)]
      db).isSome = true := by
    simp [Store.flush, Store.apply, Write.apply, haudits, houtbox]
  obtain ⟨db', hflush⟩ := Option.isSome_iff_exists.1 hflush
  have hrun : Call.run db ⟨.revokeDecision a, env⟩ = db' := by
    unfold Call.run Call.body Program.runDb
    rw [Program.run_map]
    unfold revokeDecision getCase
    rw [Program.run_lookup_bind hd, Program.run_add_bind, Program.run_lookup_bind hc,
      Program.run_add_bind, Program.run_commitAll]
    · rfl
    · exact hflush
  have hstep := Call.run_step db ⟨.revokeDecision a, env⟩
  rw [hrun] at hstep ⊢
  cases hstep with
  | quiet =>
      have hadded := (flush_effect hflush).auditEvents
      simp [Write.audit?] at hadded
  | revoked a env d' case' next time _ found foundCase moves h =>
      rw [hd] at found
      cases found
      rw [hc] at foundCase
      cases foundCase
      exact ⟨next, _, h, moves⟩

/-- **Refinement of the documented state machine.** A call refines it exactly when it is no
    revocation out of place. -/
theorem refines_iff_revocationFits (db : Db) (c : Call) :
    Refines db c (c.run db) ↔ RevocationFits db c := by
  have hstep := c.run_step db
  constructor
  · rintro hrefines a hop d case hd hcase hids
    obtain ⟨op, env⟩ := c
    subst hop
    obtain ⟨next, d', hbecomes, hmoves⟩ := revokeDecision_commits hd hcase hids
    constructor
    · by_contra hnot
      have hsame : Call.run db ⟨.revokeDecision a, env⟩ = db := hrefines.unmeant d hd hnot
      have haudits := hbecomes.audits_eq
      rw [hsame] at haudits
      simp at haudits
    · by_cases htriage : case.status = .triage
      · exact Or.inl htriage
      · refine Or.inr (hrefines.edges d.caseId case.status .triage
          (Db.statusOf_of_case? hcase) ?_ htriage)
        rw [hbecomes.statusOf_update, if_pos rfl, hmoves.status]
  · intro hfits
    exact ⟨fun id s t hs ht hne => (hstep.statusChange id).edge hfits hs ht hne,
      hstep.unmeantUnchanged hfits⟩

end StateMachine

/-- A pending request is revoked while its case awaits verification: the case goes to triage, which
    is no edge, and the request was never approved. -/
theorem revocation_leaves_state_machine : ¬ ∀ (_ : Python) (db : Db) (c : Call),
    db.Reached → Refines db c (c.run db) := by
  intro h
  have hrun := sampleRows_run (sampleAwaiting ++ [sampleRequest 5 "waiver"]) fun _ _ _ => trivial
  obtain ⟨hedges, -⟩ := h asciiPython _ (sampleRevoke 6 (sampleDecision 5)) ⟨_, _, _, _, hrun⟩
  have hedge := hedges sampleCase .awaitingVerification .triage (by decide +kernel)
    (by decide +kernel) (by decide)
  revert hedge
  decide

end VulnOpsHub
