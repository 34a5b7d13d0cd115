import VulnOpsHub.Cases.Sweep
import VulnOpsHub.Cases.Documented
import VulnOpsHub.Lib.Transactions

set_option autoImplicit false

/-! # What a failed call leaves behind

A change assigned to a row of the session waits there for the next commit. A call that raises should
leave none: most operations make their checks before their changes, or roll back. Three of them look
something up, or check the actor, after their first change. -/

namespace VulnOpsHub

open Program

/-! ## Clean sessions -/

/-- The call returned, or nothing of it is left in its session. -/
def EndsClean {α : Type} (o : Outcome PyError α) (s : Session Db) : Prop :=
  o.isReturned = true ∨ s = Session.fresh s.db

/-- The call raised, and left changes in its session. -/
def EndsPending {α : Type} (db : Db) (o : Outcome PyError α) (s : Session Db) : Prop :=
  o.isReturned = false ∧ s.db = db ∧ s.staged ≠ []

theorem clean_map {α β : Type} (f : α → β) {p : Prog α} {s : Session Db}
    (h : p.Wp Eq (fun _ _ => True) EndsClean s) :
    (p.map f).Wp Eq (fun _ _ => True) EndsClean s := by
  refine wp_map.2 (wp_mono (fun o t ho => ?_) h)
  rwa [EndsClean, Outcome.isReturned_map]

theorem pending_map {α β : Type} (f : α → β) {db : Db} {p : Prog α} {s : Session Db}
    (h : p.Wp Eq (fun _ _ => False) (EndsPending db) s) :
    (p.map f).Wp Eq (fun _ _ => False) (EndsPending db) s := by
  refine wp_map.2 (wp_mono (fun o t ho => ?_) h)
  rwa [EndsPending, Outcome.isReturned_map]

/-- An exception, or a refused commit, in a session without changes. -/
theorem endsClean_fresh {α : Type} (o : Outcome PyError α) (db : Db) :
    EndsClean o (Session.fresh db) := Or.inr rfl

theorem endsClean_returned {α : Type} (a : α) (s : Session Db) :
    EndsClean (.returned a) s := Or.inl rfl

section Runtime

variable [Python]

/-- A call that raises before its own commit, or in it, leaves no change, in the database or in its
    session. -/
def NoResidue (db : Db) (c : Call) : Prop :=
  c.body.commits (Session.fresh db) = [] → (c.body.run (Session.fresh db)).1.isReturned = false →
    (c.body.run (Session.fresh db)).2 = Session.fresh db

/-- The call raises after its first change: a verification checks its actor only when it has changed
    the case, and a revocation and an expiry look up the case only when they have changed the
    decision. -/
def LeavesResidue (db : Db) (c : Call) : Prop :=
  match c.op with
  | .verify a =>
      (∃ case, db.case? a.caseId = some case ∧ case.status = .awaitingVerification) ∧
        (∃ answer, evaluateCoverage a.method a.coverage = .ok answer) ∧
        ¬ ValidProvenance a.actor.provenance
  | .revokeDecision a => ∃ d, db.decision? a.decisionId = some d ∧ db.case? d.caseId = none
  | .processExpirations now =>
      let now := now.getD (Datetime.utc (c.env.clock 0))
      let approved := db.decisions.rows.filter fun d => d.status = .approved ∧ d.expiresAt ≠ .missing
      (∀ d ∈ approved, ∃ answer, expiryDue d.expiresAt (ensureAware now) = .ok answer) ∧
        ∃ d ∈ approved, d.isDue now = true ∧ db.case? d.caseId = none
  | _ => False

theorem noResidue_of_wp {db : Db} {c : Call}
    (h : c.body.Wp Eq (fun _ _ => True) EndsClean (Session.fresh db)) : NoResidue db c := by
  intro hcommits hraised
  have hdb := run_db_of_commits_eq_nil hcommits
  rcases wp_run (fun _ => rfl) h with hreturned | hfresh
  · rw [hraised] at hreturned
    cases hreturned
  · rw [hfresh, hdb]
    rfl

theorem residue_of_wp {db : Db} {c : Call}
    (h : c.body.Wp Eq (fun _ _ => False) (EndsPending db) (Session.fresh db)) :
    ¬ NoResidue db c := by
  intro hno
  obtain ⟨hraised, -, hstaged⟩ := wp_run (fun _ => rfl) h
  rw [hno (commits_eq_nil (fun _ => rfl) h) hraised] at hstaged
  exact hstaged rfl

/-! ## The operations -/

theorem createCase_clean (a : CreateCaseArgs) (env : CallEnv) (db : Db) :
    (createCase a env).Wp Eq (fun _ _ => True) EndsClean (Session.fresh db) := by
  unfold createCase refreshCase
  refine wp_select_bind fun t ht => ?_
  refine (resolveOwners_queries _ _ _ _).wp_bind fun owners => ?_
  refine wp_ofExcept_bind (fun e _ => endsClean_fresh _ _) fun owner _ => ?_
  refine wp_add_bind (wp_commitAll_bind (fun u _ _ => endsClean_fresh _ _) fun u v _ _ => ?_)
  exact ⟨trivial, wp_lookup (fun w _ _ => endsClean_fresh _ _) fun w case _ _ =>
    endsClean_returned _ _⟩

omit [Python] in
theorem transition_clean (a : TransitionArgs) (env : CallEnv) (db : Db) :
    (transition a env).Wp Eq (fun _ _ => True) EndsClean (Session.fresh db) := by
  unfold transition getCase
  refine wp_lookup_bind (fun t _ _ => endsClean_fresh _ _) fun t case _ _ => ?_
  cases (allowedTransitions case.status).find? (·.value = a.target) with
  | none => exact wp_ret.2 (endsClean_fresh _ _)
  | some target =>
      refine wp_ofExcept_bind (fun e _ => endsClean_fresh _ _) fun fields _ => ?_
      cases a.expectedVersion with
      | none =>
          refine wp_add_bind (wp_commitAll_bind (fun u _ _ => endsClean_fresh _ _)
            fun u v _ _ => ?_)
          exact ⟨trivial, wp_lookup (fun w _ _ => endsClean_fresh _ _) fun w next _ _ =>
            endsClean_returned _ _⟩
      | some expected =>
          refine wp_execute_bind (fun u _ _ => ?_) (fun u _ _ => ?_)
          · refine wp_add_bind (wp_commitAll_bind (fun v _ _ => endsClean_fresh _ _)
              fun v w _ _ => ?_)
            exact ⟨trivial, wp_lookup (fun x _ _ => endsClean_fresh _ _) fun x next _ _ =>
              endsClean_returned _ _⟩
          · refine wp_rollbackAll_bind (wp_lookup_bind (fun v _ _ => endsClean_fresh _ _)
              fun v current _ _ => ?_)
            exact wp_ret.2 (endsClean_fresh _ _)

theorem createRiskDecision_clean (a : CreateRiskDecisionArgs) (env : CallEnv) (db : Db) :
    (createRiskDecision a env).Wp Eq (fun _ _ => True) EndsClean (Session.fresh db) := by
  unfold createRiskDecision getCase refreshCase
  by_cases happrover : a.approver ≠ none ∨ a.approverRole ≠ none
  · rw [if_pos happrover]
    exact wp_ret.2 (endsClean_fresh _ _)
  rw [if_neg happrover]
  by_cases hactor : a.actor.actor ≠ a.requestedBy
  · rw [if_pos hactor]
    exact wp_ret.2 (endsClean_fresh _ _)
  rw [if_neg hactor]
  refine wp_ofExcept_bind (fun e _ => endsClean_fresh _ _) fun given _ => ?_
  refine wp_ofExcept_bind (fun e _ => endsClean_fresh _ _) fun expiresAt _ => ?_
  refine wp_ofExcept_bind (fun e _ => endsClean_fresh _ _) fun fields _ => ?_
  refine wp_lookup_bind (fun t _ _ => endsClean_fresh _ _) fun t case _ _ => ?_
  refine wp_ofExcept_bind (fun e _ => endsClean_fresh _ _) fun scope _ => ?_
  refine wp_add_bind (wp_commitAll_bind (fun u _ _ => endsClean_fresh _ _) fun u v _ _ => ?_)
  refine ⟨trivial, wp_lookup_bind (fun w _ _ => endsClean_fresh _ _) fun w d _ _ => ?_⟩
  refine wp_lookup_bind (fun x _ _ => endsClean_fresh _ _) fun x next _ _ => ?_
  exact wp_ret.2 (endsClean_returned _ _)

/-- Whatever goes wrong after the conditional UPDATE is rolled back. -/
theorem approveRiskDecision_clean (a : ApproveArgs) (env : CallEnv) (db : Db) :
    (approveRiskDecision a env).Wp Eq (fun _ _ => True) EndsClean (Session.fresh db) := by
  unfold approveRiskDecision getRiskDecision getCase
  refine wp_lookup_bind (fun t _ _ => endsClean_fresh _ _) fun t d _ _ => ?_
  refine wp_ofExcept_bind (fun e _ => endsClean_fresh _ _) fun guards _ => ?_
  obtain ⟨outcome, fields, role⟩ := guards
  refine wp_lookup_bind (fun u _ _ => endsClean_fresh _ _) fun u case _ _ => ?_
  refine wp_ofExcept_bind (fun e _ => endsClean_fresh _ _) fun _ _ => ?_
  refine wp_execute_bind (fun v _ _ => ?_) (fun v _ _ => ?_)
  · by_cases hedge : outcome = .approve ∧ targetState d.type ∉ allowedTransitions case.status
    · rw [if_pos rfl, if_pos hedge]
      exact wp_rollbackAll_bind (wp_ret.2 (endsClean_fresh _ _))
    · rw [if_pos rfl, if_neg hedge]
      refine wp_add_bind (wp_add_bind (wp_commitAll_bind (fun w _ _ => endsClean_fresh _ _)
        fun w x _ _ => ?_))
      exact ⟨trivial, wp_lookup (fun y _ _ => endsClean_fresh _ _) fun y next _ _ =>
        endsClean_returned _ _⟩
  · exact wp_rollbackAll_bind (wp_ret.2 (endsClean_fresh _ _))

omit [Python] in
theorem reopenOnEvidence_clean (a : ReopenArgs) (env : CallEnv) (db : Db) :
    (reopenOnEvidence a env).Wp Eq (fun _ _ => True) EndsClean (Session.fresh db) := by
  unfold reopenOnEvidence getCase
  refine wp_lookup_bind (fun t _ _ => endsClean_fresh _ _) fun t case _ _ => ?_
  by_cases hclosed : case.status ≠ .closed
  · rw [if_pos hclosed]
    exact wp_ret.2 (endsClean_fresh _ _)
  · rw [if_neg hclosed]
    refine wp_add_bind (wp_commitAll_bind (fun u _ _ => endsClean_fresh _ _) fun u v _ _ => ?_)
    exact ⟨trivial, wp_ret.2 (endsClean_returned _ _)⟩

/-! ### Verifications -/

theorem verify_clean {a : VerifyArgs} {env : CallEnv} {db : Db}
    (h : ¬ LeavesResidue db ⟨.verify a, env⟩) :
    (verify a env).Wp Eq (fun _ _ => True) EndsClean (Session.fresh db) := by
  unfold verify getCase refreshCase
  refine wp_lookup_bind (fun t _ _ => endsClean_fresh _ _) fun t case ht hcase => ?_
  obtain rfl := ht
  by_cases hawaiting : case.status = .awaitingVerification
  · rw [if_neg (not_not.2 hawaiting)]
    refine wp_ofExcept_bind (fun e _ => endsClean_fresh _ _) fun answer hanswer => ?_
    obtain ⟨canClose, reason⟩ := answer
    have hvalid : ValidProvenance a.actor.provenance := by
      by_contra hinvalid
      exact h ⟨⟨case, hcase, hawaiting⟩, ⟨_, hanswer⟩, hinvalid⟩
    rw [actorAuditFields, if_pos hvalid]
    refine wp_add_bind (wp_add_bind (wp_commitAll_bind (fun u _ _ => endsClean_fresh _ _)
      fun u v _ _ => ?_))
    refine ⟨trivial, wp_lookup_bind (fun w _ _ => endsClean_fresh _ _) fun w next _ _ => ?_⟩
    exact wp_ret.2 (endsClean_returned _ _)
  · rw [if_pos hawaiting]
    exact wp_ret.2 (endsClean_fresh _ _)

theorem verify_pending {a : VerifyArgs} {env : CallEnv} {db : Db}
    (h : LeavesResidue db ⟨.verify a, env⟩) :
    (verify a env).Wp Eq (fun _ _ => False) (EndsPending db) (Session.fresh db) := by
  obtain ⟨⟨case, hcase, hawaiting⟩, ⟨⟨canClose, reason⟩, hanswer⟩, hinvalid⟩ := h
  unfold verify getCase
  refine wp_lookup_bind (fun t ht hnone => ?_) fun t found ht hfound => ?_
  · obtain rfl := ht
    exact absurd (hnone.symm.trans hcase) (by simp)
  · obtain rfl := ht
    obtain rfl : found = case := Option.some.inj (hfound.symm.trans hcase)
    rw [if_neg (not_not.2 hawaiting), hanswer, ofExcept_ok_bind]
    dsimp only
    refine wp_add_bind ?_
    rw [actorAuditFields, if_neg hinvalid]
    exact wp_ret.2 ⟨rfl, rfl, by simp [verificationRows]⟩

/-! ### Revocations -/

omit [Python] in
/-- The case of a revoked decision, as the session sees it. -/
theorem revoked_case? (env : CallEnv) (db : Db) (d : RiskDecision) (id : String) :
    (sessionView [] ([] ++ [Write.updateDecision d.id (.ofChange d (revokedDecision env d)
      (env.clock 8))]) db).case? id = db.case? id := rfl

theorem revokeDecision_clean {a : RevokeArgs} {env : CallEnv} {db : Db}
    (h : ¬ LeavesResidue db ⟨.revokeDecision a, env⟩) :
    (revokeDecision a env).Wp Eq (fun _ _ => True) EndsClean (Session.fresh db) := by
  unfold revokeDecision getCase
  refine wp_lookup_bind (fun t _ _ => endsClean_fresh _ _) fun t d ht hd => ?_
  obtain rfl := ht
  refine wp_add_bind (wp_lookup_bind (fun u hu hnone => ?_) fun u case _ _ => ?_)
  · obtain rfl := hu
    exact absurd ⟨d, hd, (revoked_case? env _ d _).symm.trans hnone⟩ h
  · refine wp_add_bind (wp_commitAll (fun v _ _ => endsClean_fresh _ _) fun v w _ _ => ?_)
    exact ⟨trivial, endsClean_returned _ _⟩

theorem revokeDecision_pending {a : RevokeArgs} {env : CallEnv} {db : Db}
    (h : LeavesResidue db ⟨.revokeDecision a, env⟩) :
    (revokeDecision a env).Wp Eq (fun _ _ => False) (EndsPending db) (Session.fresh db) := by
  obtain ⟨d, hd, hmissing⟩ := h
  unfold revokeDecision getCase
  refine wp_lookup_bind (fun t ht hnone => ?_) fun t found ht hfound => ?_
  · obtain rfl := ht
    exact absurd (hnone.symm.trans hd) (by simp)
  · obtain rfl := ht
    obtain rfl : found = d := Option.some.inj (hfound.symm.trans hd)
    refine wp_add_bind (wp_lookup_bind (fun u hu _ => ?_) fun u case hu hcase => ?_)
    · obtain rfl := hu
      exact ⟨rfl, rfl, by simp⟩
    · obtain rfl := hu
      have hstored := (revoked_case? env _ found _).symm.trans hcase
      exact absurd (hstored.symm.trans hmissing) (by simp)

/-! ### Expiries -/

omit [Python] in
/-- The approved decisions that are due, and have no case. -/
theorem exists_due_missing {now : Datetime} {ds due : List RiskDecision}
    (h : dueDecisions (ensureAware now) ds = .ok due) (db : Db) :
    (∃ d ∈ due, db.case? d.caseId = none) ↔
      ∃ d ∈ ds, d.isDue now = true ∧ db.case? d.caseId = none := by
  simp only [mem_dueDecisions h, and_assoc]

theorem processExpirations_clean {now : Option Datetime} {env : CallEnv} {db : Db}
    (h : ¬ LeavesResidue db ⟨.processExpirations now, env⟩) :
    (processExpirations now env).Wp Eq (fun _ _ => True) EndsClean (Session.fresh db) := by
  refine processExpirations_wp (fun e _ => endsClean_fresh _ _) fun due hdue =>
    ⟨fun d hd hnone => ?_, fun _ ws _ =>
      ⟨fun _ => endsClean_fresh _ _, fun db' _ => ⟨trivial, endsClean_returned _ _⟩⟩⟩
  exact absurd
    ⟨dueDecisions_isOk_iff.1 ⟨due, hdue⟩, (exists_due_missing hdue db).1 ⟨d, hd, hnone⟩⟩ h

theorem processExpirations_pending {now : Option Datetime} {env : CallEnv} {db : Db}
    (h : LeavesResidue db ⟨.processExpirations now, env⟩) :
    (processExpirations now env).Wp Eq (fun _ _ => False) (EndsPending db) (Session.fresh db) := by
  obtain ⟨hread, hmissing⟩ := h
  obtain ⟨due, hdue⟩ := dueDecisions_isOk_iff.2 hread
  obtain ⟨d, hd, hnone⟩ := (exists_due_missing hdue db).2 hmissing
  unfold processExpirations
  refine wp_select_bind fun t ht => ?_
  obtain rfl := ht
  refine wp_ofExcept_bind (fun e he => ?_) fun found hfound => ?_
  · exact absurd (he.symm.trans hdue) (by simp)
  · obtain rfl : found = due := Except.ok.inj (hfound.symm.trans hdue)
    refine expireLoop_wp env _ 0 found _ db (fun c => List.not_mem_nil)
      (fun _ _ _ e staged hstaged => ⟨rfl, rfl, hstaged⟩) fun hall => ?_
    have hsome := hall d hd
    rw [hnone] at hsome
    cases hsome

/-! ## Every call -/

/-- **A failed call leaves nothing** in the database or its session, except a verification by an
    actor whose provenance the audit log refuses, and a revocation or an expiry of a decision whose
    case is missing. -/
theorem noResidue_iff (db : Db) (c : Call) : NoResidue db c ↔ ¬ LeavesResidue db c := by
  obtain ⟨op, env⟩ := c
  constructor
  · intro hno hleaves
    refine residue_of_wp ?_ hno
    cases op with
    | verify a => exact pending_map _ (verify_pending hleaves)
    | revokeDecision a => exact pending_map _ (revokeDecision_pending hleaves)
    | processExpirations now => exact pending_map _ (processExpirations_pending hleaves)
    | createCase a => exact hleaves.elim
    | transition a => exact hleaves.elim
    | createRiskDecision a => exact hleaves.elim
    | approveRiskDecision a => exact hleaves.elim
    | reopenOnEvidence a => exact hleaves.elim
  · intro hleaves
    refine noResidue_of_wp ?_
    cases op with
    | createCase a => exact clean_map _ (createCase_clean a env db)
    | transition a => exact clean_map _ (transition_clean a env db)
    | verify a => exact clean_map _ (verify_clean hleaves)
    | createRiskDecision a => exact clean_map _ (createRiskDecision_clean a env db)
    | approveRiskDecision a => exact clean_map _ (approveRiskDecision_clean a env db)
    | revokeDecision a => exact clean_map _ (revokeDecision_clean hleaves)
    | processExpirations now => exact clean_map _ (processExpirations_clean hleaves)
    | reopenOnEvidence a => exact clean_map _ (reopenOnEvidence_clean a env db)

end Runtime

/-- A verification by an actor of unknown provenance. -/
def misattributed : Call where
  op := .verify { verifyAwaiting "wazuh_inventory" (.obj [("status", .str "complete")]) with
    actor := { sampleActor "alice" with provenance := "imported" } }
  env := sampleEnv 1

/-- The failed verification stays in its session, and an expiry run over no decisions commits it:
    the case is closed, without a row in the audit log. -/
theorem residue_committed :
    (¬ ∀ (_ : Python) (db : Db) (c : Call), NoResidue db c) ∧
    let failed := (@Call.body asciiPython misattributed).run (Session.fresh awaitingDb)
    let later := (@Call.body asciiPython ⟨.processExpirations none, sampleEnv 2⟩).run failed.2
    failed.1.isReturned = false ∧ later.1.isReturned = true ∧
      later.2.db.statusOf "case_1" = some .closed ∧
      later.2.db.auditEvents.rows = awaitingDb.auditEvents.rows := by
  refine ⟨fun h => ?_, by decide +kernel⟩
  have hno := h asciiPython awaitingDb misattributed
  refine (@noResidue_iff asciiPython awaitingDb misattributed).1 hno ?_
  exact ⟨⟨awaitingCase, by decide +kernel, rfl⟩, ⟨_, rfl⟩, by decide⟩

end VulnOpsHub
