import VulnOpsHub.Cases.Steps

set_option autoImplicit false

/-! # What calls record about a case

Decisions and verifications are added by the calls that make them and never removed; what a decision
says, and the organization of a case, no later call changes. -/

namespace VulnOpsHub

/-- What of a decision no call changes. -/
def RiskDecision.record (d : RiskDecision) : String × Json × Json × Expiry :=
  (d.caseId, d.scopeExposureIds, d.evidenceIds, d.expiresAt)

/-- A call adds decisions and verifications to the history of its case, and keeps what there was. -/
structure Db.Records (db db' : Db) (ds : List RiskDecision) (vs : List Verification) : Prop where
  kept : ∀ id d, db.decision? id = some d →
    ∃ d', db'.decision? id = some d' ∧ d'.record = d.record
  decisions : ∀ id d', db'.decision? id = some d' →
    (∃ d, db.decision? id = some d ∧ d'.record = d.record) ∨ d' ∈ ds
  added : ∀ d ∈ ds, db'.decision? d.id = some d
  verifications : db'.verifications.rows = db.verifications.rows ++ vs
  cases : ∀ id c, db.case? id = some c →
    ∃ c', db'.case? id = some c' ∧ c'.organizationId = c.organizationId

/-- Where the stored decisions say what they said. -/
theorem Db.Records.of_same {db db' : Db} {vs : List Verification}
    (hdecisions : ∀ id, (db'.decision? id).map RiskDecision.record
      = (db.decision? id).map RiskDecision.record)
    (hverifications : db'.verifications.rows = db.verifications.rows ++ vs)
    (hcases : ∀ id c, db.case? id = some c →
      ∃ c', db'.case? id = some c' ∧ c'.organizationId = c.organizationId) :
    db.Records db' [] vs where
  kept := fun id d hd => by
    have h := hdecisions id
    rw [hd, Option.map_some, Option.map_eq_some_iff] at h
    exact h
  decisions := fun id d' hd' => by
    have h := (hdecisions id).symm
    rw [hd', Option.map_some, Option.map_eq_some_iff] at h
    obtain ⟨d, hd, hrecord⟩ := h
    exact .inl ⟨d, hd, hrecord.symm⟩
  added := by simp
  verifications := hverifications
  cases := hcases

/-- A case keeps its organization where it keeps what it is about. -/
theorem Db.SameSubjects.organizations {db db' : Db} (h : db.SameSubjects db') (id : String)
    (c : RemediationCase) (hc : db.case? id = some c) :
    ∃ c', db'.case? id = some c' ∧ c'.organizationId = c.organizationId := by
  have hsubject := h id
  rw [hc, Option.map_some, Option.map_eq_some_iff] at hsubject
  obtain ⟨c', hc', heq⟩ := hsubject
  exact ⟨c', hc', congrArg Prod.fst heq⟩

/-- A decision that is changed in a column outside its record. -/
theorem map_record_update {db : Db} {k : String} {stored d : RiskDecision}
    (hstored : db.decision? k = some stored) (hrecord : d.record = stored.record) (id : String) :
    (Function.update db.decision? k (some d) id).map RiskDecision.record
      = (db.decision? id).map RiskDecision.record := by
  by_cases hid : id = k
  · rw [hid, Function.update_self, hstored, Option.map_some, Option.map_some, hrecord]
  · rw [Function.update_of_ne hid]

section Calls

variable [Python] {db : Db} {env : CallEnv}

/-- A call that makes no decision and no verification. -/
theorem Call.run_records {op : CaseOp} (hrequest : ∀ a, op ≠ .createRiskDecision a)
    (hverify : ∀ a, op ≠ .verify a) : db.Records (Call.run db ⟨op, env⟩) [] [] := by
  have horganizations : ∀ id c, db.case? id = some c →
      ∃ c', (Call.run db ⟨op, env⟩).case? id = some c' ∧ c'.organizationId = c.organizationId := by
    by_cases hop : ∃ a, op = .createCase a
    · obtain ⟨a, rfl⟩ := hop
      intro id c hc
      generalize hdb' : Call.run db ⟨.createCase a, env⟩ = db'
      have hstep := Call.run_step db ⟨.createCase a, env⟩
      rw [hdb'] at hstep
      cases hstep with
      | quiet => exact ⟨c, hc, rfl⟩
      | created _ _ owner _ fresh h =>
          refine ⟨c, ?_, rfl⟩
          rw [h.cases_eq, Function.update_of_ne, hc]
          rintro rfl
          rw [fresh] at hc
          cases hc
    · exact (Call.run_sameSubjects db ⟨op, env⟩ fun a ha => hop ⟨a, ha⟩).organizations
  generalize hcall : (⟨op, env⟩ : Call) = call at horganizations ⊢
  have hstep := Call.run_step db call
  generalize call.run db = db' at hstep horganizations ⊢
  cases hstep with
  | quiet => exact .of_same (fun _ => rfl) (by simp) horganizations
  | created a _ owner _ fresh h =>
      exact .of_same (fun id => by rw [h.decisions_eq]) h.verifications_eq horganizations
  | transitioned a _ case next target fields _ found edge target_eq version fields_eq moves h =>
      exact .of_same (fun id => by rw [h.decisions_eq]) h.verifications_eq horganizations
  | verified a _ case next reason fields _ found awaiting coverage fields_eq moves h =>
      exact absurd (congrArg Call.op hcall) (hverify a)
  | unverified a _ case reason fields _ found awaiting coverage h =>
      exact absurd (congrArg Call.op hcall) (hverify a)
  | requested a _ case scope expiresAt fields _ found scope_eq fresh h =>
      exact absurd (congrArg Call.op hcall) (hrequest a)
  | approved a _ stored d case next fields role _ found canonical guarded foundCase valid edge
      moves h =>
      refine .of_same (fun id => ?_) h.verifications_eq horganizations
      rw [h.decisions_eq]
      exact map_record_update found (by rfl) id
  | rejected a _ stored d case fields role _ found canonical guarded h =>
      refine .of_same (fun id => ?_) h.verifications_eq horganizations
      rw [h.decisions_eq]
      exact map_record_update found (by rfl) id
  | revoked a _ d case next time _ found foundCase moves h =>
      refine .of_same (fun id => ?_) h.verifications_eq horganizations
      rw [h.decisions_eq]
      exact map_record_update found (by rfl) id
  | expired now _ due audits outbox _ approved audits_eq outbox_eq trail h =>
      refine .of_same (fun id => ?_) h.verifications_eq horganizations
      rw [h.decisions_eq, Option.map_map]
      refine congrArg (Option.map · (db.decision? id)) (funext fun d => ?_)
      simp only [Function.comp_apply, afterOwnExpiry]
      split_ifs <;> rfl
  | reopened a _ case next _ found closed moves h =>
      exact .of_same (fun id => by rw [h.decisions_eq]) h.verifications_eq horganizations

/-- A request for a decision that returned. -/
theorem Call.run_requested {a : CreateRiskDecisionArgs}
    (h : ((Call.body ⟨.createRiskDecision a, env⟩).run (Session.fresh db)).1.isReturned = true) :
    ∃ scope expiresAt,
      (if a.scope.truthy then a.scope.get "exposure_ids" else .ok .null) = .ok scope ∧
      (db.case? a.caseId).isSome = true ∧
      db.Records (Call.run db ⟨.createRiskDecision a, env⟩)
        [newRiskDecision a env scope expiresAt] [] := by
  have hran := Call.ran db ⟨.createRiskDecision a, env⟩
  generalize Call.run db ⟨.createRiskDecision a, env⟩ = db' at hran ⊢
  cases hran with
  | quiet hquiet =>
      change Outcome.isReturned _ = false at hquiet
      rw [hquiet] at h
      cases h
  | committed hreturn reads ex st _ hreads hguards hcommit hflush =>
      obtain ⟨s, case, scope, given, expiresAt, fields, rfl, hc⟩ := hcommit
      obtain rfl := hreads s (by simp)
      obtain ⟨-, -, -, -, hfound, hscope, rfl, rfl⟩ := hc
      have he := flush_effect hflush
      have hfresh := fresh_of_insertDecision hflush
      have hdecision : ∀ id, db'.decision? id =
          if (newRiskDecision a env scope expiresAt).id = id then
            some (newRiskDecision a env scope expiresAt) else s.decision? id := he.decision?
      refine ⟨scope, expiresAt, hscope, by rw [hfound]; rfl, ⟨?_, ?_, ?_, he.verifications, ?_⟩⟩
      · intro id d hd
        refine ⟨d, ?_, rfl⟩
        rw [hdecision, if_neg, hd]
        rintro rfl
        rw [hfresh] at hd
        cases hd
      · intro id d' hd'
        rw [hdecision] at hd'
        split_ifs at hd' with hid
        · exact .inr (List.mem_singleton.2 (Option.some.inj hd').symm)
        · exact .inl ⟨d', hd', rfl⟩
      · intro d hd
        obtain rfl := List.mem_singleton.1 hd
        rw [hdecision, if_pos rfl]
      · refine (sameSubjects_of_flush hflush fun c => ?_).organizations
        simp [transactionWrites]

/-- A verification that returned. -/
theorem Call.run_verified {a : VerifyArgs}
    (h : ((Call.body ⟨.verify a, env⟩).run (Session.fresh db)).1.isReturned = true) :
    ∃ canClose reason, evaluateCoverage a.method a.coverage = .ok (canClose, reason) ∧
      (db.case? a.caseId).isSome = true ∧
      db.Records (Call.run db ⟨.verify a, env⟩) [] [verificationRow a env canClose] := by
  have hran := Call.ran db ⟨.verify a, env⟩
  generalize Call.run db ⟨.verify a, env⟩ = db' at hran ⊢
  cases hran with
  | quiet hquiet =>
      change Outcome.isReturned _ = false at hquiet
      rw [hquiet] at h
      cases h
  | committed hreturn reads ex st _ hreads hguards hcommit hflush =>
      obtain ⟨s, case, canClose, reason, fields, rfl, hc⟩ := hcommit
      obtain rfl := hreads s (by simp)
      obtain ⟨hfound, hawaiting, hcoverage, hfields, rfl, rfl⟩ := hc
      have he := flush_effect hflush
      refine ⟨canClose, reason, hcoverage, by rw [hfound]; rfl, .of_same (fun id => ?_) ?_ ?_⟩
      · rw [he.decision?]
        cases canClose <;> rfl
      · rw [he.verifications]
        cases canClose <;> rfl
      · refine (sameSubjects_of_flush hflush fun c => ?_).organizations
        cases canClose <;> simp [transactionWrites, verificationRows]

end Calls

end VulnOpsHub
