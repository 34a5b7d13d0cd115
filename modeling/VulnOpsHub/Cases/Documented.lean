import VulnOpsHub.Cases.Runs
import VulnOpsHub.Cases.Admission

set_option autoImplicit false

/-! # Evidence that closes a case

The documented kinds of evidence that may close a case on their own are a scanner's result, the Wazuh
inventory and a signed SBOM. `evaluate_coverage` asks the other way round: it knows two methods that
never close, and lets every method it does not know pass with complete coverage. -/

namespace VulnOpsHub

/-- A method of a documented kind. The code has no word for a signed SBOM; `sbom` is whichever stands
    for one. -/
def AutoClosing (sbom method : String) : Prop :=
  method = "scanner" ∨ method = "wazuh_inventory" ∨ method = sbom

instance (sbom method : String) : Decidable (AutoClosing sbom method) :=
  inferInstanceAs (Decidable (method = "scanner" ∨ method = "wazuh_inventory" ∨ method = sbom))

/-- A method that the code knows never to close. -/
def KnownNotToClose (method : String) : Prop := method = "manual_attestation" ∨ method = "vex"

instance (method : String) : Decidable (KnownNotToClose method) :=
  inferInstanceAs (Decidable (method = "manual_attestation" ∨ method = "vex"))

/-- The coverage says that it is complete. -/
def CompleteCoverage (coverage : Json) : Prop :=
  ∃ status ∈ ["complete", "success", "ok"], coverage.get "status" = .ok (.str status)

theorem isOneOf_eq_true {value : Json} {strings : List String} :
    value.isOneOf strings = true ↔ ∃ s ∈ strings, value = .str s := by
  cases value <;> simp [Json.isOneOf]

/-- Complete coverage is an object with at least one member. -/
theorem CompleteCoverage.object {coverage : Json} (h : CompleteCoverage coverage) :
    ∃ members, coverage = .obj members ∧ coverage.truthy = true := by
  obtain ⟨status, -, hget⟩ := h
  cases coverage with
  | obj members =>
      refine ⟨members, rfl, ?_⟩
      cases members with
      | nil => cases hget
      | cons member rest => rfl
  | _ => cases hget

section Coverage

variable [Python]

/-- Only complete coverage closes, and not with a method known not to. -/
theorem evaluateCoverage_closes {method : String} {coverage : Json} {reason : String}
    (h : evaluateCoverage method coverage = .ok (true, reason)) :
    CompleteCoverage coverage ∧ ¬ KnownNotToClose method := by
  unfold evaluateCoverage at h
  by_cases htruthy : coverage.truthy = true
  · rw [if_neg (by simp [htruthy])] at h
    obtain ⟨status, hstatus, h⟩ := except_bind_eq_ok.1 h
    by_cases hfailed : status.isOneOf ["failed", "partial", "incomplete", "error"] = true
    · rw [if_pos hfailed] at h
      cases h
    rw [if_neg hfailed] at h
    by_cases hcomplete : status.isOneOf ["complete", "success", "ok"] = true
    · rw [if_neg (by simp [hcomplete])] at h
      obtain ⟨scopeVersion, -, h⟩ := except_bind_eq_ok.1 h
      obtain ⟨scope, -, h⟩ := except_bind_eq_ok.1 h
      obtain ⟨s, hs, rfl⟩ := isOneOf_eq_true.1 hcomplete
      refine ⟨⟨s, hs, hstatus⟩, ?_⟩
      rintro (rfl | rfl) <;> cases h
    · rw [if_pos (by simp [hcomplete])] at h
      cases h
  · rw [if_pos (by simp [htruthy])] at h
    cases h

/-- A method that the code does not know closes with complete coverage. -/
theorem evaluateCoverage_unknown {method : String} {coverage : Json}
    (hcomplete : CompleteCoverage coverage) (hscanner : method ≠ "scanner")
    (hwazuh : method ≠ "wazuh_inventory") (hknown : ¬ KnownNotToClose method) :
    evaluateCoverage method coverage = .ok (true, "coverage complete") := by
  obtain ⟨members, rfl, htruthy⟩ := hcomplete.object
  obtain ⟨status, hstatus, hget⟩ := hcomplete
  obtain ⟨hmanual, hvex⟩ := not_or.1 hknown
  have hfailed : ¬ (Json.str status).isOneOf ["failed", "partial", "incomplete", "error"] = true := by
    rw [isOneOf_eq_true]
    rintro ⟨s, hs, heq⟩
    cases heq
    simp at hstatus hs
    rcases hstatus with rfl | rfl | rfl <;> simp at hs
  have hknownStatus : ¬ (!(Json.str status).isOneOf ["complete", "success", "ok"]) = true := by
    rw [Bool.not_eq_true', Bool.not_eq_false]
    exact isOneOf_eq_true.2 ⟨status, hstatus, rfl⟩
  unfold evaluateCoverage
  rw [if_neg (by simp [htruthy]), hget, except_ok_bind, if_neg hfailed, if_neg hknownStatus]
  show (if (decide (method = "scanner") && _ && _) = true then _ else _) = _
  rw [if_neg (by simp [hscanner]), if_neg hwazuh, if_neg hmanual, if_neg hvex]
  rfl

/-! ## The case -/

/-- The verification closes its case. -/
def Closes (a : VerifyArgs) (env : CallEnv) (db : Db) : Prop :=
  db.statusOf a.caseId ≠ some .closed ∧
    (Call.run db ⟨.verify a, env⟩).statusOf a.caseId = some .closed

theorem Closes.coverage {a : VerifyArgs} {env : CallEnv} {db : Db} (h : Closes a env db) :
    ∃ reason, evaluateCoverage a.method a.coverage = .ok (true, reason) := by
  obtain ⟨hbefore, hafter⟩ := h
  have hstep := Call.run_step db ⟨.verify a, env⟩
  generalize Call.run db ⟨.verify a, env⟩ = db' at hstep hafter
  cases hstep with
  | quiet => exact absurd hafter hbefore
  | verified _ _ case next reason fields _ found awaiting coverage fields_eq moves h =>
      exact ⟨reason, coverage⟩
  | unverified _ _ case reason fields _ found awaiting coverage h =>
      rw [Db.statusOf, h.cases_eq] at hafter
      exact absurd hafter hbefore

/-- A verification that reaches its commit, and is accepted there, leaves what it flushed. -/
theorem verify_run {a : VerifyArgs} {env : CallEnv} {db db' : Db} {case : RemediationCase}
    {canClose : Bool} {reason : String} {fields : ActorFields}
    (hcase : db.case? a.caseId = some case) (hawaiting : case.status = .awaitingVerification)
    (hcoverage : evaluateCoverage a.method a.coverage = .ok (canClose, reason))
    (hfields : actorAuditFields a.actor = .ok fields)
    (hflush : Store.flush (verificationRows a env case canClose reason ++
      [.insertAudit (verificationAudit a env case canClose reason fields),
        .insertOutbox (verificationOutbox a env case canClose reason fields)]) db = some db') :
    Call.run db ⟨.verify a, env⟩ = db' := by
  show (((verify a env).map Answer.verification).run (Session.fresh db)).2.db = db'
  rw [Program.run_map]
  unfold verify getCase
  rw [Program.run_lookup_bind hcase, if_neg (not_not.2 hawaiting), hcoverage,
    Program.ofExcept_ok_bind]
  dsimp only
  rw [Program.run_add_bind, hfields, Program.ofExcept_ok_bind, Program.run_add_bind,
    Program.run_commitAll_bind]
  · unfold refreshCase
    cases hread : (Session.fresh db').db.case? a.caseId with
    | none => rw [Program.run_lookup_bind_none hread]; rfl
    | some next => rw [Program.run_lookup_bind hread]; rfl
  · exact hflush

end Coverage

/-! ## Samples -/

/-- A case that awaits its verification. -/
def awaitingCase : RemediationCase where
  id := "case_1"
  caseKey := "CASE-1"
  title := "outdated library"
  organizationId := "org"
  ownerTeam := "platform"
  assignee := none
  priority := "P2"
  policyVersion := none
  status := .awaitingVerification
  version := 5
  dueAt := none
  slaBreached := false
  ownershipEscalated := false
  closureReason := none
  exposures := []
  createdAt := 0
  updatedAt := 0

/-- The database with that case alone. -/
def awaitingDb : Db := { Db.sample with cases := ⟨[awaitingCase], by decide⟩ }

/-- A verification of it. -/
def verifyAwaiting (method : String) (coverage : Json) : VerifyArgs where
  caseId := "case_1"
  method := method
  evidenceIds := .arr []
  coverage := coverage
  assertedResult := none
  actor := sampleActor "alice"

section Closing

variable [Python]

/-- What the policy lets close a case does close it. -/
theorem closes_awaiting {method reason : String} {coverage : Json}
    (h : evaluateCoverage method coverage = .ok (true, reason)) :
    Closes (verifyAwaiting method coverage) (sampleEnv 1) awaitingDb := by
  obtain ⟨fields, hfields⟩ : ∃ fields, actorAuditFields (sampleActor "alice") = .ok fields :=
    ⟨_, if_pos (Or.inr rfl)⟩
  have haccepted : (Store.flush (verificationRows (verifyAwaiting method coverage) (sampleEnv 1)
      awaitingCase true reason ++
      [.insertAudit (verificationAudit (verifyAwaiting method coverage) (sampleEnv 1) awaitingCase
          true reason fields),
        .insertOutbox (verificationOutbox (verifyAwaiting method coverage) (sampleEnv 1) awaitingCase
          true reason fields)]) awaitingDb).isSome = true := by
    rw [flush_isSome_iff]
    constructor
    · simp [verificationRows, Write.inserts]
    · simp [verificationRows, Write.inserts, Db.Holds, Db.keysIn, awaitingDb, Db.sample, Db.initial,
        Table.empty]
  obtain ⟨db', hflush⟩ := Option.isSome_iff_exists.1 haccepted
  have hfound : awaitingDb.case? (verifyAwaiting method coverage).caseId = some awaitingCase := by
    show awaitingDb.case? "case_1" = _
    decide +kernel
  have hrun := verify_run hfound rfl h hfields hflush
  constructor
  · rw [Db.statusOf_of_case? hfound]
    decide
  · rw [hrun, Db.statusOf, (flush_effect hflush).case?, hfound]
    rfl

/-- **Verification closes for documented evidence only**, by whichever word for a signed SBOM, just
    where complete coverage comes with a documented method, or with one known never to close. -/
theorem closes_documented_iff (sbom method : String) (coverage : Json) :
    (∀ (a : VerifyArgs) (env : CallEnv) (db : Db), a.method = method → a.coverage = coverage →
      Closes a env db → AutoClosing sbom method ∧ CompleteCoverage coverage) ↔
    (CompleteCoverage coverage → AutoClosing sbom method ∨ KnownNotToClose method) := by
  constructor
  · intro h hcomplete
    by_contra hnot
    obtain ⟨hauto, hknown⟩ := not_or.1 hnot
    have hcloses := closes_awaiting (evaluateCoverage_unknown hcomplete (fun h => hauto (Or.inl h))
      (fun h => hauto (Or.inr (Or.inl h))) hknown)
    exact hauto (h _ _ _ rfl rfl hcloses).1
  · rintro h a env db rfl rfl hcloses
    obtain ⟨reason, hcoverage⟩ := hcloses.coverage
    obtain ⟨hcomplete, hknown⟩ := evaluateCoverage_closes hcoverage
    exact ⟨(h hcomplete).resolve_right hknown, hcomplete⟩

end Closing

/-- Without a method, which the route calls "unknown", complete coverage closes the case; so does an
    attestation in another case of letters. -/
theorem undocumented_closes :
    (¬ ∀ (_ : Python) (sbom method : String) (coverage : Json) (a : VerifyArgs) (env : CallEnv)
      (db : Db), sbom ≠ "unknown" → a.method = method → a.coverage = coverage → Closes a env db →
        AutoClosing sbom method ∧ CompleteCoverage coverage) ∧
    @Closes asciiPython (verifyAwaiting "Manual_Attestation" (.obj [("status", .str "complete")]))
      (sampleEnv 1) awaitingDb := by
  constructor
  · intro h
    obtain ⟨hauto, -⟩ := h asciiPython "signed_sbom" "unknown" (.obj [("status", .str "complete")])
      (verifyAwaiting "unknown" (.obj [("status", .str "complete")])) (sampleEnv 1) awaitingDb
      (by decide) rfl rfl (@closes_awaiting asciiPython "unknown" "coverage complete" _ rfl)
    revert hauto
    decide
  · exact @closes_awaiting asciiPython _ "coverage complete" _ rfl

end VulnOpsHub
