import VulnOpsHub.Cases.Runs

set_option autoImplicit false

/-! # Recording a breach

A case that is moved after its due date should be marked as breached. Six operations move cases, and
one of them, `transition`, looks at the due date; none takes the mark away. -/

namespace VulnOpsHub

/-- The mark of the case stored under `id`. -/
def Db.breachOf (db : Db) (id : String) : Option Bool := (db.case? id).map (·.slaBreached)

/-- The case is marked as breached. -/
def Db.Breached (db : Db) (id : String) : Prop := db.breachOf id = some true

instance (db : Db) (id : String) : Decidable (db.Breached id) :=
  inferInstanceAs (Decidable (db.breachOf id = some true))

/-- The time a call goes by; the time of an expiry run may be given. -/
def Call.now (c : Call) : Except PyError Instant :=
  match c.op with
  | .processExpirations (some now) => toInstant (ensureAware now)
  | _ => .ok (c.env.clock 0)

/-! ## What a call does to the mark -/

/-- The statement leaves the marks of cases alone. -/
def Write.LeavesBreach : Write → Prop
  | .insertCase _ => False
  | .updateCase _ p => p.slaBreached = none
  | _ => True

theorem breach_onCase {w : Write} (hw : w.LeavesBreach) (id : String)
    (x : Option RemediationCase) :
    (w.onCase id x).map (·.slaBreached) = x.map (·.slaBreached) := by
  cases w with
  | insertCase c => exact hw.elim
  | updateCase k p =>
      have hnone : p.slaBreached = none := hw
      simp only [Write.onCase]
      split_ifs
      · cases x <;> simp [CasePatch.toRow, hnone]
      · rfl
  | _ => rfl

theorem breachOf_flush {ws : List Write} {db db' : Db} (hflush : Store.flush ws db = some db')
    (hws : ∀ w ∈ ws, w.LeavesBreach) (id : String) : db'.breachOf id = db.breachOf id := by
  unfold Db.breachOf
  rw [(flush_effect hflush).case?]
  generalize db.case? id = x
  clear hflush
  induction ws generalizing x with
  | nil => rfl
  | cons w ws ih =>
      rw [List.foldl_cons, ih (fun w hw => hws w (List.mem_cons_of_mem _ hw)),
        breach_onCase (hws w List.mem_cons_self)]

section Runtime

variable [Python]

/-- Only `transition` looks at the due date of a case. -/
theorem Call.run_breachOf {db : Db} {c : Call} {id : String} (hop : ∀ a, c.op ≠ .transition a)
    (hid : (db.case? id).isSome) : (c.run db).breachOf id = db.breachOf id := by
  have hstep := c.run_step db
  have hran := Call.ran db c
  generalize c.run db = db' at hstep hran ⊢
  cases hran with
  | quiet h => rfl
  | committed h reads ex st db' hreads hguards hcommit hflush =>
      obtain ⟨op, env⟩ := c
      cases op with
      | createCase a =>
          cases hstep with
          | quiet => rfl
          | created _ _ owner _ fresh h =>
              have hne : id ≠ (newCase a env owner).id := by
                rintro rfl
                rw [fresh] at hid
                cases hid
              rw [Db.breachOf, h.cases_eq, Function.update_of_ne hne]
              rfl
      | transition a => exact absurd rfl (hop a)
      | verify a =>
          obtain ⟨s, case, canClose, reason, fields, rfl, hc⟩ := hcommit
          refine breachOf_flush hflush ?_ id
          rw [hc.executed_eq, hc.staged_eq]
          cases canClose <;> simp [transactionWrites, verificationRows, Write.LeavesBreach,
            CasePatch.ofChange, changed, verifiedCase]
      | createRiskDecision a =>
          obtain ⟨s, case, scope, given, expiresAt, fields, rfl, hc⟩ := hcommit
          refine breachOf_flush hflush ?_ id
          rw [hc.executed_eq, hc.staged_eq]
          simp [transactionWrites, Write.LeavesBreach]
      | approveRiskDecision a =>
          obtain ⟨s₁, s₂, stored, d, case, outcome, fields, role, rfl, hc⟩ := hcommit
          refine breachOf_flush hflush ?_ id
          rw [hc.executed_eq, hc.staged_eq]
          cases outcome <;> simp [transactionWrites, approvalUpdate, CondUpdate.onDecision,
            approvalCaseWrites, Write.LeavesBreach, CasePatch.ofChange, changed, acceptedCase]
      | revokeDecision a =>
          obtain ⟨s₁, s₂, d, case, rfl, hc⟩ := hcommit
          refine breachOf_flush hflush ?_ id
          rw [hc.executed_eq, hc.staged_eq]
          simp [transactionWrites, Write.LeavesBreach, CasePatch.ofChange, changed, triagedCase]
      | processExpirations now =>
          cases hstep with
          | quiet => rfl
          | expired _ _ due audits outbox _ approved audits_eq outbox_eq trail h =>
              unfold Db.breachOf
              rw [h.cases_eq]
              dsimp only
              cases db.case? id with
              | none => rfl
              | some case =>
                  simp only [Option.map_some, afterExpiry]
                  split_ifs <;> rfl
      | reopenOnEvidence a =>
          obtain ⟨s, case, rfl, hc⟩ := hcommit
          refine breachOf_flush hflush ?_ id
          rw [hc.executed_eq, hc.staged_eq]
          simp [transactionWrites, Write.LeavesBreach, CasePatch.ofChange, changed, reopenedCase]

/-- `transition` marks a case it moves past its due date, keeps its mark otherwise, and leaves the
    other cases alone. -/
theorem transition_breachOf (a : TransitionArgs) (env : CallEnv) (db : Db) :
    Call.run db ⟨.transition a, env⟩ = db ∨
      ∃ case, db.case? a.caseId = some case ∧
        (Call.run db ⟨.transition a, env⟩).breachOf a.caseId =
          some (case.slaBreached || case.dueAt.any fun due => decide (due < env.clock 0)) ∧
        ∀ id, id ≠ a.caseId →
          (Call.run db ⟨.transition a, env⟩).case? id = db.case? id := by
  have hran := Call.ran db ⟨.transition a, env⟩
  generalize Call.run db ⟨.transition a, env⟩ = db' at hran ⊢
  cases hran with
  | quiet h => exact Or.inl rfl
  | committed h reads ex st db' hreads hguards hcommit hflush =>
      obtain ⟨s, case, target, fields, rfl, hc⟩ := hcommit
      obtain rfl := hreads s (by simp)
      have hfound := hc.found
      have hwrites := hc.writes
      refine Or.inr ⟨case, hfound, ?_, fun id hid => ?_⟩
      · rw [Db.breachOf, (flush_effect hflush).case?]
        split at hwrites <;> obtain ⟨rfl, rfl⟩ := hwrites
        · simp [transactionWrites, Write.onCase, transitionUpdate, CondUpdate.onCase, hfound,
            CasePatch.toRow, transitioned]
        · simp [transactionWrites, Write.onCase, hfound, CasePatch.ofChange_apply, transitioned]
      · rw [(flush_effect hflush).case?]
        split at hwrites <;> obtain ⟨rfl, rfl⟩ := hwrites
        · simp [transactionWrites, Write.onCase, transitionUpdate, CondUpdate.onCase, hid]
        · simp [transactionWrites, Write.onCase, hid]

/-- No call takes a mark away. -/
theorem Call.breached_kept {db : Db} {c : Call} {id : String} (h : db.Breached id) :
    (c.run db).Breached id := by
  obtain ⟨case, hcase, hmark⟩ := Option.map_eq_some_iff.1 h
  by_cases hop : ∃ a, c.op = .transition a
  · obtain ⟨a, ha⟩ := hop
    obtain ⟨op, env⟩ := c
    obtain rfl : op = .transition a := ha
    rcases transition_breachOf a env db with hquiet | ⟨found, hfound, hbreach, hothers⟩
    · rwa [hquiet]
    · by_cases hid : id = a.caseId
      · subst hid
        rw [hcase] at hfound
        cases hfound
        rw [Db.Breached, hbreach, hmark, Bool.true_or]
      · rw [Db.Breached, Db.breachOf, hothers id hid]
        exact h
  · rw [Db.Breached, Call.run_breachOf (not_exists.1 hop) (by rw [hcase]; rfl)]
    exact h

/-! ## Late moves -/

/-- The call changes the status of the case, at a time later than its due date. -/
def LateMove (c : Call) (db : Db) (id : String) : Prop :=
  ∃ case next due now, db.case? id = some case ∧ (c.run db).case? id = some next ∧
    next.status ≠ case.status ∧ case.dueAt = some due ∧ c.now = .ok now ∧ due < now

/-- The call looks at the due date, or the case is marked already. -/
def RecordsBreach (c : Call) (db : Db) (id : String) : Prop :=
  (∃ a, c.op = .transition a) ∨ db.Breached id

/-- A late move is recorded exactly when the call looks at the due date or the case was marked. -/
theorem LateMove.breached_iff {c : Call} {db : Db} {id : String} (h : LateMove c db id) :
    (c.run db).Breached id ↔ RecordsBreach c db id := by
  obtain ⟨case, next, due, now, hcase, hnext, hmoved, hdue, hnow, hlate⟩ := h
  by_cases hop : ∃ a, c.op = .transition a
  · refine iff_of_true ?_ (Or.inl hop)
    obtain ⟨a, ha⟩ := hop
    obtain ⟨op, env⟩ := c
    obtain rfl : op = .transition a := ha
    obtain rfl : env.clock 0 = now := Except.ok.inj hnow
    rcases transition_breachOf a env db with hquiet | ⟨found, hfound, hbreach, hothers⟩
    · rw [hquiet, hcase] at hnext
      exact absurd (congrArg _ (Option.some.inj hnext).symm) hmoved
    · by_cases hid : id = a.caseId
      · subst hid
        rw [hcase] at hfound
        cases hfound
        rw [Db.Breached, hbreach]
        simp [hdue, hlate]
      · rw [hothers id hid, hcase] at hnext
        exact absurd (congrArg _ (Option.some.inj hnext).symm) hmoved
  · rw [Db.Breached, Call.run_breachOf (not_exists.1 hop) (by rw [hcase]; rfl)]
    exact ⟨Or.inr, fun h => h.resolve_left hop⟩

/-! ## Runs -/

/-- In the run of the calls from `db`, every late move leaves its case marked, and no mark is taken
    away. -/
structure BreachesRecorded (db : Db) (calls : List Call) : Prop where
  recorded : ∀ before c after, calls = before ++ c :: after → ∀ id,
    LateMove c (callAll db before) id → (c.run (callAll db before)).Breached id
  kept : ∀ before c after, calls = before ++ c :: after → ∀ id,
    (callAll db before).Breached id → (c.run (callAll db before)).Breached id

/-- **Breaches are recorded** over a run exactly when every call of it that moves a case late is a
    `transition`, or finds the case marked. Marks are never taken away. -/
theorem breachesRecorded_iff (db : Db) (calls : List Call) : BreachesRecorded db calls ↔
    ∀ before c after, calls = before ++ c :: after → ∀ id,
      LateMove c (callAll db before) id → RecordsBreach c (callAll db before) id := by
  constructor
  · intro h before c after hcalls id hlate
    exact hlate.breached_iff.1 (h.recorded before c after hcalls id hlate)
  · intro h
    exact
      { recorded := fun before c after hcalls id hlate =>
          hlate.breached_iff.2 (h before c after hcalls id hlate)
        kept := fun before c after hcalls id => Call.breached_kept }

end Runtime

/-- A scanner verification eight days after the sample case was created, a day past its due date. -/
def lateVerify : Call := { sampleVerify 5 with
  env := { sampleEnv 5 with clock := fun _ => 8 * dayMicroseconds } }

/-- The verification closes the case without a word about its due date. -/
theorem breach_not_recorded :
    ¬ ∀ (_ : Python) (db : Db) (calls : List Call), BreachesRecorded db calls := by
  intro h
  have hrun := h asciiPython Db.sample (sampleAwaiting ++ [lateVerify])
  have hbefore : ((sampleRows sampleAwaiting).case? sampleCase).map
      (fun c => (c.status, c.dueAt)) =
        some (.awaitingVerification, some (7 * dayMicroseconds)) := by decide +kernel
  have hafter : ((@Call.run asciiPython (sampleRows sampleAwaiting) lateVerify).case?
      sampleCase).map (fun c => (c.status, c.slaBreached)) = some (.closed, false) := by
    decide +kernel
  obtain ⟨case, hcase, hstatus⟩ := Option.map_eq_some_iff.1 hbefore
  obtain ⟨next, hnext, hnextStatus⟩ := Option.map_eq_some_iff.1 hafter
  obtain ⟨hawaiting, hdue⟩ := Prod.mk.inj hstatus
  obtain ⟨hclosed, hmark⟩ := Prod.mk.inj hnextStatus
  have hlate : @LateMove asciiPython lateVerify (sampleRows sampleAwaiting) sampleCase := by
    refine ⟨case, next, 7 * dayMicroseconds, 8 * dayMicroseconds, hcase, hnext, ?_, hdue, rfl,
      by decide⟩
    rw [hclosed, hawaiting]
    decide
  have hbreached : (@Call.run asciiPython (sampleRows sampleAwaiting) lateVerify).Breached
      sampleCase :=
    @BreachesRecorded.recorded asciiPython _ _ hrun sampleAwaiting lateVerify [] rfl sampleCase hlate
  unfold Db.Breached Db.breachOf at hbreached
  rw [hnext, Option.map_some, hmark] at hbreached
  cases hbreached

end VulnOpsHub
