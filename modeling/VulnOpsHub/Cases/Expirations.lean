import VulnOpsHub.Cases.Service

set_option autoImplicit false

/-! # The expiry loop

`process_expirations` picks the due decisions from one read and then looks up one case per
decision; a case looked up again shows the change staged for it before. `ExpirationState` is the
invariant of the loop: what the statements staged so far do to the rows they will be flushed over.
It holds of a call all of whose reads see the same rows. -/

namespace VulnOpsHub

open Program

/-- A session shows its own updates of a case on top of the committed row. -/
theorem sessionView_case? {staged : List Write} (h : ∀ c, Write.insertCase c ∉ staged) (db : Db)
    (id : String) : (sessionView [] staged db).case? id
      = staged.foldl (fun x w => w.onCase id x) (db.case? id) := by
  show (staged.foldl (fun s w => Store.overlay w s) db).case? id = _
  induction staged generalizing db with
  | nil => rfl
  | cons w ws ih =>
      have hw : (Write.overlay db w).case? id = w.onCase id (db.case? id) := by
        cases w with
        | insertCase c => exact absurd List.mem_cons_self (h c)
        | updateCase cid p => exact Table.find?_update _ cid id _
        | _ => rfl
      rw [List.foldl_cons, List.foldl_cons, ← hw]
      exact ih (fun c hc => h c (List.mem_cons_of_mem _ hc)) _

/-! ## The effect of expiries -/

/-- A case of which one of the decisions `ds` expires: an accepted risk goes back to triage. -/
def afterExpiry (env : CallEnv) (ds : List RiskDecision) (c : RemediationCase) : RemediationCase :=
  if c.status = .riskAccepted ∧ ∃ d ∈ ds, d.caseId = c.id then
    { triagedCase c with updatedAt := env.clock 8 }
  else c

/-- A decision after those in `ds` have expired. -/
def afterOwnExpiry (env : CallEnv) (ds : List RiskDecision) (d : RiskDecision) : RiskDecision :=
  if ∃ e ∈ ds, e.id = d.id then { expiredDecision d with updatedAt := env.clock 8 } else d

/-- The states in an audit row about the case `id`, if it records a status: it has a prior state, or
    it says that the case was created. -/
def AuditEvent.recorded? (id : String) (a : AuditEvent) : Option (Option String × String) :=
  if a.subjectType = "case" ∧ a.subjectId = id ∧
      (a.priorState.isSome ∨ a.action = "case.created") then
    a.newState.map fun new => (a.priorState, new)
  else none

/-- The event is about the case `id`. -/
def OutboxEvent.aboutCase (id : String) (e : OutboxEvent) : Bool :=
  e.aggregateType = "case" ∧ e.aggregateId = id

/-- The case `id` is accepted, and one of the decisions `ds` is about it. -/
def Db.sentBack (db : Db) (ds : List RiskDecision) (id : String) : Bool :=
  (db.case? id).any fun c => c.status = .riskAccepted ∧ ∃ d ∈ ds, d.caseId = c.id

/-- The rows that expiries leave: one audit row and one event for each case that they send back. -/
structure ExpiryTrail (db : Db) (ds : List RiskDecision) (audits : List AuditEvent)
    (outbox : List OutboxEvent) : Prop where
  audits : ∀ id, audits.filterMap (AuditEvent.recorded? id)
    = if db.sentBack ds id then [(some CaseStatus.riskAccepted.value, CaseStatus.triage.value)]
      else []
  outbox : ∀ id, (outbox.filter (OutboxEvent.aboutCase id)).length
    = if db.sentBack ds id then 1 else 0

/-- The statements staged over `db` by the rounds of the loop for the decisions `ds`. -/
structure ExpirationState (env : CallEnv) (db : Db) (ds : List RiskDecision)
    (staged : List Write) : Prop where
  cases : ∀ id, staged.foldl (fun x w => w.onCase id x) (db.case? id)
    = (db.case? id).map (afterExpiry env ds)
  decisions : ∀ id, staged.foldl (fun x w => w.onDecision id x) (db.decision? id)
    = (db.decision? id).map (afterOwnExpiry env ds)
  noNewCase : ∀ c, Write.insertCase c ∉ staged
  verifications : staged.filterMap Write.verification? = []
  audits : ∀ a ∈ staged.filterMap Write.audit?, a.action = "risk-decision.expired"
  outbox : ∀ o ∈ staged.filterMap Write.outbox?, o.eventType = "vulnops.risk-decision.expired.v1"
  trail : ExpiryTrail db ds (staged.filterMap Write.audit?) (staged.filterMap Write.outbox?)

section Effects

variable {env : CallEnv} {ds : List RiskDecision}

theorem afterExpiry_id (c : RemediationCase) : (afterExpiry env ds c).id = c.id := by
  unfold afterExpiry; split <;> rfl

theorem afterExpiry_accepted {c : RemediationCase} :
    (afterExpiry env ds c).status = .riskAccepted ↔
      c.status = .riskAccepted ∧ ¬ ∃ d ∈ ds, d.caseId = c.id := by
  unfold afterExpiry
  by_cases hra : c.status = .riskAccepted
  · by_cases hds : ∃ d ∈ ds, d.caseId = c.id
    · rw [if_pos ⟨hra, hds⟩]
      simp [triagedCase, hds]
    · rw [if_neg fun h => hds h.2]
      exact ⟨fun h => ⟨h, hds⟩, fun h => h.1⟩
  · rw [if_neg fun h => hra h.1]
    exact ⟨fun h => absurd h hra, fun h => h.1⟩

/-- A case still accepted after some expiries was not affected by them. -/
theorem afterExpiry_eq_self {c : RemediationCase}
    (h : (afterExpiry env ds c).status = .riskAccepted) : afterExpiry env ds c = c := by
  unfold afterExpiry at h ⊢
  split
  · next hif => rw [if_pos hif] at h; cases h
  · rfl

/-- The effect of one more expiry on a case. -/
theorem afterExpiry_append (d : RiskDecision) (c : RemediationCase) :
    afterExpiry env (ds ++ [d]) c =
      if (afterExpiry env ds c).status = .riskAccepted ∧ c.id = d.caseId then
        { triagedCase c with updatedAt := env.clock 8 }
      else afterExpiry env ds c := by
  by_cases hra : c.status = .riskAccepted
  · by_cases hds : ∃ e ∈ ds, e.caseId = c.id
    · have hmore : ∃ e ∈ ds ++ [d], e.caseId = c.id :=
        hds.imp fun e he => ⟨List.mem_append_left _ he.1, he.2⟩
      simp only [afterExpiry, hra, hds, hmore, and_self, if_true, triagedCase]
      simp
    · have hmore : (∃ e ∈ ds ++ [d], e.caseId = c.id) ↔ c.id = d.caseId := by
        constructor
        · rintro ⟨e, he, heq⟩
          rcases List.mem_append.1 he with he | he
          · exact absurd ⟨e, he, heq⟩ hds
          · rw [← heq, List.mem_singleton.1 he]
        · intro h
          exact ⟨d, by simp, h.symm⟩
      simp only [afterExpiry, hra, hds, hmore, and_false, if_false, true_and]
  · simp [afterExpiry, hra]

/-- The effect of one more expiry on a decision. -/
theorem afterOwnExpiry_append (d e : RiskDecision) :
    afterOwnExpiry env (ds ++ [d]) e =
      if e.id = d.id then { expiredDecision e with updatedAt := env.clock 8 }
      else afterOwnExpiry env ds e := by
  by_cases h : e.id = d.id
  · have hmore : ∃ x ∈ ds ++ [d], x.id = e.id := ⟨d, by simp, h.symm⟩
    rw [if_pos h, afterOwnExpiry, if_pos hmore]
  · have hmore : (∃ x ∈ ds ++ [d], x.id = e.id) ↔ ∃ x ∈ ds, x.id = e.id := by
      simp [or_and_right, exists_or, Ne.symm h]
    rw [if_neg h, afterOwnExpiry, afterOwnExpiry]
    simp only [hmore]

/-- Before the first round nothing is staged. -/
theorem ExpirationState.init (env : CallEnv) (db : Db) : ExpirationState env db [] [] where
  cases := fun id => by cases h : db.case? id <;> simp [afterExpiry]
  decisions := fun id => by cases h : db.decision? id <;> simp [afterOwnExpiry]
  noNewCase := fun _ => List.not_mem_nil
  verifications := rfl
  audits := by simp
  outbox := by simp
  trail := ⟨fun id => by simp [Db.sentBack], fun id => by simp [Db.sentBack]⟩

end Effects

/-- The due decisions are among those examined. -/
theorem mem_of_dueDecisions {now : Datetime} {ds due : List RiskDecision}
    (h : dueDecisions now ds = .ok due) : ∀ d ∈ due, d ∈ ds := by
  induction ds generalizing due with
  | nil => cases h; simp
  | cons d rest ih =>
      simp only [dueDecisions] at h
      cases hd : expiryDue d.expiresAt now with
      | error e => rw [hd] at h; cases h
      | ok b =>
          cases hrest : dueDecisions now rest with
          | error e => rw [hd, hrest] at h; cases h
          | ok others =>
              rw [hd, hrest] at h
              cases h
              intro x hx
              cases b with
              | true =>
                  rcases List.mem_cons.1 hx with rfl | hx
                  · exact List.mem_cons_self
                  · exact List.mem_cons_of_mem _ (ih hrest x hx)
              | false => exact List.mem_cons_of_mem _ (ih hrest x hx)

/-! ## Rounds -/

variable [Python]

/-- What one round of the loop stages. -/
def expireRound (env : CallEnv) (now : Datetime) (i : ℕ) (d : RiskDecision)
    (case : RemediationCase) : List Write :=
  [.updateDecision d.id (.ofChange d (expiredDecision d) (env.clock 8))]
  ++ (if case.status = .riskAccepted then
      [.updateCase case.id (.ofChange case (triagedCase case) (env.clock 8)),
        .insertAudit (expiredAudit env i case), .insertOutbox (expiredOutbox env i now d case)]
    else [])

theorem expireRound_onCase (env : CallEnv) (now : Datetime) (i : ℕ) (d : RiskDecision)
    (case : RemediationCase) (id : String) (x : Option RemediationCase) :
    (expireRound env now i d case).foldl (fun x w => w.onCase id x) x
      = if case.status = .riskAccepted ∧ id = case.id then
          x.map (CasePatch.ofChange case (triagedCase case) (env.clock 8)).toRow.apply
        else x := by
  unfold expireRound
  by_cases h : case.status = .riskAccepted <;> simp [h, Write.onCase]

theorem expireRound_onDecision (env : CallEnv) (now : Datetime) (i : ℕ) (d : RiskDecision)
    (case : RemediationCase) (id : String) (x : Option RiskDecision) :
    (expireRound env now i d case).foldl (fun x w => w.onDecision id x) x
      = if id = d.id then
          x.map (DecisionPatch.ofChange d (expiredDecision d) (env.clock 8)).toRow.apply
        else x := by
  unfold expireRound
  by_cases h : case.status = .riskAccepted <;> simp [h, Write.onDecision]

theorem expireRound_audits (env : CallEnv) (now : Datetime) (i : ℕ) (d : RiskDecision)
    (case : RemediationCase) : (expireRound env now i d case).filterMap Write.audit?
      = if case.status = .riskAccepted then [expiredAudit env i case] else [] := by
  unfold expireRound
  split <;> rfl

theorem expireRound_outbox (env : CallEnv) (now : Datetime) (i : ℕ) (d : RiskDecision)
    (case : RemediationCase) : (expireRound env now i d case).filterMap Write.outbox?
      = if case.status = .riskAccepted then [expiredOutbox env i now d case] else [] := by
  unfold expireRound
  split <;> rfl

omit [Python] in
theorem expiredAudit_recorded? (env : CallEnv) (i : ℕ) (case : RemediationCase) (id : String) :
    (expiredAudit env i case).recorded? id
      = if case.id = id then some (some case.status.value, CaseStatus.triage.value) else none := by
  simp [expiredAudit, CallEnv.audit, AuditEvent.recorded?]

theorem expiredOutbox_aboutCase (env : CallEnv) (i : ℕ) (now : Datetime) (d : RiskDecision)
    (case : RemediationCase) (id : String) :
    (expiredOutbox env i now d case).aboutCase id = decide (case.id = id) := by
  simp [expiredOutbox, CallEnv.outbox, OutboxEvent.aboutCase]

section Round

variable {env : CallEnv} {db : Db} {ds : List RiskDecision} {staged : List Write} {d : RiskDecision}

/-- The cases after one more round. -/
theorem ExpirationState.round_cases {c : RemediationCase} (now : Datetime) (i : ℕ)
    (h : ExpirationState env db ds staged) (hc : db.case? d.caseId = some c) (id : String) :
    (staged ++ expireRound env now i d (afterExpiry env ds c)).foldl (fun x w => w.onCase id x)
      (db.case? id) = (db.case? id).map (afterExpiry env (ds ++ [d])) := by
  have hid : c.id = d.caseId := Db.id_of_case? hc
  rw [List.foldl_append, h.cases id, expireRound_onCase, afterExpiry_id, hid]
  cases hx : db.case? id with
  | none => simp
  | some x =>
      have hxid : x.id = id := Db.id_of_case? hx
      simp only [Option.map_some]
      rw [afterExpiry_append, hxid]
      by_cases hdc : id = d.caseId
      · -- the case of the decision
        obtain rfl : c = x := by
          rw [hdc, hc] at hx
          exact Option.some.inj hx
        by_cases hra : (afterExpiry env ds c).status = .riskAccepted
        · rw [if_pos ⟨hra, hdc⟩, if_pos ⟨hra, hdc⟩, afterExpiry_eq_self hra,
            CasePatch.ofChange_apply]
          simp [triagedCase, changed]
        · rw [if_neg fun hn => hra hn.1, if_neg fun hn => hra hn.1]
      · rw [if_neg fun hn => hdc hn.2, if_neg fun hn => hdc hn.2]

/-- The decisions after one more round. -/
theorem ExpirationState.round_decisions (case : RemediationCase) (now : Datetime) (i : ℕ)
    (h : ExpirationState env db ds staged) (hd : db.decision? d.id = some d)
    (happroved : d.status = .approved) (id : String) :
    (staged ++ expireRound env now i d case).foldl (fun x w => w.onDecision id x)
      (db.decision? id) = (db.decision? id).map (afterOwnExpiry env (ds ++ [d])) := by
  rw [List.foldl_append, h.decisions id, expireRound_onDecision]
  cases hx : db.decision? id with
  | none => simp
  | some x =>
      have hxid : x.id = id := Db.id_of_decision? hx
      simp only [Option.map_some]
      rw [afterOwnExpiry_append, hxid]
      by_cases hdd : id = d.id
      · obtain rfl : d = x := by
          rw [hdd, hd] at hx
          exact Option.some.inj hx
        rw [if_pos hdd, if_pos hdd]
        unfold afterOwnExpiry
        split <;>
          simp [DecisionPatch.ofChange, DecisionPatch.toRow, changed, expiredDecision, happroved]
      · rw [if_neg hdd, if_neg hdd]

omit [Python] in
/-- One more decision sends back its case, unless that has gone back before. -/
theorem Db.sentBack_append (env : CallEnv) {c : RemediationCase} (hc : db.case? d.caseId = some c) (id : String) :
    db.sentBack (ds ++ [d]) id = (db.sentBack ds id ||
      decide (id = d.caseId ∧ (afterExpiry env ds c).status = .riskAccepted)) := by
  unfold Db.sentBack
  simp only [afterExpiry_accepted]
  by_cases hdc : id = d.caseId
  · subst hdc
    have hid : c.id = d.caseId := Db.id_of_case? hc
    rw [hc]
    by_cases hds : ∃ e ∈ ds, e.caseId = c.id
    · simp [hds]
    · rw [hid] at hds
      simp [hid, hds]
  · cases hx : db.case? id with
    | none => simp [hdc]
    | some x =>
        have hxid : x.id = id := Db.id_of_case? hx
        have hne : d.caseId ≠ x.id := fun h => hdc (hxid.symm.trans h.symm)
        simp [hdc, hne, or_and_right, exists_or]

omit [Python] in
theorem Db.accepted_of_sentBack {c : RemediationCase} (hc : db.case? d.caseId = some c)
    (hback : db.sentBack ds d.caseId = true) : (afterExpiry env ds c).status ≠ .riskAccepted := by
  unfold Db.sentBack at hback
  rw [hc, Option.any_some, decide_eq_true_eq] at hback
  rw [ne_eq, afterExpiry_accepted]
  exact fun h => h.2 hback.2

/-- A round leaves its rows. -/
theorem ExpirationState.round_trail {c : RemediationCase} (now : Datetime) (i : ℕ)
    (h : ExpirationState env db ds staged) (hc : db.case? d.caseId = some c) :
    ExpiryTrail db (ds ++ [d])
      ((staged ++ expireRound env now i d (afterExpiry env ds c)).filterMap Write.audit?)
      ((staged ++ expireRound env now i d (afterExpiry env ds c)).filterMap Write.outbox?) := by
  have hid : (afterExpiry env ds c).id = d.caseId := (afterExpiry_id c).trans (Db.id_of_case? hc)
  refine ⟨fun id => ?_, fun id => ?_⟩
  · rw [List.filterMap_append, List.filterMap_append, h.trail.audits,
      Db.sentBack_append env hc, expireRound_audits]
    by_cases hra : (afterExpiry env ds c).status = .riskAccepted
    · by_cases hdc : id = d.caseId
      · subst hdc
        have hback : db.sentBack ds d.caseId = false := by
          by_contra hne
          exact Db.accepted_of_sentBack hc (eq_true_of_ne_false hne) hra
        simp [hra, hback, expiredAudit_recorded?, hid]
      · have hne : (afterExpiry env ds c).id ≠ id := fun heq => hdc (heq.symm.trans hid)
        simp [hra, hdc, expiredAudit_recorded?, hne]
    · simp [hra]
  · rw [List.filterMap_append, List.filter_append, List.length_append, h.trail.outbox,
      Db.sentBack_append env hc, expireRound_outbox]
    by_cases hra : (afterExpiry env ds c).status = .riskAccepted
    · by_cases hdc : id = d.caseId
      · subst hdc
        have hback : db.sentBack ds d.caseId = false := by
          by_contra hne
          exact Db.accepted_of_sentBack hc (eq_true_of_ne_false hne) hra
        simp [hra, hback, expiredOutbox_aboutCase, hid]
      · have hne : (afterExpiry env ds c).id ≠ id := fun heq => hdc (heq.symm.trans hid)
        simp [hra, hdc, expiredOutbox_aboutCase, hne]
    · simp [hra]

/-- One round expires one decision. -/
theorem ExpirationState.round {case : RemediationCase} (now : Datetime) (i : ℕ)
    (h : ExpirationState env db ds staged) (hd : db.decision? d.id = some d)
    (happroved : d.status = .approved)
    (hcase : (db.case? d.caseId).map (afterExpiry env ds) = some case) :
    ExpirationState env db (ds ++ [d]) (staged ++ expireRound env now i d case) := by
  obtain ⟨c, hc, rfl⟩ := Option.map_eq_some_iff.1 hcase
  refine ⟨h.round_cases now i hc, h.round_decisions _ now i hd happroved, ?_, ?_, ?_, ?_,
    h.round_trail now i hc⟩
  · intro x hx
    rcases List.mem_append.1 hx with hx | hx
    · exact h.noNewCase x hx
    · simp only [expireRound] at hx
      split at hx <;> simp at hx
  · rw [List.filterMap_append, h.verifications]
    unfold expireRound
    split <;> rfl
  · intro x hx
    rw [List.filterMap_append] at hx
    rcases List.mem_append.1 hx with hx | hx
    · exact h.audits x hx
    · simp only [expireRound] at hx
      split at hx <;> simp [Write.audit?] at hx
      rw [← hx]; rfl
  · intro x hx
    rw [List.filterMap_append] at hx
    rcases List.mem_append.1 hx with hx | hx
    · exact h.outbox x hx
    · simp only [expireRound] at hx
      split at hx <;> simp [Write.outbox?] at hx
      rw [← hx]; rfl

end Round

/-- The loop, when all reads of the call see the same rows: its invariant is `ExpirationState`. -/
theorem expireLoop_meets {α : Type} {inv : Db → Prop} {C : Contract Db PyError α} (env : CallEnv)
    (now : Datetime) (i : ℕ) (rest ds : List RiskDecision) {f : Unit → Prog α} {reads : List Db}
    {staged : List Write} (hraise : ∀ e, C.onReturn false (.raised e))
    (hrest : ∀ db, (∀ r ∈ reads, r = db) →
      ∀ d ∈ rest, db.decision? d.id = some d ∧ d.status = .approved)
    (hstate : ∀ db, (∀ r ∈ reads, r = db) → ExpirationState env db ds staged)
    (hf : ∀ reads' staged', (∀ r ∈ reads, r ∈ reads') →
      (∀ db, (∀ r ∈ reads', r = db) → ExpirationState env db (ds ++ rest) staged') →
      (f ()).Meets inv C reads' [] staged' false) :
    (expireLoop env now i rest >>= f).Meets inv C reads [] staged false := by
  induction rest generalizing i ds reads staged with
  | nil =>
      refine hf reads staged (fun _ h => h) fun db hdb => ?_
      rw [List.append_nil]
      exact hstate db hdb
  | cons d rest ih =>
      unfold expireLoop getCase
      rw [Program.bind_assoc]
      refine meets_add_bind ?_
      rw [Program.bind_assoc]
      refine meets_lookup_bind (fun _ _ _ => hraise _) fun s case _ hcase => ?_
      -- what one round stages, for a call that reads the same rows throughout
      have hround : ∀ db, (∀ r ∈ s :: reads, r = db) → ExpirationState env db (ds ++ [d])
          (staged ++ expireRound env now i d case) := by
        intro db hdb
        have hreads : ∀ r ∈ reads, r = db := fun r hr => hdb r (List.mem_cons_of_mem _ hr)
        obtain ⟨hd, happroved⟩ := hrest db hreads d List.mem_cons_self
        refine (hstate db hreads).round now i hd happroved ?_
        have hno : ∀ c, Write.insertCase c ∉ staged ++ [Write.updateDecision d.id
            (.ofChange d (expiredDecision d) (env.clock 8))] := by
          intro c hc
          rcases List.mem_append.1 hc with hc | hc
          · exact (hstate db hreads).noNewCase c hc
          · cases List.mem_singleton.1 hc
        rw [hdb s List.mem_cons_self, sessionView_case? hno, List.foldl_append,
          (hstate db hreads).cases] at hcase
        exact hcase
      have hnext : ∀ staged', staged' = staged ++ expireRound env now i d case →
          (expireLoop env now (i + 1) rest >>= f).Meets inv C (s :: reads) [] staged' false := by
        rintro _ rfl
        refine ih (i + 1) (ds ++ [d]) ?_ hround ?_
        · intro db hdb x hx
          exact hrest db (fun r hr => hdb r (List.mem_cons_of_mem _ hr)) x
            (List.mem_cons_of_mem _ hx)
        · intro reads' staged' hsub hstate'
          refine hf reads' staged' (fun r hr => hsub r (List.mem_cons_of_mem _ hr)) ?_
          intro db hdb
          have := hstate' db hdb
          rwa [List.append_assoc] at this
      split
      · next hra =>
          rw [Program.bind_assoc]
          refine meets_add_bind (hnext _ ?_)
          simp [expireRound, hra]
      · next hra =>
          refine hnext _ ?_
          simp [expireRound, hra]

end VulnOpsHub
