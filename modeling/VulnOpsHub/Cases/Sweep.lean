import VulnOpsHub.Cases.Admission
import VulnOpsHub.Cases.Lifecycle
import VulnOpsHub.Cases.Trail
import VulnOpsHub.Lib.Transactions

set_option autoImplicit false

/-! # Expiries and accepted risk

What one run of `process_expirations` does to the cases whose risk is accepted. The loop looks at the
due decisions one by one: each of them, of whatever type, sends an accepted case back, also where
another decision still accepts its risk. -/

namespace VulnOpsHub

/-! ## Decisions at a time -/

/-- The expiry is later than `now`. -/
def Expiry.laterThan (now : Datetime) : Expiry → Bool
  | .datetime dt =>
      match toInstant (ensureAware dt), toInstant (ensureAware now) with
      | .ok expiry, .ok now => now < expiry
      | _, _ => false
  | _ => false

/-- The decision is due at `now`, as the loop tells. -/
def RiskDecision.isDue (now : Datetime) (d : RiskDecision) : Bool :=
  match expiryDue d.expiresAt (ensureAware now) with
  | .ok due => due
  | .error _ => false

/-- The case has an approved decision of a type that accepts its risk, which expires after `now`. -/
def RiskAcceptedAt (db : Db) (now : Datetime) (id : String) : Prop :=
  ∃ d ∈ db.decisions.rows, d.status = .approved ∧ d.caseId = id ∧ d.type ∈ riskTypes ∧
    d.expiresAt.laterThan now

/-- The case has an approved decision, of any type, that is due at `now`. -/
def HasDue (db : Db) (now : Datetime) (id : String) : Prop :=
  ∃ d ∈ db.decisions.rows, d.status = .approved ∧ d.caseId = id ∧ d.isDue now

instance (db : Db) (now : Datetime) (id : String) : Decidable (RiskAcceptedAt db now id) :=
  inferInstanceAs (Decidable (∃ d ∈ db.decisions.rows, _))

instance (db : Db) (now : Datetime) (id : String) : Decidable (HasDue db now id) :=
  inferInstanceAs (Decidable (∃ d ∈ db.decisions.rows, _))

/-- The audit row is about the case `id`. -/
def AuditEvent.aboutCase (id : String) (a : AuditEvent) : Bool :=
  a.subjectType = "case" ∧ a.subjectId = id

/-- A case that goes back to triage, between two databases. -/
def SentBack (db db' : Db) (id : String) : Prop :=
  db.statusOf id = some .riskAccepted ∧ db'.statusOf id = some .triage

/-- The rows about one case, added between two databases. -/
structure OneRowEach (db db' : Db) (id : String) : Prop where
  added : ∃ audits outbox, db'.auditEvents.rows = db.auditEvents.rows ++ audits ∧
    db'.outboxEvents.rows = db.outboxEvents.rows ++ outbox ∧
    (audits.filter (AuditEvent.aboutCase id)).length = 1 ∧
    (outbox.filter (OutboxEvent.aboutCase id)).length = 1

/-- A case is sent back with its version increased by one, one audit row and one event; no other case
    changes. -/
structure SweepChanges (db db' : Db) : Prop where
  moved : ∀ c ∈ db.cases.rows, SentBack db db' c.id →
    (∃ c', db'.case? c.id = some c' ∧ c'.version = c.version + 1) ∧ OneRowEach db db' c.id
  others : ∀ id, ¬ SentBack db db' id → db'.case? id = db.case? id

/-- An accepted case stays accepted where a decision accepts its risk after `now`, and only there. -/
def ExpiryDecides (now : Datetime) (db db' : Db) : Prop :=
  (∀ c ∈ db.cases.rows, c.status = .riskAccepted →
    (db'.statusOf c.id = some .riskAccepted ↔ RiskAcceptedAt db now c.id)) ∧ SweepChanges db db'

/-! ## The due decisions -/

theorem dueDecisions_eq {now : Datetime} {ds due : List RiskDecision}
    (h : dueDecisions (ensureAware now) ds = .ok due) : due = ds.filter (·.isDue now) := by
  induction ds generalizing due with
  | nil => cases h; rfl
  | cons d rest ih =>
      simp only [dueDecisions] at h
      cases hd : expiryDue d.expiresAt (ensureAware now) with
      | error e => rw [hd] at h; cases h
      | ok b =>
          cases hrest : dueDecisions (ensureAware now) rest with
          | error e => rw [hd, hrest] at h; cases h
          | ok others =>
              rw [hd, hrest] at h
              obtain rfl := Except.ok.inj h
              have hdue : d.isDue now = b := by simp [RiskDecision.isDue, hd]
              rw [List.filter_cons, hdue, ih hrest]

theorem mem_dueDecisions {now : Datetime} {ds due : List RiskDecision}
    (h : dueDecisions (ensureAware now) ds = .ok due) (d : RiskDecision) :
    d ∈ due ↔ d ∈ ds ∧ d.isDue now = true := by
  rw [dueDecisions_eq h, List.mem_filter]

/-- The due decisions can be told when every expiry can be read. -/
theorem dueDecisions_isOk_iff {now : Datetime} {ds : List RiskDecision} :
    (∃ due, dueDecisions now ds = .ok due) ↔
      ∀ d ∈ ds, ∃ answer, expiryDue d.expiresAt now = .ok answer := by
  induction ds with
  | nil => exact iff_of_true ⟨[], rfl⟩ (by simp)
  | cons d rest ih =>
      rw [List.forall_mem_cons, ← ih]
      simp only [dueDecisions]
      cases hd : expiryDue d.expiresAt now with
      | error e =>
          refine iff_of_false ?_ ?_
          · rintro ⟨due, h⟩
            cases h
          · rintro ⟨⟨answer, h⟩, -⟩
            cases h
      | ok answer =>
          cases hrest : dueDecisions now rest with
          | error e =>
              refine iff_of_false ?_ ?_
              · rintro ⟨due, h⟩
                cases h
              · rintro ⟨-, due, h⟩
                cases h
          | ok others => exact iff_of_true ⟨_, rfl⟩ ⟨⟨answer, rfl⟩, others, rfl⟩

/-- A decision that is due has an expiry. -/
theorem RiskDecision.expiresAt_of_isDue {now : Datetime} {d : RiskDecision}
    (h : d.isDue now = true) : d.expiresAt ≠ .missing := by
  intro hmissing
  rw [RiskDecision.isDue, hmissing] at h
  cases h

/-! ## The audit rows -/

section Call

variable [Python]

/-- An audit row with both states of a case. -/
def AuditEvent.ofChange (a : AuditEvent) : Prop :=
  a.subjectType = "case" ∧ a.priorState.isSome ∧ a.newState.isSome

/-- The unique keys that `n` rounds draw from their UUIDs, from round `i` on. -/
def expiryKeys (env : CallEnv) (i n : ℕ) : List (KeyColumn × String) :=
  (List.range' i n).flatMap fun j =>
    [(.audit, env.rowId "aud_" 12 (3 * j + 1)), (.outbox, env.rowId "evt_" 12 (3 * j + 2))]

/-- What the rounds for `n` decisions stage, from round `i` on. -/
structure ExpiryRows (env : CallEnv) (i n : ℕ) (ws : List Write) : Prop where
  noNewCase : ∀ c, Write.insertCase c ∉ ws
  audits : ∀ a ∈ ws.filterMap Write.audit?, a.ofChange
  inserts : (ws.flatMap Write.inserts).Sublist (expiryKeys env i n)

omit [Python] in
/-- One round, and then others. -/
theorem ExpiryRows.append {env : CallEnv} {i n : ℕ} {ws vs : List Write}
    (hws : ExpiryRows env i 1 ws) (hvs : ExpiryRows env (i + 1) n vs) :
    ExpiryRows env i (n + 1) (ws ++ vs) where
  noNewCase c hc := (List.mem_append.1 hc).elim (hws.noNewCase c) (hvs.noNewCase c)
  audits a ha := by
    rw [List.filterMap_append] at ha
    exact (List.mem_append.1 ha).elim (hws.audits a) (hvs.audits a)
  inserts := by
    have hsplit : expiryKeys env i (n + 1) = expiryKeys env i 1 ++ expiryKeys env (i + 1) n := by
      simp [expiryKeys, List.range'_succ]
    rw [List.flatMap_append, hsplit]
    exact hws.inserts.append hvs.inserts

omit [Python] in
theorem expiryRows_decision (env : CallEnv) (i : ℕ) (d : RiskDecision) (p : DecisionPatch) :
    ExpiryRows env i 1 [.updateDecision d.id p] where
  noNewCase := by simp
  audits := by simp [Write.audit?]
  inserts := by simp [Write.inserts]

theorem expiryRows_case (env : CallEnv) (i : ℕ) (now : Datetime) (d : RiskDecision)
    (case : RemediationCase) (p : DecisionPatch) (q : CasePatch) :
    ExpiryRows env i 1 [.updateDecision d.id p, .updateCase case.id q,
      .insertAudit (expiredAudit env i case), .insertOutbox (expiredOutbox env i now d case)] where
  noNewCase := by simp
  audits := by
    intro a ha
    obtain rfl : expiredAudit env i case = a := by simpa [Write.audit?] using ha
    exact ⟨rfl, rfl, rfl⟩
  inserts := by
    simp [Write.inserts, expiryKeys, expiredAudit, expiredOutbox, CallEnv.audit, CallEnv.outbox]

omit [Python] in
/-- A case that the session did not add itself is there for it exactly if it is stored. -/
theorem sessionView_case?_isSome {staged : List Write} (h : ∀ c, Write.insertCase c ∉ staged)
    (db : Db) (id : String) :
    ((sessionView [] staged db).case? id).isSome = (db.case? id).isSome := by
  rw [sessionView_case? h]
  generalize db.case? id = x
  induction staged generalizing x with
  | nil => rfl
  | cons w ws ih =>
      rw [List.foldl_cons, ih fun c hc => h c (List.mem_cons_of_mem _ hc)]
      cases w with
      | insertCase c => exact absurd List.mem_cons_self (h c)
      | updateCase key p =>
          simp only [Write.onCase]
          split_ifs
          · rw [Option.isSome_map]
          · rfl
      | _ => rfl

/-- The loop ends at the first decision whose case is missing, with that decision changed. -/
theorem expireLoop_wp {α : Type} {guar : Db → Db → Prop}
    {Q : Outcome PyError α → Session Db → Prop} (env : CallEnv) (now : Datetime) (i : ℕ)
    (ds : List RiskDecision) (f : Unit → Prog α) (db : Db) {staged : List Write}
    (hstaged : ∀ c, Write.insertCase c ∉ staged)
    (hmissing : ∀ d ∈ ds, db.case? d.caseId = none → ∀ e staged', staged' ≠ [] →
      Q (.raised e) ⟨db, [], staged'⟩)
    (hfound : (∀ d ∈ ds, (db.case? d.caseId).isSome = true) → ∀ ws, ExpiryRows env i ds.length ws →
      (f ()).Wp Eq guar Q ⟨db, [], staged ++ ws⟩) :
    (expireLoop env now i ds >>= f).Wp Eq guar Q ⟨db, [], staged⟩ := by
  induction ds generalizing i staged with
  | nil =>
      have hnil : ExpiryRows env i 0 [] := ⟨by simp, by simp, by simp⟩
      have hdone := hfound (by simp) [] hnil
      rwa [List.append_nil] at hdone
  | cons d rest ih =>
      unfold expireLoop getCase
      rw [Program.bind_assoc]
      refine Program.wp_add_bind ?_
      have hno : ∀ c, Write.insertCase c ∉ staged ++ [Write.updateDecision d.id
          (.ofChange d (expiredDecision d) (env.clock 8))] := by
        intro c hc
        simp [hstaged c] at hc
      have hseen := sessionView_case?_isSome hno db d.caseId
      rw [Program.bind_assoc]
      refine Program.wp_lookup_bind (fun t ht hnone => ?_) fun t case ht hcase => ?_
      · obtain rfl := ht
        rw [hnone] at hseen
        refine hmissing d List.mem_cons_self (Option.not_isSome_iff_eq_none.1 ?_) _ _ (by simp)
        rw [← hseen]
        simp
      · obtain rfl := ht
        rw [hcase] at hseen
        have hrest : ∀ e ∈ rest, db.case? e.caseId = none → ∀ x staged', staged' ≠ [] →
            Q (.raised x) ⟨db, [], staged'⟩ :=
          fun e he => hmissing e (List.mem_cons_of_mem _ he)
        by_cases haccepted : case.status = .riskAccepted
        · rw [if_pos haccepted, Program.bind_assoc]
          refine Program.wp_add_bind (ih (i + 1) (fun c hc => ?_) hrest fun hall ws hws => ?_)
          · rcases List.mem_append.1 hc with hc | hc
            · exact hno c hc
            · simp at hc
          · have hrows := (expiryRows_case env i now d case
              (.ofChange d (expiredDecision d) (env.clock 8))
              (.ofChange case (triagedCase case) (env.clock 8))).append hws
            have hdone := hfound (List.forall_mem_cons.2 ⟨hseen.symm, hall⟩) _ hrows
            simpa only [List.append_assoc, List.cons_append, List.nil_append] using hdone
        · rw [if_neg haccepted]
          refine ih (i + 1) hno hrest fun hall ws hws => ?_
          have hrows := (expiryRows_decision env i d
            (.ofChange d (expiredDecision d) (env.clock 8))).append hws
          have hdone := hfound (List.forall_mem_cons.2 ⟨hseen.symm, hall⟩) _ hrows
          simpa only [List.append_assoc] using hdone

/-- A call alone, by the decisions that are due and the rows that its loop stages. -/
theorem processExpirations_wp {guar : Db → Db → Prop} {Q : Outcome PyError ℕ → Session Db → Prop}
    {now : Option Datetime} {env : CallEnv} {db : Db}
    (hunread : ∀ e, dueDecisions (ensureAware (now.getD (Datetime.utc (env.clock 0))))
        (db.decisions.rows.filter fun d => d.status = .approved ∧ d.expiresAt ≠ .missing)
          = .error e → Q (.raised e) (Session.fresh db))
    (hloop : ∀ due, dueDecisions (ensureAware (now.getD (Datetime.utc (env.clock 0))))
        (db.decisions.rows.filter fun d => d.status = .approved ∧ d.expiresAt ≠ .missing) = .ok due →
      (∀ d ∈ due, db.case? d.caseId = none → ∀ e staged, staged ≠ [] →
        Q (.raised e) ⟨db, [], staged⟩) ∧
      ((∀ d ∈ due, (db.case? d.caseId).isSome = true) → ∀ ws, ExpiryRows env 0 due.length ws →
        (Store.flush ws db = none → Q .failed (Session.fresh db)) ∧
        ∀ db', Store.flush ws db = some db' →
          guar db db' ∧ Q (.returned due.length) (Session.fresh db'))) :
    (processExpirations now env).Wp Eq guar Q (Session.fresh db) := by
  unfold processExpirations
  refine Program.wp_select_bind fun t ht => ?_
  obtain rfl := ht
  refine Program.wp_ofExcept_bind hunread fun due hdue => ?_
  obtain ⟨hmissing, hfound⟩ := hloop due hdue
  refine expireLoop_wp env _ 0 due _ db (fun c => List.not_mem_nil) hmissing fun hall ws hws => ?_
  obtain ⟨hfailed, hflush⟩ := hfound hall ws hws
  refine Program.wp_commitAll_bind (fun u hu hnone => ?_) fun u v hu hsome => ?_
  · obtain rfl := hu
    exact hfailed hnone
  · obtain rfl := hu
    exact ⟨(hflush v hsome).1, Program.wp_ret.2 (hflush v hsome).2⟩

/-- The audit rows that a call adds all have both states. -/
theorem processExpirations_audits {now : Option Datetime} {env : CallEnv} {db : Db}
    (hreturned : ((processExpirations now env).run (Session.fresh db)).1.isReturned = true) :
    ∃ audits, (∀ a ∈ audits, a.ofChange) ∧
      ((processExpirations now env).runDb db).auditEvents.rows = db.auditEvents.rows ++ audits := by
  have hwp : (processExpirations now env).Wp Eq (fun _ _ => True) (fun o s =>
      o.isReturned = true → ∃ audits, (∀ a ∈ audits, a.ofChange) ∧
        s.db.auditEvents.rows = db.auditEvents.rows ++ audits) (Session.fresh db) := by
    refine processExpirations_wp (fun e _ h => absurd h Bool.false_ne_true) fun due _ =>
      ⟨fun _ _ _ _ _ _ h => absurd h Bool.false_ne_true, fun _ ws hws =>
        ⟨fun _ h => absurd h Bool.false_ne_true, fun db' hflush => ⟨trivial, fun _ => ?_⟩⟩⟩
    exact ⟨_, hws.audits, (flush_effect hflush).auditEvents⟩
  exact Program.wp_run (fun _ => rfl) hwp hreturned

/-! ## The changes -/

/-- What a call that returns does: `due` are the approved decisions that are due. -/
structure Swept (now : Datetime) (env : CallEnv) (db db' : Db) (due : List RiskDecision)
    (audits : List AuditEvent) (outbox : List OutboxEvent) : Prop where
  mem_due : ∀ d, d ∈ due ↔ d ∈ db.decisions.rows ∧ d.status = .approved ∧ d.isDue now = true
  becomes : db.Becomes db' (fun id => (db.case? id).map (afterExpiry env due))
    (fun id => (db.decision? id).map (afterOwnExpiry env due)) [] audits outbox
  trail : ExpiryTrail db due audits outbox
  ofChange : ∀ a ∈ audits, a.ofChange

theorem processExpirations_swept {now : Option Datetime} {env : CallEnv} {db : Db}
    (hreturned : ((processExpirations now env).run (Session.fresh db)).1.isReturned = true) :
    ∃ due audits outbox, Swept (now.getD (Datetime.utc (env.clock 0))) env db
      ((processExpirations now env).runDb db) due audits outbox := by
  have hran : Program.Ran (expirationContract now env) db
      ((processExpirations now env).run (Session.fresh db)).1 ((processExpirations now env).runDb db) :=
    Program.runDb_of_meets trivial (fun _ _ _ _ _ _ _ _ => trivial)
      (processExpirations_meets (fun _ => True) now env)
  obtain ⟨audits, hchange, haudits⟩ := processExpirations_audits hreturned
  generalize (processExpirations now env).runDb db = db' at hran haudits
  cases hran with
  | quiet h => rw [show _ = false from h] at hreturned; cases hreturned
  | committed h reads ex st db' hreads hguards hcommit hflush =>
      obtain ⟨due, hdue, rfl, hstate⟩ := hcommit db hreads
      have he := flush_effect hflush
      have hb := he.becomes (funext hstate.cases) (funext hstate.decisions)
      rw [show transactionWrites [] st = st from rfl, hstate.verifications] at hb
      refine ⟨due, _, _, ?_, hb, hstate.trail, ?_⟩
      · intro d
        rw [mem_dueDecisions hdue, List.mem_filter, decide_eq_true_eq]
        constructor
        · exact fun h => ⟨h.1.1, h.1.2.1, h.2⟩
        · exact fun h => ⟨⟨h.1, h.2.1, RiskDecision.expiresAt_of_isDue h.2.2⟩, h.2.2⟩
      · have hsame := hb.audits_eq.symm.trans haudits
        rw [List.append_cancel_left hsame]
        exact hchange

omit [Python] in
/-- A row with both states that is about the case records them. -/
theorem AuditEvent.length_aboutCase {audits : List AuditEvent} (h : ∀ a ∈ audits, a.ofChange)
    (id : String) : (audits.filter (AuditEvent.aboutCase id)).length
      = (audits.filterMap (AuditEvent.recorded? id)).length := by
  induction audits with
  | nil => rfl
  | cons a rest ih =>
      have hrest := ih fun x hx => h x (List.mem_cons_of_mem _ hx)
      obtain ⟨htype, hprior, hnew⟩ := h a List.mem_cons_self
      obtain ⟨new, hnew⟩ := Option.isSome_iff_exists.1 hnew
      by_cases hid : a.subjectId = id
      · have habout : a.aboutCase id = true := by simp [AuditEvent.aboutCase, htype, hid]
        have hrecorded : a.recorded? id = some (a.priorState, new) := by
          simp [AuditEvent.recorded?, htype, hid, hprior, hnew]
        simp [List.filter_cons_of_pos habout, List.filterMap_cons_some hrecorded, hrest]
      · have habout : ¬ a.aboutCase id = true := by simp [AuditEvent.aboutCase, hid]
        have hrecorded : a.recorded? id = none := by simp [AuditEvent.recorded?, hid]
        rw [List.filter_cons_of_neg habout, List.filterMap_cons_none hrecorded, hrest]

variable {now : Datetime} {env : CallEnv} {db db' : Db} {due : List RiskDecision}
  {audits : List AuditEvent} {outbox : List OutboxEvent}

omit [Python] in
theorem Swept.sentBack_iff (h : Swept now env db db' due audits outbox) {c : RemediationCase}
    (hc : c ∈ db.cases.rows) : db.sentBack due c.id = true ↔
      c.status = .riskAccepted ∧ HasDue db now c.id := by
  have hfind : db.case? c.id = some c := Table.find?_key_of_mem hc
  unfold Db.sentBack
  rw [hfind, Option.any_some, decide_eq_true_eq]
  refine and_congr_right fun _ => ⟨?_, ?_⟩
  · rintro ⟨d, hd, hcase⟩
    obtain ⟨hmem, happroved, hdue⟩ := (h.mem_due d).1 hd
    exact ⟨d, hmem, happroved, hcase, hdue⟩
  · rintro ⟨d, hmem, happroved, hcase, hdue⟩
    exact ⟨d, (h.mem_due d).2 ⟨hmem, happroved, hdue⟩, hcase⟩

omit [Python] in
/-- The cases sent back are those that the loop has counted. -/
theorem Swept.sentBack_eq (h : Swept now env db db' due audits outbox) (id : String) :
    SentBack db db' id ↔ db.sentBack due id = true := by
  have hstatus := h.becomes.statusOf_sentBack id
  constructor
  · rintro ⟨hbefore, hafter⟩
    by_contra hback
    rw [if_neg hback, hafter, hbefore] at hstatus
    cases hstatus
  · intro hback
    rw [if_pos hback] at hstatus
    exact ⟨Db.statusOf_of_sentBack hback, hstatus⟩

omit [Python] in
theorem Swept.changes (h : Swept now env db db' due audits outbox) : SweepChanges db db' := by
  have hcases : ∀ id, db'.case? id = (db.case? id).map (afterExpiry env due) :=
    congrFun h.becomes.cases_eq
  constructor
  · intro c hc hsent
    have hback := (h.sentBack_eq c.id).1 hsent
    have hfind : db.case? c.id = some c := Table.find?_key_of_mem hc
    refine ⟨⟨afterExpiry env due c, by rw [hcases, hfind]; rfl, ?_⟩, ?_⟩
    · have hif : c.status = .riskAccepted ∧ ∃ d ∈ due, d.caseId = c.id := by
        unfold Db.sentBack at hback
        rwa [hfind, Option.any_some, decide_eq_true_eq] at hback
      rw [afterExpiry, if_pos hif]
      rfl
    · refine ⟨audits, outbox, h.becomes.audits_eq, h.becomes.outbox_eq, ?_, ?_⟩
      · rw [AuditEvent.length_aboutCase h.ofChange, h.trail.audits, if_pos hback]
        rfl
      · rw [h.trail.outbox, if_pos hback]
  · intro id hsent
    rw [h.sentBack_eq] at hsent
    rw [hcases]
    cases hfind : db.case? id with
    | none => rfl
    | some c =>
        unfold Db.sentBack at hsent
        rw [hfind, Option.any_some, decide_eq_true_eq] at hsent
        rw [Option.map_some, afterExpiry, if_neg hsent]

/-- **Expiry and accepted risk.** A call that returns decides the accepted risks just where every
    accepted case has a due decision, of any type, exactly if no decision accepts its risk any
    longer. -/
theorem processExpirations_decides {now : Option Datetime} {env : CallEnv} {db : Db}
    (hreturned : ((processExpirations now env).run (Session.fresh db)).1.isReturned = true) :
    ExpiryDecides (now.getD (Datetime.utc (env.clock 0))) db ((processExpirations now env).runDb db) ↔
      ∀ c ∈ db.cases.rows, c.status = .riskAccepted →
        (HasDue db (now.getD (Datetime.utc (env.clock 0))) c.id ↔
          ¬ RiskAcceptedAt db (now.getD (Datetime.utc (env.clock 0))) c.id) := by
  obtain ⟨due, audits, outbox, hswept⟩ := processExpirations_swept hreturned
  have hstays : ∀ c ∈ db.cases.rows, c.status = .riskAccepted →
      (((processExpirations now env).runDb db).statusOf c.id = some .riskAccepted ↔
        ¬ HasDue db (now.getD (Datetime.utc (env.clock 0))) c.id) := by
    intro c hc hra
    have hback := hswept.sentBack_iff hc
    have hstatus := hswept.becomes.statusOf_sentBack c.id
    have hfind : db.case? c.id = some c := Table.find?_key_of_mem hc
    rw [Db.statusOf_of_case? hfind, hra] at hstatus
    rw [hstatus]
    by_cases hdue : HasDue db (now.getD (Datetime.utc (env.clock 0))) c.id
    · rw [if_pos (hback.2 ⟨hra, hdue⟩)]
      simp [hdue]
    · rw [if_neg fun h => hdue (hback.1 h).2]
      simp [hdue]
  constructor
  · rintro ⟨hdecides, -⟩ c hc hra
    rw [← hdecides c hc hra, hstays c hc hra, not_not]
  · intro hcondition
    refine ⟨fun c hc hra => ?_, hswept.changes⟩
    rw [hstays c hc hra, hcondition c hc hra, not_not]

end Call

/-! ## Samples -/

/-- Call `k`: alice requests a waiver of the sample case until `expiry`. -/
def sampleWaiver (k : ℕ) (expiry : Instant) : Call where
  op := .createRiskDecision
    { caseId := sampleCase
      type := "waiver"
      reason := "reviewed"
      expiresAt := .datetime (Datetime.utc expiry)
      compensatingControls := none
      evidenceIds := .arr [.str "ev-1"]
      requestedBy := "alice"
      approver := none
      approverRole := none
      scope := .null
      actor := sampleActor "alice" }
  env := sampleEnv k

/-- A waiver until second 100; the case is taken back to triage, and waived again until second 300. -/
def sampleWaivedTwice : List Call :=
  [sampleCreate, sampleTransition 1 "triage", sampleWaiver 2 100000000,
    sampleApprove 3 (sampleDecision 2), sampleTransition 4 "triage", sampleWaiver 5 300000000,
    sampleApprove 6 (sampleDecision 5)]

/-- A waiver until second 100. -/
def sampleWaivedOnce : List Call :=
  [sampleCreate, sampleTransition 1 "triage", sampleWaiver 2 100000000,
    sampleApprove 3 (sampleDecision 2)]

/-- Second 200. -/
def sampleNow : Datetime := Datetime.utc 200000000

/-- The sweep at second 200. -/
def sampleSweep : Prog ℕ := @processExpirations asciiPython (some sampleNow) (sampleEnv 7)

/-- The expiry of the first waiver ends the acceptance of the second. -/
theorem acceptance_ended_early :
    @Db.Reached asciiPython (sampleRows sampleWaivedTwice) ∧
      (sampleSweep.run (Session.fresh (sampleRows sampleWaivedTwice))).1.isReturned = true ∧
      ¬ ExpiryDecides sampleNow (sampleRows sampleWaivedTwice)
        (sampleSweep.runDb (sampleRows sampleWaivedTwice)) := by
  refine ⟨⟨.empty, .empty, .empty, _, sampleRows_run sampleWaivedTwice fun _ _ _ => trivial⟩,
    by decide +kernel, fun h => ?_⟩
  have hended : ∃ c ∈ (sampleRows sampleWaivedTwice).cases.rows, c.status = .riskAccepted ∧
      ¬ ((sampleSweep.runDb (sampleRows sampleWaivedTwice)).statusOf c.id = some .riskAccepted ↔
        RiskAcceptedAt (sampleRows sampleWaivedTwice) sampleNow c.id) := by decide +kernel
  obtain ⟨c, hc, hra, hnot⟩ := hended
  exact hnot (h.1 c hc hra)

/-- A single waiver is decided by its expiry. -/
theorem processExpirations_decides_waiver :
    ExpiryDecides sampleNow (sampleRows sampleWaivedOnce)
      (sampleSweep.runDb (sampleRows sampleWaivedOnce)) :=
  (@processExpirations_decides asciiPython (some sampleNow) (sampleEnv 7)
    (sampleRows sampleWaivedOnce) (by decide +kernel)).2 (by decide +kernel)

end VulnOpsHub
