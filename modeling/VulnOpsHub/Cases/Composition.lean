import VulnOpsHub.Cases.Admission
import VulnOpsHub.Cases.Sweep
import Mathlib.Data.Finset.Card

set_option autoImplicit false

/-! # Expiries at two times

A decision that is due stays due. So a run of `process_expirations`, and then a later one, expire
between them what the later one would expire alone, and send back the same cases. -/

namespace VulnOpsHub

/-! ## Times -/

/-- `t1 <= t2`, for times that can be compared. -/
def Datetime.NotLater (t₁ t₂ : Datetime) : Prop :=
  ∃ i₁ i₂, toInstant (ensureAware t₁) = .ok i₁ ∧ toInstant (ensureAware t₂) = .ok i₂ ∧ i₁ ≤ i₂

theorem RiskDecision.isDue_iff {now : Datetime} {d : RiskDecision} : d.isDue now = true ↔
    ∃ dt expiry i, d.expiresAt = .datetime dt ∧ toInstant (ensureAware dt) = .ok expiry ∧
      toInstant (ensureAware now) = .ok i ∧ expiry ≤ i := by
  unfold RiskDecision.isDue expiryDue
  cases d.expiresAt with
  | missing => simp [pure, Except.pure]
  | notDatetime => simp [throw, throwThe, MonadExceptOf.throw]
  | datetime dt =>
      cases hexpiry : toInstant (ensureAware dt) with
      | error e => simp [hexpiry, bind, Except.bind]
      | ok expiry =>
          cases hnow : toInstant (ensureAware now) with
          | error e => simp [hexpiry, bind, Except.bind]
          | ok i => simp [hexpiry, bind, Except.bind, pure, Except.pure]

/-- A decision that is due stays due. -/
theorem RiskDecision.isDue_mono {t₁ t₂ : Datetime} (h : t₁.NotLater t₂) {d : RiskDecision}
    (hdue : d.isDue t₁ = true) : d.isDue t₂ = true := by
  obtain ⟨i₁, i₂, h₁, h₂, hle⟩ := h
  obtain ⟨dt, expiry, i, hdt, hexpiry, hnow, hpast⟩ := isDue_iff.1 hdue
  obtain rfl := Except.ok.inj (h₁.symm.trans hnow)
  exact isDue_iff.2 ⟨dt, expiry, i₂, hdt, hexpiry, h₂, hpast.trans hle⟩

/-! ## What is due -/

/-- The decision is approved, and due. -/
def RiskDecision.Expiring (now : Datetime) (d : RiskDecision) : Prop :=
  d.status = .approved ∧ d.isDue now = true

instance (now : Datetime) (d : RiskDecision) : Decidable (d.Expiring now) :=
  inferInstanceAs (Decidable (d.status = .approved ∧ d.isDue now = true))

/-- The ids of the approved decisions that are due. -/
def Db.dueIds (db : Db) (now : Datetime) : Finset String :=
  ((db.decisions.rows.filter fun d => d.Expiring now).map RiskDecision.id).toFinset

theorem Db.mem_dueIds {db : Db} {now : Datetime} {id : String} :
    id ∈ db.dueIds now ↔ ∃ d, db.decision? id = some d ∧ d.Expiring now := by
  simp only [Db.dueIds, List.mem_toFinset, List.mem_map, List.mem_filter, decide_eq_true_eq,
    Db.decision?, Table.find?_eq_some]
  exact ⟨fun ⟨d, ⟨hmem, hdue⟩, hid⟩ => ⟨d, ⟨hmem, hid⟩, hdue⟩,
    fun ⟨d, ⟨hmem, hid⟩, hdue⟩ => ⟨d, ⟨hmem, hdue⟩, hid⟩⟩

theorem Db.card_dueIds (db : Db) (now : Datetime) :
    (db.dueIds now).card = (db.decisions.rows.filter fun d => d.Expiring now).length := by
  rw [Db.dueIds, List.toFinset_card_of_nodup, List.length_map]
  exact db.decisions.nodup.sublist ((List.filter_sublist).map _)

/-! ## One run -/

section Run

variable {t₁ t₂ now : Datetime} {env : CallEnv} {db db' : Db} {due : List RiskDecision}
  {audits : List AuditEvent} {outbox : List OutboxEvent}

/-- The status of the decision stored under `id`. -/
def Db.decisionStatus (db : Db) (id : String) : Option DecisionStatus :=
  (db.decision? id).map (·.status)

/-- The status and the version of the case stored under `id`. -/
def Db.caseState (db : Db) (id : String) : Option (CaseStatus × ℤ) :=
  (db.case? id).map fun c => (c.status, c.version)

theorem Swept.mem_ids (h : Swept now env db db' due audits outbox) {id : String} :
    (∃ e ∈ due, e.id = id) ↔ id ∈ db.dueIds now := by
  rw [Db.mem_dueIds]
  constructor
  · rintro ⟨e, he, rfl⟩
    obtain ⟨hmem, hdue⟩ := (h.mem_due e).1 he
    exact ⟨e, Table.find?_key_of_mem hmem, hdue⟩
  · rintro ⟨e, hfind, hdue⟩
    exact ⟨e, (h.mem_due e).2 ⟨Table.mem_of_find? hfind, hdue⟩, Db.id_of_decision? hfind⟩

/-- A decision after the run: expired if it was due, and else as it was. -/
theorem Swept.decision? (h : Swept now env db db' due audits outbox) (id : String) :
    db'.decision? id = (db.decision? id).map fun d =>
      if id ∈ db.dueIds now then { expiredDecision d with updatedAt := env.clock 8 } else d := by
  rw [congrFun h.becomes.decisions_eq id]
  refine Option.map_congr fun d hd => ?_
  have hid : d.id = id := Db.id_of_decision? hd
  simp only [afterOwnExpiry, hid, h.mem_ids]

theorem Swept.decisionStatus (h : Swept now env db db' due audits outbox) (id : String) :
    db'.decisionStatus id = if id ∈ db.dueIds now then some .expired else db.decisionStatus id := by
  rw [Db.decisionStatus, Db.decisionStatus, h.decision?]
  split_ifs with hdue
  · obtain ⟨d, hd, -⟩ := Db.mem_dueIds.1 hdue
    rw [hd]
    rfl
  · simp

/-- After a run, what becomes due later is what would be due by then, less what has expired. -/
theorem Swept.dueIds (h : Swept t₁ env db db' due audits outbox) :
    db'.dueIds t₂ = db.dueIds t₂ \ db.dueIds t₁ := by
  ext id
  rw [Finset.mem_sdiff, Db.mem_dueIds, Db.mem_dueIds, h.decision?]
  by_cases hdue : id ∈ db.dueIds t₁
  · simp only [hdue, if_true, not_true_eq_false, and_false, iff_false]
    rintro ⟨d, hd, hexpiring⟩
    obtain ⟨d₀, -, rfl⟩ := Option.map_eq_some_iff.1 hd
    exact absurd hexpiring.1 (by simp [expiredDecision])
  · simp [hdue]

theorem hasDue_iff {id : String} : HasDue db now id ↔
    ∃ k ∈ db.dueIds now, ∃ d, db.decision? k = some d ∧ d.caseId = id := by
  constructor
  · rintro ⟨d, hmem, happroved, hcase, hdue⟩
    have hfind : db.decision? d.id = some d := Table.find?_key_of_mem hmem
    exact ⟨d.id, Db.mem_dueIds.2 ⟨d, hfind, happroved, hdue⟩, d, hfind, hcase⟩
  · rintro ⟨k, hk, d, hd, hcase⟩
    obtain ⟨d', hd', happroved, hdue⟩ := Db.mem_dueIds.1 hk
    obtain rfl := Option.some.inj (hd.symm.trans hd')
    exact ⟨d, Table.mem_of_find? hd, happroved, hcase, hdue⟩

/-- A case has a decision due at the later time if it had one at the earlier, or has one now. -/
theorem Swept.hasDue (h : Swept t₁ env db db' due audits outbox) (hle : t₁.NotLater t₂)
    (id : String) : HasDue db t₂ id ↔ HasDue db t₁ id ∨ HasDue db' t₂ id := by
  simp only [hasDue_iff, h.dueIds, Finset.mem_sdiff]
  have hmono : ∀ k ∈ db.dueIds t₁, k ∈ db.dueIds t₂ := by
    intro k hk
    obtain ⟨d, hd, happroved, hdue⟩ := Db.mem_dueIds.1 hk
    exact Db.mem_dueIds.2 ⟨d, hd, happroved, RiskDecision.isDue_mono hle hdue⟩
  constructor
  · rintro ⟨k, hk, d, hd, hcase⟩
    by_cases hearly : k ∈ db.dueIds t₁
    · exact Or.inl ⟨k, hearly, d, hd, hcase⟩
    · refine Or.inr ⟨k, ⟨hk, hearly⟩, d, ?_, hcase⟩
      rw [h.decision?, hd]
      simp [hearly]
  · rintro (⟨k, hk, d, hd, hcase⟩ | ⟨k, ⟨hk, hearly⟩, d, hd, hcase⟩)
    · exact ⟨k, hmono k hk, d, hd, hcase⟩
    · rw [h.decision?] at hd
      simp only [hearly, if_false, Option.map_id'] at hd
      exact ⟨k, hk, d, hd, hcase⟩

/-- A case after the run: back in triage if its risk was accepted and a decision about it was due. -/
theorem Swept.caseState (h : Swept now env db db' due audits outbox) (id : String) :
    db'.caseState id = (db.caseState id).map fun state =>
      if state.1 = .riskAccepted ∧ HasDue db now id then (.triage, state.2 + 1) else state := by
  rw [Db.caseState, Db.caseState, congrFun h.becomes.cases_eq id, Option.map_map, Option.map_map]
  refine Option.map_congr fun c hc => ?_
  have hid : c.id = id := Db.id_of_case? hc
  have hdue : (∃ d ∈ due, d.caseId = c.id) ↔ HasDue db now id := by
    rw [hid]
    constructor
    · rintro ⟨d, hd, hcase⟩
      obtain ⟨hmem, happroved, hdue⟩ := (h.mem_due d).1 hd
      exact ⟨d, hmem, happroved, hcase, hdue⟩
    · rintro ⟨d, hmem, happroved, hcase, hdue⟩
      exact ⟨d, (h.mem_due d).2 ⟨hmem, happroved, hdue⟩, hcase⟩
  simp only [Function.comp_apply, afterExpiry, hdue]
  split_ifs <;> rfl

/-! ## Two runs -/

/-- The decisions have the same statuses, and the cases the same statuses and versions. -/
def SameStatuses (db db' : Db) : Prop :=
  (∀ id, db'.decisionStatus id = db.decisionStatus id) ∧ ∀ id, db'.caseState id = db.caseState id

theorem Db.dueIds_subset (h : t₁.NotLater t₂) (db : Db) : db.dueIds t₁ ⊆ db.dueIds t₂ := by
  intro k hk
  obtain ⟨d, hd, happroved, hdue⟩ := Db.mem_dueIds.1 hk
  exact Db.mem_dueIds.2 ⟨d, hd, happroved, RiskDecision.isDue_mono h hdue⟩

/-- A run and then a later one leave what the later one leaves alone. -/
theorem Swept.compose {env₁ env₂ : CallEnv} {db₁ db₂ : Db} {due₁ due₂ : List RiskDecision}
    {audits₁ audits₂ : List AuditEvent} {outbox₁ outbox₂ : List OutboxEvent}
    (h₁ : Swept t₁ env₁ db db₁ due₁ audits₁ outbox₁)
    (h₂ : Swept t₂ env₂ db₁ db₂ due₂ audits₂ outbox₂)
    (h : Swept t₂ env db db' due audits outbox) (hle : t₁.NotLater t₂) : SameStatuses db' db₂ := by
  constructor
  · intro id
    rw [h₂.decisionStatus, h₁.decisionStatus, h.decisionStatus, h₁.dueIds]
    by_cases hlate : id ∈ db.dueIds t₂
    · by_cases hearly : id ∈ db.dueIds t₁ <;> simp [hlate, hearly]
    · have hearly : id ∉ db.dueIds t₁ := fun hmem => hlate (Db.dueIds_subset hle db hmem)
      simp [hlate, hearly]
  · intro id
    rw [h₂.caseState, h₁.caseState, h.caseState, Option.map_map]
    refine Option.map_congr fun state _ => ?_
    have hdue := h₁.hasDue hle id
    by_cases haccepted : state.1 = .riskAccepted
    · by_cases hearly : HasDue db t₁ id
      · simp [haccepted, hdue, hearly]
      · simp [haccepted, hdue, hearly]
    · simp [haccepted]

/-- A second run at the same time changes nothing. -/
theorem Swept.again {env₂ : CallEnv} {db₂ : Db} {due₂ : List RiskDecision}
    {audits₂ : List AuditEvent} {outbox₂ : List OutboxEvent}
    (h : Swept now env db db' due audits outbox)
    (h₂ : Swept now env₂ db' db₂ due₂ audits₂ outbox₂) :
    db'.dueIds now = ∅ ∧ SameStatuses db' db₂ := by
  have hnone : db'.dueIds now = ∅ := by rw [h.dueIds, Finset.sdiff_self]
  refine ⟨hnone, fun id => ?_, fun id => ?_⟩
  · rw [h₂.decisionStatus, hnone, if_neg (Finset.notMem_empty id)]
  · rw [h₂.caseState]
    have hdue : ¬ HasDue db' now id := by simp [hasDue_iff, hnone]
    simp [hdue]

end Run

/-! ## Runs that return -/

/-- Every decision belongs to a case, as the foreign key has it. -/
def Db.CasesExist (db : Db) : Prop := ∀ d ∈ db.decisions.rows, (db.case? d.caseId).isSome = true

/-- The expiries of the approved decisions can be read. -/
def Db.Readable (db : Db) : Prop :=
  ∀ d ∈ db.decisions.rows, d.status = .approved → d.expiresAt ≠ .missing →
    ∃ dt i, d.expiresAt = .datetime dt ∧ toInstant (ensureAware dt) = .ok i

/-- The keys of `n` rounds are distinct, and not in use. -/
def Db.Unused (db : Db) (env : CallEnv) (n : ℕ) : Prop :=
  (expiryKeys env 0 n).Nodup ∧ ∀ k ∈ expiryKeys env 0 n, ¬ db.Holds k

theorem expiryDue_isOk_iff {expiresAt : Expiry} {now : Datetime} {i : Instant}
    (hnow : toInstant (ensureAware now) = .ok i) (hsome : expiresAt ≠ .missing) :
    (∃ answer, expiryDue expiresAt (ensureAware now) = .ok answer) ↔
      ∃ dt j, expiresAt = .datetime dt ∧ toInstant (ensureAware dt) = .ok j := by
  cases expiresAt with
  | missing => exact absurd rfl hsome
  | notDatetime => simp [expiryDue, throw, throwThe, MonadExceptOf.throw]
  | datetime dt =>
      cases hdt : toInstant (ensureAware dt) with
      | error e => simp [expiryDue, hdt, bind, Except.bind]
      | ok j => simp [expiryDue, hdt, hnow, bind, Except.bind, pure, Except.pure]

theorem dueDecisions_isOk_iff_readable {now : Datetime} {i : Instant}
    (hnow : toInstant (ensureAware now) = .ok i) (db : Db) :
    (∃ due, dueDecisions (ensureAware now) (db.decisions.rows.filter
      fun d => d.status = .approved ∧ d.expiresAt ≠ .missing) = .ok due) ↔ db.Readable := by
  rw [dueDecisions_isOk_iff]
  simp only [List.mem_filter, decide_eq_true_eq, and_imp, Db.Readable]
  refine forall_congr' fun d => imp_congr_right fun _ => imp_congr_right fun _ =>
    forall_congr' fun hsome => expiryDue_isOk_iff hnow hsome

theorem expiryKeys_sublist {env : CallEnv} {m n : ℕ} (h : m ≤ n) :
    (expiryKeys env 0 m).Sublist (expiryKeys env 0 n) := by
  obtain ⟨k, rfl⟩ := Nat.exists_eq_add_of_le h
  rw [expiryKeys, expiryKeys, ← List.range'_append_1, List.flatMap_append]
  exact List.sublist_append_left _ _

section Call

variable [Python]

/-- `process_expirations(now)` alone, in a fresh session. -/
def sweepAt (now : Datetime) (env : CallEnv) (db : Db) : Outcome PyError ℕ × Session Db :=
  (processExpirations (some now) env).run (Session.fresh db)

theorem sweepAt_swept {now : Datetime} {env : CallEnv} {db : Db}
    (h : (sweepAt now env db).1.isReturned = true) :
    ∃ due audits outbox, Swept now env db (sweepAt now env db).2.db due audits outbox :=
  processExpirations_swept h

omit [Python] in
/-- The due decisions, when they can be told. -/
theorem length_due {now : Datetime} {db : Db} {due : List RiskDecision}
    (h : dueDecisions (ensureAware now) (db.decisions.rows.filter
      fun d => d.status = .approved ∧ d.expiresAt ≠ .missing) = .ok due) :
    due.length = (db.dueIds now).card := by
  rw [db.card_dueIds, dueDecisions_eq h, List.filter_filter]
  congr 1
  refine List.filter_congr fun d _ => ?_
  rw [Bool.eq_iff_iff, Bool.and_eq_true, decide_eq_true_iff, decide_eq_true_iff]
  constructor
  · exact fun hall => ⟨hall.2.1, hall.1⟩
  · exact fun hall => ⟨hall.2, hall.1, RiskDecision.expiresAt_of_isDue hall.2⟩

/-- The count that a run returns. -/
theorem sweepAt_count {now : Datetime} {env : CallEnv} {db : Db} {n : ℕ}
    (h : (sweepAt now env db).1 = .returned n) : n = (db.dueIds now).card := by
  have hwp : (processExpirations (some now) env).Wp Eq (fun _ _ => True)
      (fun o _ => ∀ n, o = .returned n → n = (db.dueIds now).card) (Session.fresh db) := by
    refine processExpirations_wp (fun e _ n hn => (nomatch hn)) fun due hdue =>
      ⟨fun _ _ _ _ _ _ n hn => (nomatch hn), fun _ ws _ => ⟨fun _ n hn => (nomatch hn),
        fun db' _ => ⟨trivial, fun n hn => ?_⟩⟩⟩
    obtain rfl := Outcome.returned.inj hn
    exact length_due hdue
  exact Program.wp_run (fun _ => rfl) hwp n h

/-- Where every expiry can be read, and no identifier is taken, a run goes through. -/
theorem sweepAt_returns {now : Datetime} {env : CallEnv} {db : Db} {i : Instant} {n : ℕ}
    (hnow : toInstant (ensureAware now) = .ok i) (hread : db.Readable) (hcases : db.CasesExist)
    (hcount : (db.dueIds now).card ≤ n) (hunused : db.Unused env n) :
    (sweepAt now env db).1.isReturned = true ∧
      ∀ k, (sweepAt now env db).2.db.Holds k → db.Holds k ∨ k ∈ expiryKeys env 0 n := by
  have hwp : (processExpirations (some now) env).Wp Eq (fun _ _ => True)
      (fun o s => o.isReturned = true ∧ ∀ k, s.db.Holds k → db.Holds k ∨ k ∈ expiryKeys env 0 n)
      (Session.fresh db) := by
    obtain ⟨due, hdue⟩ := (dueDecisions_isOk_iff_readable hnow db).2 hread
    refine processExpirations_wp (fun e he => ?_) fun found hfound =>
      ⟨fun d hd hnone => ?_, fun _ ws hws => ?_⟩
    · exact absurd (he.symm.trans hdue) (by simp)
    · have hmem := ((mem_dueDecisions hfound d).1 hd).1
      have hsome := hcases d (List.mem_of_mem_filter hmem)
      rw [hnone] at hsome
      cases hsome
    · have hkeys : (ws.flatMap Write.inserts).Sublist (expiryKeys env 0 n) :=
        hws.inserts.trans (expiryKeys_sublist ((length_due hfound).le.trans hcount))
      have haccepted := (flush_isSome_iff ws db).2
        ⟨hunused.1.sublist hkeys, fun k hk => hunused.2 k (hkeys.subset hk)⟩
      refine ⟨fun hnone => ?_, fun db' hflush => ⟨trivial, rfl, fun k hk => ?_⟩⟩
      · rw [hnone] at haccepted
        cases haccepted
      · exact ((holds_flush hflush k).1 hk).imp_right fun hin => hkeys.subset hin
  exact Program.wp_run (fun _ => rfl) hwp

/-- If an expiry cannot be read, a run raises, and changes nothing. -/
theorem sweepAt_unreadable {now : Datetime} {db : Db} {i : Instant}
    (hnow : toInstant (ensureAware now) = .ok i) (hread : ¬ db.Readable) (env : CallEnv) :
    (sweepAt now env db).1.isReturned = false ∧ (sweepAt now env db).2.db = db := by
  have hwp : (processExpirations (some now) env).Wp Eq (fun _ _ => True)
      (fun o s => o.isReturned = false ∧ s.db = db) (Session.fresh db) := by
    refine processExpirations_wp (fun e _ => ⟨rfl, rfl⟩) fun due hdue => ?_
    exact absurd ((dueDecisions_isOk_iff_readable hnow db).1 ⟨due, hdue⟩) hread
  exact Program.wp_run (fun _ => rfl) hwp

/-! ## Results -/

omit [Python] in
/-- A run keeps the cases of decisions. -/
theorem Swept.casesExist {now : Datetime} {env : CallEnv} {db db' : Db} {due : List RiskDecision}
    {audits : List AuditEvent} {outbox : List OutboxEvent}
    (h : Swept now env db db' due audits outbox) (hcases : db.CasesExist) : db'.CasesExist := by
  intro d hd
  have hfind : db'.decision? d.id = some d := Table.find?_key_of_mem hd
  rw [h.decision?] at hfind
  obtain ⟨d₀, hd₀, heq⟩ := Option.map_eq_some_iff.1 hfind
  have hcase : d.caseId = d₀.caseId := by
    rw [← heq]
    split_ifs <;> rfl
  rw [congrFun h.becomes.cases_eq, Option.isSome_map, hcase]
  exact hcases d₀ (Table.mem_of_find? hd₀)

omit [Python] in
/-- What is left to expire can be read as before. -/
theorem Swept.readable {now : Datetime} {env : CallEnv} {db db' : Db} {due : List RiskDecision}
    {audits : List AuditEvent} {outbox : List OutboxEvent}
    (h : Swept now env db db' due audits outbox) (hread : db.Readable) : db'.Readable := by
  intro d hd happroved hsome
  have hfind : db'.decision? d.id = some d := Table.find?_key_of_mem hd
  rw [h.decision?] at hfind
  obtain ⟨d₀, hd₀, heq⟩ := Option.map_eq_some_iff.1 hfind
  by_cases hdue : d.id ∈ db.dueIds now
  · rw [if_pos hdue] at heq
    rw [← heq] at happroved
    cases happroved
  · rw [if_neg hdue] at heq
    subst heq
    exact hread d₀ (Table.mem_of_find? hd₀) happroved hsome

/-- **Expiries compose**: a run and a later one return together the count that the later one would
    return alone, and leave the same statuses and versions; a second run at the same time does
    nothing. Both go through where the one does, and neither changes anything where an expiry cannot
    be read. -/
theorem sweepAt_compose {t₁ t₂ : Datetime} (hle : t₁.NotLater t₂) (env₁ env₂ env : CallEnv)
    (db : Db) :
    (∀ n₁ n₂ n, (sweepAt t₁ env₁ db).1 = .returned n₁ →
      (sweepAt t₂ env₂ (sweepAt t₁ env₁ db).2.db).1 = .returned n₂ →
      (sweepAt t₂ env db).1 = .returned n →
        n₁ + n₂ = n ∧ SameStatuses (sweepAt t₂ env db).2.db
          (sweepAt t₂ env₂ (sweepAt t₁ env₁ db).2.db).2.db) ∧
    (∀ n₁ n₂, (sweepAt t₁ env₁ db).1 = .returned n₁ →
      (sweepAt t₁ env₂ (sweepAt t₁ env₁ db).2.db).1 = .returned n₂ →
        n₂ = 0 ∧ SameStatuses (sweepAt t₁ env₁ db).2.db
          (sweepAt t₁ env₂ (sweepAt t₁ env₁ db).2.db).2.db) ∧
    (db.CasesExist → ∀ n, (db.dueIds t₂).card ≤ n → db.Unused env₁ n → db.Unused env₂ n →
      db.Unused env n → (∀ k ∈ expiryKeys env₂ 0 n, k ∉ expiryKeys env₁ 0 n) →
        (db.Readable ∧ (sweepAt t₁ env₁ db).1.isReturned = true ∧
          (sweepAt t₂ env₂ (sweepAt t₁ env₁ db).2.db).1.isReturned = true ∧
          (sweepAt t₂ env db).1.isReturned = true) ∨
        (¬ db.Readable ∧ (sweepAt t₁ env₁ db).1.isReturned = false ∧
          (sweepAt t₂ env₂ (sweepAt t₁ env₁ db).2.db).1.isReturned = false ∧
          (sweepAt t₂ env db).1.isReturned = false ∧ (sweepAt t₂ env db).2.db = db ∧
          (sweepAt t₂ env₂ (sweepAt t₁ env₁ db).2.db).2.db = db)) := by
  refine ⟨fun n₁ n₂ n h₁ h₂ h => ?_, fun n₁ n₂ h₁ h₂ => ?_,
    fun hcases n hcount hun₁ hun₂ hun hnew => ?_⟩
  · obtain ⟨due₁, audits₁, outbox₁, hs₁⟩ := sweepAt_swept (by rw [h₁]; rfl)
    obtain ⟨due₂, audits₂, outbox₂, hs₂⟩ := sweepAt_swept (by rw [h₂]; rfl)
    obtain ⟨due, audits, outbox, hs⟩ := sweepAt_swept (by rw [h]; rfl)
    refine ⟨?_, hs₁.compose hs₂ hs hle⟩
    rw [sweepAt_count h₁, sweepAt_count h₂, sweepAt_count h, hs₁.dueIds]
    have hsplit := Finset.card_sdiff_add_card_eq_card (Db.dueIds_subset hle db)
    omega
  · obtain ⟨due₁, audits₁, outbox₁, hs₁⟩ := sweepAt_swept (by rw [h₁]; rfl)
    obtain ⟨due₂, audits₂, outbox₂, hs₂⟩ := sweepAt_swept (by rw [h₂]; rfl)
    obtain ⟨hnone, hsame⟩ := hs₁.again hs₂
    refine ⟨?_, hsame⟩
    rw [sweepAt_count h₂, hnone, Finset.card_empty]
  · obtain ⟨i₁, i₂, hi₁, hi₂, -⟩ := id hle
    by_cases hread : db.Readable
    · have hearly := (Finset.card_le_card (Db.dueIds_subset hle db)).trans hcount
      obtain ⟨h₁, hkeys⟩ := sweepAt_returns hi₁ hread hcases hearly hun₁
      obtain ⟨due₁, audits₁, outbox₁, hs₁⟩ := sweepAt_swept h₁
      have hrest : ((sweepAt t₁ env₁ db).2.db.dueIds t₂).card ≤ n := by
        rw [hs₁.dueIds]
        exact (Finset.card_le_card Finset.sdiff_subset).trans hcount
      have hunused : (sweepAt t₁ env₁ db).2.db.Unused env₂ n := by
        refine ⟨hun₂.1, fun k hk hheld => ?_⟩
        rcases hkeys k hheld with hold | hfirst
        · exact hun₂.2 k hk hold
        · exact hnew k hk hfirst
      exact Or.inl ⟨hread, h₁, (sweepAt_returns hi₂ (hs₁.readable hread) (hs₁.casesExist hcases)
        hrest hunused).1, (sweepAt_returns hi₂ hread hcases hcount hun).1⟩
    · obtain ⟨h₁, hdb₁⟩ := sweepAt_unreadable hi₁ hread env₁
      rw [hdb₁]
      obtain ⟨h₂, hdb₂⟩ := sweepAt_unreadable hi₂ hread env₂
      obtain ⟨h, hdb⟩ := sweepAt_unreadable hi₂ hread env
      exact Or.inr ⟨hread, h₁, h₂, h, hdb, hdb₂⟩

end Call

/-- The two waivers of the sample case expire one by one, or together. -/
theorem sweepAt_compose_waivers :
    SameStatuses
      (@sweepAt asciiPython (Datetime.utc 400000000) (sampleEnv 7)
        (sampleRows sampleWaivedTwice)).2.db
      (@sweepAt asciiPython (Datetime.utc 400000000) (sampleEnv 9)
        (@sweepAt asciiPython sampleNow (sampleEnv 8) (sampleRows sampleWaivedTwice)).2.db).2.db :=
  ((@sweepAt_compose asciiPython sampleNow (Datetime.utc 400000000)
    ⟨200000000, 400000000, rfl, rfl, by decide⟩ (sampleEnv 8) (sampleEnv 9) (sampleEnv 7)
    (sampleRows sampleWaivedTwice)).1 1 1 2 (by decide +kernel) (by decide +kernel)
    (by decide +kernel)).2

end VulnOpsHub
