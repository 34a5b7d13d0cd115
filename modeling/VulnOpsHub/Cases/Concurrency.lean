import VulnOpsHub.Lib.Interleaving
import VulnOpsHub.Cases.Runs

set_option autoImplicit false

/-! # Racing writers of a case

Calls on one case, each in its own session, interleaved in any order. The operations read the case,
check its status, and write at commit; only a `transition` with an expected version repeats the
version in the predicate of its `UPDATE`. What a commit does to a case is described once
(`CaseChange`), and with it when the writers of a case do not lose each other's updates. -/

namespace VulnOpsHub

/-- A commit of a call of the case service. -/
abbrev CaseCommit := CommitRecord Db Call

/-- The cases a commit writes. -/
def CaseCommit.caseIds (r : CaseCommit) : List String :=
  ((transactionWrites r.executed r.staged).flatMap (Store.touches Db)).filterMap fun
    | .case id => some id
    | .decision _ => none

theorem CaseCommit.mem_caseIds {r : CaseCommit} {id : String} :
    id ∈ CaseCommit.caseIds r ↔ r.Writes (.case id) := by
  unfold CaseCommit.caseIds CommitRecord.Writes
  rw [List.mem_filterMap]
  constructor
  · rintro ⟨ref, href, hid⟩
    obtain ⟨w, hw, hmem⟩ := List.mem_flatMap.1 href
    cases ref with
    | case cid =>
        cases hid
        exact ⟨w, hw, hmem⟩
    | decision did => cases hid
  · rintro ⟨w, hw, hmem⟩
    exact ⟨.case id, List.mem_flatMap.2 ⟨w, hw, hmem⟩, rfl⟩

/-! ## Versions -/

/-- For the case, `t` is as far as `s` or ahead: its version is no smaller, and the same version is
    the same row. -/
def Ahead (id : String) (s t : Db) : Prop :=
  ∀ c, s.case? id = some c →
    ∃ c', t.case? id = some c' ∧ c.version ≤ c'.version ∧ (c'.version = c.version → c' = c)

theorem Ahead.refl (id : String) (s : Db) : Ahead id s s :=
  fun c hc => ⟨c, hc, le_refl _, fun _ => rfl⟩

theorem Ahead.trans {id : String} {s t u : Db} (h₁ : Ahead id s t) (h₂ : Ahead id t u) :
    Ahead id s u := by
  intro c hc
  obtain ⟨c', hc', hle, heq⟩ := h₁ c hc
  obtain ⟨c'', hc'', hle', heq'⟩ := h₂ c' hc'
  refine ⟨c'', hc'', by omega, fun hv => ?_⟩
  -- equal ends pinch the version in between
  have hmid : c' = c := heq (by omega)
  rw [heq' (by omega), hmid]

theorem Ahead.of_eq {id : String} {s t : Db} (h : s.case? id = t.case? id) : Ahead id s t :=
  fun c hc => ⟨c, h ▸ hc, le_refl _, fun _ => rfl⟩

/-- Rows ahead at the same version show the same case. -/
theorem Ahead.same {id : String} {s t : Db} {c c' : RemediationCase} (h : Ahead id s t)
    (hc : s.case? id = some c) (hc' : t.case? id = some c') (hv : c.version = c'.version) :
    c' = c := by
  obtain ⟨d, hd, -, heq⟩ := h c hc
  rw [hc'] at hd
  rw [← Option.some.inj hd] at heq
  exact heq hv.symm

/-! ## What a commit does to a case -/

/-- The `UPDATE` of an object that was moved to another status: the status changes unless the object
    was loaded in it, and the version is the one that was loaded, plus one. -/
theorem CasePatch.ofChange_moves (loaded next c : RemediationCase) (now : Instant)
    (hv : next.version = loaded.version + 1) :
    ((CasePatch.ofChange loaded next now).toRow.apply c).status
        = (changed loaded.status next.status).getD c.status ∧
      ((CasePatch.ofChange loaded next now).toRow.apply c).version = loaded.version + 1 := by
  refine ⟨rfl, ?_⟩
  show (changed loaded.version next.version).getD c.version = _
  rw [hv, changed, if_neg (by omega)]
  rfl

theorem mem_changed {α : Type} [DecidableEq α] {a b t : α} (h : t ∈ changed a b) : t = b := by
  unfold changed at h
  split at h
  · cases h
  · exact (Option.some.inj h).symm

/-- The call is a `revoke_decision`. -/
def Call.revokes (c : Call) : Bool :=
  match c.op with
  | .revokeDecision _ => true
  | _ => false

/-- How a commit changes a case that the call last read as `loaded`. The status is checked against
    the one read, revocations apart; the version counts up from the one read or, where the `UPDATE`
    has it in its predicate, from the one found. -/
structure CaseChange (r : CaseCommit) (id : String) (loaded : RemediationCase)
    (status : Option CaseStatus) : Prop where
  read : ∃ db ∈ r.reads.head?, db.case? id = some loaded
  edge : ∀ t ∈ status, t ∈ allowedTransitions loaded.status ∨
    r.call.revokes ∧ t = .triage
  after : ∀ c, r.before.case? id = some c → ∃ c', r.after.case? id = some c' ∧
    c'.status = status.getD c.status ∧
      (c'.version = loaded.version + 1 ∨ c'.version = c.version + 1)

/-- A case is written by one plain `UPDATE` of a loaded object. -/
theorem CaseChange.of_update {r : CaseCommit} {id : String} {loaded next : RemediationCase}
    {now : Instant} (hafter : r.after.case? id
      = (r.before.case? id).map (CasePatch.ofChange loaded next now).toRow.apply)
    (hread : ∃ db ∈ r.reads.head?, db.case? id = some loaded)
    (hedge : next.status ∈ allowedTransitions loaded.status ∨
      r.call.revokes ∧ next.status = .triage)
    (hv : next.version = loaded.version + 1) :
    CaseChange r id loaded (changed loaded.status next.status) where
  read := hread
  edge := fun t ht => by
    rw [mem_changed ht]
    exact hedge
  after := fun c hc => by
    obtain ⟨hstatus, hversion⟩ := CasePatch.ofChange_moves loaded next c now hv
    exact ⟨_, by rw [hafter, hc]; rfl, hstatus, Or.inl hversion⟩

section Runtime

variable [Python]

/-- The requests that race for a case. -/
def Call.contends (c : Call) : Prop :=
  match c.op with
  | .transition _ | .verify _ | .approveRiskDecision _ | .revokeDecision _ => True
  | _ => False

/-- Every written case is changed as `CaseChange` says. -/
theorem CommitRecord.Valid.caseChange {P : Protocol Db Call PyError Answer}
    {O : Outline Db Call PyError Answer} {inv : Db → Prop} {r : CaseCommit} (hr : r.Valid P O)
    (hcontract : O.contract r.call = r.call.contract inv) (hcontends : r.call.contends) {id : String}
    (hid : id ∈ CaseCommit.caseIds r) : ∃ loaded status, CaseChange r id loaded status := by
  have hcommit := hr.onCommit
  have hguards := hr.guards
  have heffect := (flush_effect hr.flushed).case?
  rw [hcontract] at hcommit
  obtain ⟨thread, ⟨op, env⟩, started, reads, executed, staged, before, after⟩ := r
  dsimp only at hcommit hguards heffect
  cases op with
  | transition a =>
      obtain ⟨db, case, target, fields, rfl, hc⟩ := hcommit
      have hwrites := hc.writes
      split at hwrites
      · next v hv =>
          obtain ⟨rfl, rfl⟩ := hwrites
          obtain rfl : id = a.caseId := List.mem_singleton.1 hid
          refine ⟨case, some target, ⟨db, rfl, hc.found⟩, fun t ht => ?_, fun c hfound => ?_⟩
          · cases ht
            exact Or.inl hc.edge
          · -- the predicate found the expected version
            have hversion := hguards _ (List.mem_singleton.2 rfl)
            simp only [transitionUpdate, CondUpdate.onCase, hfound, Option.any_some,
              decide_eq_true_eq] at hversion
            refine ⟨_, by rw [heffect, hfound]; exact if_pos rfl, rfl, Or.inr ?_⟩
            rw [hversion]; rfl
      · obtain ⟨rfl, rfl⟩ := hwrites
        obtain rfl : id = a.caseId := List.mem_singleton.1 hid
        exact ⟨case, _, CaseChange.of_update ((heffect _).trans (if_pos rfl)) ⟨db, rfl, hc.found⟩
          (Or.inl hc.edge) rfl⟩
  | verify a =>
      obtain ⟨db, case, canClose, reason, fields, rfl, hc⟩ := hcommit
      obtain ⟨hfound, hawaiting, -, -, rfl, rfl⟩ := hc
      cases canClose with
      | true =>
          obtain rfl : id = a.caseId := List.mem_singleton.1 hid
          refine ⟨case, _, CaseChange.of_update ((heffect _).trans (if_pos rfl)) ⟨db, rfl, hfound⟩
            (Or.inl ?_) rfl⟩
          rw [hawaiting]; exact List.mem_cons_self
      | false => cases hid
  | approveRiskDecision a =>
      obtain ⟨db₁, db₂, stored, d, case, outcome, fields, role, rfl, hc⟩ := hcommit
      obtain ⟨-, -, -, hfound, -, hedge, rfl, rfl⟩ := hc
      cases outcome with
      | approve =>
          obtain rfl : id = case.id := List.mem_singleton.1 hid
          rw [← Db.id_of_case? hfound] at hfound
          exact ⟨case, _, CaseChange.of_update ((heffect _).trans (if_pos rfl)) ⟨db₂, rfl, hfound⟩
            (Or.inl (hedge rfl)) rfl⟩
      | reject => cases hid
  | revokeDecision a =>
      obtain ⟨db₁, db₂, d, case, rfl, hc⟩ := hcommit
      obtain ⟨-, hfound, rfl, rfl⟩ := hc
      obtain rfl : id = case.id := List.mem_singleton.1 hid
      rw [← Db.id_of_case? hfound] at hfound
      exact ⟨case, _, CaseChange.of_update ((heffect _).trans (if_pos rfl)) ⟨db₂, rfl, hfound⟩
        (Or.inr ⟨rfl, rfl⟩) rfl⟩
  | _ => exact hcontends.elim

omit [Python] in
/-- A case the commit does not write keeps its row. -/
theorem CommitRecord.Valid.case?_of_not_mem {P : Protocol Db Call PyError Answer}
    {O : Outline Db Call PyError Answer} {r : CaseCommit} (hr : r.Valid P O) {id : String}
    (hid : id ∉ CaseCommit.caseIds r) : r.before.case? id = r.after.case? id :=
  hr.same fun hw => hid (CaseCommit.mem_caseIds.2 hw)

/-! ## No lost updates -/

/-- A commit loses no update: the status it sets is one edge from the status it finds, with the
    next version, and a verification closes only a case that still awaits one. -/
structure NoLostUpdate (r : CaseCommit) : Prop where
  edge : ∀ id s t, r.before.statusOf id = some s → r.after.statusOf id = some t → s ≠ t →
    t ∈ allowedTransitions s
  version : ∀ id c c', r.before.case? id = some c → r.after.case? id = some c' →
    c.status ≠ c'.status → c'.version = c.version + 1
  verify : ∀ a p, r.call.op = .verify a → .updateCase a.caseId p ∈ r.staged →
    p.status = some .closed → r.before.statusOf a.caseId = some .awaitingVerification

/-- The commit finds every case it writes at the version the call last read, and a revocation finds
    it in triage or with an edge to triage. -/
def Unraced (r : CaseCommit) : Prop :=
  ∀ id ∈ CaseCommit.caseIds r,
    (∀ read ∈ r.reads.head?,
      (read.case? id).map (·.version) = (r.before.case? id).map (·.version)) ∧
    (r.call.revokes → ∀ c ∈ r.before.case? id,
      c.status = .triage ∨ .triage ∈ allowedTransitions c.status)

omit [Python] in
instance (r : CaseCommit) : Decidable (Unraced r) :=
  inferInstanceAs (Decidable (∀ id ∈ CaseCommit.caseIds r, _ ∧ _))

/-- Contending requests, on any cases and decisions. -/
def caseRequests (rely : CaseCommit → Prop) : Protocol Db Call PyError Answer where
  body := Call.body
  allows := fun _ c => c.contends
  rely := rely

/-- Commits leave every case as it is or count its version up. -/
def caseOutline : Outline Db Call PyError Answer where
  inv := fun _ => True
  rel := fun s t => ∀ id, Ahead id s t
  contract := Call.contract fun _ => True
  rel_refl := fun s id => Ahead.refl id s
  rel_trans := fun h₁ h₂ id => (h₁ id).trans (h₂ id)

section Unraced

variable {r : CaseCommit} {id : String} {loaded c : RemediationCase} {status : Option CaseStatus}

/-- An unraced commit overwrites the very row its call read. -/
theorem Unraced.loaded_eq (h : Unraced r) (hr : r.Valid (caseRequests Unraced) caseOutline)
    (hid : id ∈ CaseCommit.caseIds r) (hread : ∃ db ∈ r.reads.head?, db.case? id = some loaded)
    (hc : r.before.case? id = some c) : c = loaded := by
  obtain ⟨db, hdb, hloaded⟩ := hread
  have hversion := (h id hid).1 db hdb
  rw [hloaded, hc] at hversion
  have hahead : Ahead id db r.before := (hr.reads_rel db (List.mem_of_mem_head? hdb)).2 id
  exact hahead.same hloaded hc (Option.some.inj hversion)

/-- The row an unraced commit leaves. -/
theorem Unraced.after (h : Unraced r) (hr : r.Valid (caseRequests Unraced) caseOutline)
    (hid : id ∈ CaseCommit.caseIds r) (hc : r.before.case? id = some c) :
    ∃ c', r.after.case? id = some c' ∧ c'.version = c.version + 1 ∧
      (c.status ≠ c'.status → c'.status ∈ allowedTransitions c.status) := by
  obtain ⟨loaded, status, hchange⟩ := hr.caseChange rfl hr.allowed hid
  obtain rfl : c = loaded := h.loaded_eq hr hid hchange.read hc
  obtain ⟨c', hc', hstatus, hversion⟩ := hchange.after c hc
  refine ⟨c', hc', hversion.elim (fun h => h) fun h => h, fun hne => ?_⟩
  cases status with
  | none => exact absurd hstatus.symm hne
  | some t =>
      have ht : c'.status = t := hstatus
      rcases hchange.edge t rfl with hedge | ⟨hrevokes, htriage⟩
      · rw [ht]; exact hedge
      · rw [ht, htriage] at hne ⊢
        exact ((h id hid).2 hrevokes c hc).resolve_left hne

end Unraced

theorem caseOutline_proved : caseOutline.Proved (caseRequests Unraced) where
  meets := fun _ c _ => Call.body_meets _ c
  inv_after := fun _ _ => trivial
  rel_after := fun r hr id => by
    by_cases hid : id ∈ CaseCommit.caseIds r
    · intro c hc
      obtain ⟨c', hc', hversion, -⟩ := Unraced.after hr.assumed hr hid hc
      exact ⟨c', hc', by omega, fun heq => by omega⟩
    · exact Ahead.of_eq (hr.case?_of_not_mem hid)

/-- A verification that commits has read its case awaiting one. -/
theorem CommitRecord.Valid.verify_read {P : Protocol Db Call PyError Answer} {r : CaseCommit}
    (hr : r.Valid P caseOutline) {a : VerifyArgs} (hop : r.call.op = .verify a) :
    ∃ db case, db ∈ r.reads.head? ∧ db.case? a.caseId = some case ∧
      case.status = .awaitingVerification := by
  have hcommit := hr.onCommit
  change (r.call.contract _).onCommit _ _ _ at hcommit
  unfold Call.contract at hcommit
  rw [hop] at hcommit
  obtain ⟨db, case, canClose, reason, fields, hreads, hc⟩ := hcommit
  exact ⟨db, case, by rw [hreads]; rfl, hc.found, hc.awaiting⟩

/-- One unraced commit loses no update. -/
theorem CommitRecord.Valid.noLostUpdate {r : CaseCommit}
    (hr : r.Valid (caseRequests Unraced) caseOutline) : NoLostUpdate r := by
  have hstep : ∀ id c c', r.before.case? id = some c → r.after.case? id = some c' →
      c.status ≠ c'.status →
      c'.version = c.version + 1 ∧ c'.status ∈ allowedTransitions c.status := by
    intro id c c' hc hc' hne
    by_cases hid : id ∈ CaseCommit.caseIds r
    · obtain ⟨d, hd, hversion, hedge⟩ := Unraced.after hr.assumed hr hid hc
      rw [hc'] at hd
      cases hd
      exact ⟨hversion, hedge hne⟩
    · rw [hr.case?_of_not_mem hid, hc'] at hc
      cases hc
      exact absurd rfl hne
  refine ⟨fun id s t hs ht hne => ?_, fun id c c' hc hc' hne => (hstep id c c' hc hc' hne).1, ?_⟩
  · obtain ⟨c, hc, rfl⟩ := Option.map_eq_some_iff.1 hs
    obtain ⟨c', hc', rfl⟩ := Option.map_eq_some_iff.1 ht
    exact (hstep id c c' hc hc' hne).2
  · intro a p hop hmem _
    have hid : a.caseId ∈ CaseCommit.caseIds r :=
      CaseCommit.mem_caseIds.2 ⟨_, List.mem_append_right _ hmem, List.mem_singleton.2 rfl⟩
    obtain ⟨db, case, hread, hfound, hawaiting⟩ := hr.verify_read hop
    -- the row the verification read is still there, in the status it was checked for
    obtain ⟨c, hc, -⟩ := (hr.reads_rel db (List.mem_of_mem_head? hread)).2 a.caseId case hfound
    obtain rfl := Unraced.loaded_eq hr.assumed hr hid ⟨db, hread, hfound⟩ hc
    rw [Db.statusOf_of_case? hc, hawaiting]

/-- **Unraced requests lose no update.** In every interleaving of requests whose commits all find
    the versions they read, every commit follows an edge of the state machine and counts the version
    up by one, and no verification closes a case that has moved on. -/
theorem noLostUpdate_of_unraced {db₀ : Db} {s : System Db Call PyError Answer}
    (h : Reachable (caseRequests Unraced) db₀ s) : ∀ r ∈ s.log, NoLostUpdate r :=
  fun r hr => ((h.valid caseOutline_proved trivial).log r hr).noLostUpdate

end Runtime

/-- Where a schedule of sample calls leads. -/
def sampleSchedule (db : Db) (es : List (Event Call)) : Option (System Db Call PyError Answer) :=
  (System.init db).runEvents (@Call.body asciiPython) es

theorem sampleSchedule_reachable {rely : CaseCommit → Prop} {db : Db} {es : List (Event Call)}
    {s : System Db Call PyError Answer} (hs : sampleSchedule db es = some s)
    (hcontends : ∀ c, Event.start c ∈ es → c.contends) (hrely : ∀ r ∈ s.log, rely r) :
    Reachable (@caseRequests asciiPython rely) db s :=
  .of_runEvents es .init (fun _ => hcontends) hs hrely

/-- A verification reads a case awaiting it, a `transition` sends the case back to work, and the
    verification closes it all the same. -/
theorem update_lost : ¬ ∀ (_ : Python) (db₀ : Db) (s : System Db Call PyError Answer),
    db₀.Reached → Reachable (caseRequests fun _ => True) db₀ s → ∀ r ∈ s.log, NoLostUpdate r := by
  intro h
  have hrun := sampleRows_run sampleAwaiting fun _ _ _ => trivial
  have hlost : (sampleSchedule (sampleRows sampleAwaiting)
      [.start (sampleVerify 5), .run 0, .start (sampleTransition 6 "in_progress"), .run 1, .run 1,
        .run 1, .run 0, .run 0, .run 0]).any (fun s => s.log.any fun r =>
          decide (r.before.statusOf sampleCase = some .inProgress)
            && decide (r.after.statusOf sampleCase = some .closed)) = true := by
    decide +kernel
  obtain ⟨s, hs, hlog⟩ := (Option.any_eq_true _ _).1 hlost
  obtain ⟨r, hr, hstatus⟩ := List.any_eq_true.1 hlog
  simp only [Bool.and_eq_true, decide_eq_true_eq] at hstatus
  have hreach := sampleSchedule_reachable hs (fun c hc => ?_) fun _ _ => trivial
  · have hedge := (h asciiPython _ s ⟨_, _, _, _, hrun⟩ hreach r hr).edge sampleCase _ _ hstatus.1
      hstatus.2 (by decide)
    revert hedge
    decide
  · simp only [List.mem_cons, List.not_mem_nil, or_false, reduceCtorEq, false_or,
      Event.start.injEq] at hc
    rcases hc with rfl | rfl <;> trivial

/-- Call `k`: a `transition` of the sample case from version `v`. -/
def sampleVersioned (k : ℕ) (target : String) (v : ℤ) : Call where
  op := .transition
    { caseId := sampleCase
      target := target
      actor := sampleActor "alice"
      reason := none
      extra := none
      expectedVersion := some v }
  env := sampleEnv k

/-- The same race, the `transition` made with the version it was shown: it loses. -/
theorem noLostUpdate_of_unraced_versioned : ∃ s,
    sampleSchedule (sampleRows sampleAwaiting)
      [.start (sampleVersioned 6 "in_progress" 5), .run 0, .start (sampleVerify 5), .run 1, .run 1,
        .run 1, .run 1, .run 0, .run 0, .run 0] = some s ∧
    s.log.length = 1 ∧ ∀ r ∈ s.log, NoLostUpdate r := by
  have hunraced : (sampleSchedule (sampleRows sampleAwaiting)
      [.start (sampleVersioned 6 "in_progress" 5), .run 0, .start (sampleVerify 5), .run 1, .run 1,
        .run 1, .run 1, .run 0, .run 0, .run 0]).any (fun s =>
          decide (s.log.length = 1) && s.log.all fun r => decide (Unraced r)) = true := by
    decide +kernel
  obtain ⟨s, hs, hlog⟩ := (Option.any_eq_true _ _).1 hunraced
  simp only [Bool.and_eq_true, decide_eq_true_eq, List.all_eq_true] at hlog
  refine ⟨s, hs, hlog.1, @noLostUpdate_of_unraced asciiPython _ _
    (sampleSchedule_reachable hs (fun c hc => ?_) hlog.2)⟩
  simp only [List.mem_cons, List.not_mem_nil, or_false, reduceCtorEq, false_or,
    Event.start.injEq] at hc
  rcases hc with rfl | rfl <;> trivial

/-! ## Writers that name the version -/

/-- The version a `transition` of the case names. -/
def Call.expects (c : Call) (id : String) : Option ℤ :=
  match c.op with
  | .transition a => if a.caseId = id then a.expectedVersion else none
  | _ => none

theorem Call.expects_eq_some {c : Call} {id : String} {v : ℤ} (h : c.expects id = some v) :
    ∃ a, c.op = .transition a ∧ a.caseId = id ∧ a.expectedVersion = some v := by
  unfold Call.expects at h
  split at h
  · next a hop =>
      split at h
      · next hid => exact ⟨a, hop, hid, h⟩
      · cases h
  · cases h

/-- A commit that writes the case is one of a `transition` that names a version, no greater than
    the committed one when the call started. -/
def NamesVersion (id : String) (r : CaseCommit) : Prop :=
  id ∈ CaseCommit.caseIds r →
    ∃ v ∈ r.call.expects id, ∃ c ∈ r.started.case? id, v ≤ c.version

instance (id : String) (r : CaseCommit) : Decidable (NamesVersion id r) :=
  inferInstanceAs (Decidable (_ → ∃ v ∈ r.call.expects id, ∃ c ∈ r.started.case? id, v ≤ c.version))

/-- A successful compare-and-swap: the call named version `v`, the case had it, and its next version
    is in the call's target status, an edge from the status at `v`, as the audit row records. -/
structure VersionSwap (id : String) (v : ℤ) (r : CaseCommit) (case next : RemediationCase)
    (audit : AuditEvent) : Prop where
  expects : r.call.expects id = some v
  found : r.before.case? id = some case
  version : case.version = v
  edge : next.status ∈ allowedTransitions case.status
  target : r.call.targets next.status.value = true
  left : r.after.case? id = some next
  next_version : next.version = v + 1
  audits : r.after.auditEvents.rows = r.before.auditEvents.rows ++ [audit]
  subject : audit.subjectId = id
  prior : audit.priorState = some case.status.value
  new : audit.newState = some next.status.value

/-- The versions named by the commits that wrote the case, in their order. -/
def versionsTaken (id : String) (log : List CaseCommit) : List (Option ℤ) :=
  ((log.filter fun r => id ∈ CaseCommit.caseIds r).map (·.call.expects id)).reverse

section Versions

variable [Python]

/-- Any calls, as long as the writers of the case name its version. -/
def versionedRequests (id : String) : Protocol Db Call PyError Answer where
  body := Call.body
  allows := fun _ _ => True
  rely := NamesVersion id

/-- The case exists and its version counts up. -/
def versionOutline (id : String) : Outline Db Call PyError Answer where
  inv := fun db => (db.case? id).isSome
  rel := Ahead id
  contract := Call.contract fun db => (db.case? id).isSome
  rel_refl := Ahead.refl id
  rel_trans := Ahead.trans

section Swap

variable {id : String} {r : CaseCommit} {v : ℤ}

/-- A committed `transition` that names a version: what it read, and what it wrote. -/
theorem CommitRecord.Valid.versioned (hr : r.Valid (versionedRequests id) (versionOutline id))
    (hv : r.call.expects id = some v) : ∃ a db case target fields,
      r.call.op = .transition a ∧ a.caseId = id ∧ db ∈ r.reads.head? ∧
      TransitionCommit a r.call.env db case target fields r.executed r.staged ∧
      r.executed = [transitionUpdate a r.call.env case target v] ∧
      r.staged = [.insertAudit (transitionAudit a r.call.env case target fields),
        .insertOutbox (transitionOutbox a r.call.env case target fields)] := by
  obtain ⟨a, hop, hid, hexpected⟩ := Call.expects_eq_some hv
  have hcommit := hr.onCommit
  change (r.call.contract _).onCommit _ _ _ at hcommit
  unfold Call.contract at hcommit
  rw [hop] at hcommit
  obtain ⟨db, case, target, fields, hreads, hc⟩ := hcommit
  have hwrites := hc.writes
  rw [hexpected] at hwrites
  exact ⟨a, db, case, target, fields, hop, hid, by rw [hreads]; rfl, hc, hwrites.1, hwrites.2⟩

theorem CommitRecord.Valid.mem_caseIds_of_expects
    (hr : r.Valid (versionedRequests id) (versionOutline id)) (hv : r.call.expects id = some v) :
    id ∈ CaseCommit.caseIds r := by
  obtain ⟨a, db, case, target, fields, -, hid, -, -, hexecuted, hstaged⟩ := hr.versioned hv
  unfold CaseCommit.caseIds
  rw [hexecuted, hstaged]
  exact List.mem_singleton.2 hid.symm

/-- Every write of the case is a compare-and-swap: the version its predicate found is the one the
    call had read, so the status it had checked is the status it replaces. -/
theorem CommitRecord.Valid.versionSwap
    (hr : r.Valid (versionedRequests id) (versionOutline id)) (hid : id ∈ CaseCommit.caseIds r) :
    ∃ v case next audit, VersionSwap id v r case next audit := by
  obtain ⟨v, hv, shown, hshown, hle⟩ := hr.assumed hid
  obtain ⟨a, db, loaded, target, fields, hop, rfl, hdb, hc, hexecuted, hstaged⟩ := hr.versioned hv
  have hguard := hr.guards _ (by rw [hexecuted]; exact List.mem_singleton.2 rfl)
  obtain ⟨c, hfound, hversion⟩ := (Option.any_eq_true _ _).1 hguard
  have hcv : c.version = v := by simpa using hversion
  obtain ⟨hstart, hread⟩ := hr.reads_rel db (List.mem_of_mem_head? hdb)
  have hloaded : c = loaded := by
    obtain ⟨c₁, hc₁, hle₁, -⟩ := hstart shown hshown
    rw [hc.found] at hc₁
    cases hc₁
    obtain ⟨c₂, hc₂, hle₂, -⟩ := hread loaded hc.found
    rw [hfound] at hc₂
    cases hc₂
    exact hread.same hc.found hfound (by omega)
  subst hloaded
  have heffect := flush_effect hr.flushed
  rw [hexecuted, hstaged] at heffect
  refine ⟨v, c, _, transitionAudit a r.call.env c target fields, hv, hfound, hcv, ?_, ?_,
    (heffect.case? _).trans (by rw [hfound]; exact if_pos rfl), rfl, heffect.auditEvents, rfl, rfl,
    rfl⟩
  · exact hc.edge
  · unfold Call.targets
    rw [hop]
    exact decide_eq_true hc.target_eq.symm

end Swap

theorem versionOutline_proved (id : String) :
    (versionOutline id).Proved (versionedRequests id) := by
  have hstep : ∀ r : CaseCommit, r.Valid (versionedRequests id) (versionOutline id) →
      Ahead id r.before r.after := by
    intro r hr
    by_cases hid : id ∈ CaseCommit.caseIds r
    · obtain ⟨v, case, next, audit, h⟩ := hr.versionSwap hid
      intro c hc
      rw [h.found] at hc
      cases hc
      have hv := h.version
      have hnext := h.next_version
      exact ⟨next, h.left, by omega, fun heq => by omega⟩
    · exact Ahead.of_eq (hr.case?_of_not_mem hid)
  refine ⟨fun _ c _ => Call.body_meets _ c, fun r hr => ?_, hstep⟩
  obtain ⟨c, hc⟩ := Option.isSome_iff_exists.1 hr.inv_before
  obtain ⟨c', hc', -⟩ := hstep r hr c hc
  exact Option.isSome_iff_exists.2 ⟨c', hc'⟩

/-- The commits that wrote the case took its versions one by one. -/
theorem versionsTaken_of_linked {id : String} {db₀ : Db} {c₀ : RemediationCase}
    (h₀ : db₀.case? id = some c₀) (log : List CaseCommit)
    (hvalid : ∀ r ∈ log, r.Valid (versionedRequests id) (versionOutline id)) (db : Db)
    (hlinked : Linked db₀ log db) : ∃ c, ∃ n : ℕ, db.case? id = some c ∧
      c.version = c₀.version + n ∧
      versionsTaken id log = (List.range n).map fun k : ℕ => some (c₀.version + k) := by
  induction log generalizing db with
  | nil =>
      cases hlinked
      exact ⟨c₀, 0, h₀, by simp, rfl⟩
  | cons r log ih =>
      obtain ⟨rfl, hlinked⟩ := hlinked
      have hr := hvalid r List.mem_cons_self
      obtain ⟨c, n, hc, hn, htaken⟩ :=
        ih (fun r' hr' => hvalid r' (List.mem_cons_of_mem _ hr')) r.before hlinked
      unfold versionsTaken at htaken ⊢
      by_cases hid : id ∈ CaseCommit.caseIds r
      · obtain ⟨v, case, next, audit, h⟩ := hr.versionSwap hid
        obtain rfl : case = c := Option.some.inj (h.found.symm.trans hc)
        have hv : v = c₀.version + n := h.version.symm.trans hn
        refine ⟨next, n + 1, h.left, ?_, ?_⟩
        · rw [h.next_version, hv]
          push_cast
          omega
        · rw [List.filter_cons_of_pos (by simpa using hid), List.map_cons, List.reverse_cons,
            htaken, List.range_succ, List.map_append, h.expects, hv]
          rfl
      · refine ⟨c, n, (hr.case?_of_not_mem hid).symm.trans hc, hn, ?_⟩
        rw [List.filter_cons_of_neg (by simpa using hid)]
        exact htaken

/-- The history of a case whose writers name its version: a chain of compare-and-swaps, one for each
    version, each by one call, and nothing by a call that failed. -/
structure VersionChain (id : String) (db₀ : Db) (c₀ : RemediationCase)
    (s : System Db Call PyError Answer) : Prop where
  linked : Linked db₀ s.log s.db
  swaps : ∀ r ∈ s.log, id ∈ CaseCommit.caseIds r →
    ∃ v case next audit, VersionSwap id v r case next audit
  taken : ∃ c, ∃ n : ℕ, s.db.case? id = some c ∧ c.version = c₀.version + n ∧
    versionsTaken id s.log = (List.range n).map fun k : ℕ => some (c₀.version + k)
  succeeded : ∀ (i : ℕ) t v x, s.threads[i]? = some t → t.prog = .ret (.returned x) →
    t.call.expects id = some v →
    ∃ r ∈ s.log, r.thread = i ∧ ∃ case next audit, VersionSwap id v r case next audit
  unique : ∀ (i j : ℕ) t u v x y, s.threads[i]? = some t → s.threads[j]? = some u →
    t.prog = .ret (.returned x) → u.prog = .ret (.returned y) →
    t.call.expects id = some v → u.call.expects id = some v → i = j
  failed : ∀ (i : ℕ) t v o, s.threads[i]? = some t → t.prog = .ret o → o.isReturned = false →
    t.call.expects id = some v → ∀ r ∈ s.log, r.thread ≠ i

omit [Python] in
/-- No two commits take the same version. -/
theorem commit_eq_of_expects {id : String} {log : List CaseCommit} {v₀ : ℤ} {n : ℕ}
    (htaken : versionsTaken id log = (List.range n).map fun k : ℕ => some (v₀ + k))
    {r r' : CaseCommit} (hr : r ∈ log) (hr' : r' ∈ log) (hid : id ∈ CaseCommit.caseIds r)
    (hid' : id ∈ CaseCommit.caseIds r') (h : r.call.expects id = r'.call.expects id) : r = r' := by
  have hnodup : (versionsTaken id log).Nodup := by
    rw [htaken]
    refine List.nodup_range.map fun k l hkl => ?_
    have := Option.some.inj hkl
    omega
  unfold versionsTaken at hnodup
  refine List.inj_on_of_nodup_map (List.nodup_reverse.1 hnodup) ?_ ?_ h
  · exact List.mem_filter.2 ⟨hr, by simpa using hid⟩
  · exact List.mem_filter.2 ⟨hr', by simpa using hid'⟩

/-- **A case whose writers name its version has a single history.** -/
theorem versionChain_of_namesVersion {id : String} {db₀ : Db} {c₀ : RemediationCase}
    (h₀ : db₀.case? id = some c₀) {s : System Db Call PyError Answer}
    (h : Reachable (versionedRequests id) db₀ s) : VersionChain id db₀ c₀ s := by
  have hinv : (versionOutline id).inv db₀ := Option.isSome_iff_exists.2 ⟨c₀, h₀⟩
  have hs := h.valid (versionOutline_proved id) hinv
  obtain ⟨c, n, hc, hn, htaken⟩ := versionsTaken_of_linked h₀ s.log hs.log s.db hs.linked
  have hsucceeded : ∀ (i : ℕ) t v x, s.threads[i]? = some t → t.prog = .ret (.returned x) →
      t.call.expects id = some v →
      ∃ r ∈ s.log, r.thread = i ∧ id ∈ CaseCommit.caseIds r ∧ r.call.expects id = some v := by
    intro i t v x ht hprog hv
    obtain ⟨a, hop, -, -⟩ := Call.expects_eq_some hv
    obtain ⟨r, hr, hri, hcall⟩ := hs.exists_commit ht hprog (by
      change ¬ (t.call.contract _).onReturn _ _
      unfold Call.contract
      rw [hop]
      exact Bool.noConfusion)
    rw [← hcall] at hv
    exact ⟨r, hr, hri, (hs.log r hr).mem_caseIds_of_expects hv, hv⟩
  refine ⟨hs.linked, fun r hr hid => (hs.log r hr).versionSwap hid, ⟨c, n, hc, hn, htaken⟩, ?_, ?_,
    ?_⟩
  · intro i t v x ht hprog hv
    obtain ⟨r, hr, hri, hid, hrv⟩ := hsucceeded i t v x ht hprog hv
    obtain ⟨w, case, next, audit, hswap⟩ := (hs.log r hr).versionSwap hid
    rw [hswap.expects] at hrv
    cases hrv
    exact ⟨r, hr, hri, case, next, audit, hswap⟩
  · intro i j t u v x y ht hu hx hy hv hw
    obtain ⟨r, hr, rfl, hid, hrv⟩ := hsucceeded i t v x ht hx hv
    obtain ⟨r', hr', rfl, hid', hrv'⟩ := hsucceeded j u v y hu hy hw
    rw [commit_eq_of_expects htaken hr hr' hid hid' (hrv.trans hrv'.symm)]
  · intro i t v o ht hprog hfailed hv
    obtain ⟨a, hop, hid, -⟩ := Call.expects_eq_some hv
    refine hs.no_commit ht hprog fun hreturn => ?_
    change (t.call.contract _).onReturn _ _ at hreturn
    unfold Call.contract at hreturn
    rw [hop] at hreturn
    -- once committed, the call finds the case again and returns
    have hreturned : o.isReturned = true := hreturn fun db hdb => by rw [hid]; exact hdb
    rw [hfailed] at hreturned
    cases hreturned

end Versions

/-- Two clients were shown version 5; the second to write it loses. -/
theorem versionChain_of_namesVersion_race : ∃ c₀ s,
    sampleSchedule (sampleRows sampleAwaiting)
      [.start (sampleVersioned 5 "in_progress" 5), .start (sampleVersioned 6 "closed" 5), .run 0,
        .run 1, .run 1, .run 1, .run 1, .run 1, .run 0, .run 0, .run 0] = some s ∧
    s.log.length = 1 ∧ VersionChain sampleCase (sampleRows sampleAwaiting) c₀ s := by
  have hnames : (sampleSchedule (sampleRows sampleAwaiting)
      [.start (sampleVersioned 5 "in_progress" 5), .start (sampleVersioned 6 "closed" 5), .run 0,
        .run 1, .run 1, .run 1, .run 1, .run 1, .run 0, .run 0, .run 0]).any (fun s =>
          decide (s.log.length = 1) && s.log.all fun r => decide (NamesVersion sampleCase r))
      = true := by
    decide +kernel
  have hfound : ((sampleRows sampleAwaiting).case? sampleCase).isSome = true := by decide +kernel
  obtain ⟨s, hs, hlog⟩ := (Option.any_eq_true _ _).1 hnames
  obtain ⟨c₀, h₀⟩ := Option.isSome_iff_exists.1 hfound
  simp only [Bool.and_eq_true, decide_eq_true_eq, List.all_eq_true] at hlog
  exact ⟨c₀, s, hs, hlog.1, @versionChain_of_namesVersion asciiPython _ _ _ h₀ _
    (.of_runEvents _ .init (fun _ _ _ => trivial) hs hlog.2)⟩

end VulnOpsHub
