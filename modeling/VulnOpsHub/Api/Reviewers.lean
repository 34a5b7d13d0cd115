import VulnOpsHub.Api.Exposures
import VulnOpsHub.Workers.Staging

set_option autoImplicit false

/-! # Several reviewers

Any number of review requests and handlings of evidence events, each in a session of its own, over one
database. `review_exposure` looks at the state of the exposure once, when it reads it; what it writes
then does not depend on the state that is stored by the time it commits. -/

namespace VulnOpsHub

/-- A request to review, or the handling of an evidence event. -/
inductive ReviewCall where
  | review (r : ReviewRequest) (env : CallEnv)
  | work (o : Handling) (event : OutboxEvent)

section Reviewers

variable [Python]

/-- The decision a request asks for. -/
def ReviewRequest.decision (r : ReviewRequest) : Option ReviewDecision :=
  match bodyText r.body "decision" with
  | .ok text => ReviewDecision.ofText text
  | .error _ => none

/-- What a call does; a handling answers nothing. -/
def ReviewCall.body [Packaging] : ReviewCall → HubProg (Option ReviewAnswer)
  | .review r env => (reviewExposure r env).map some
  | .work o event =>
      match handlerOf event.eventType with
      | none => pure none
      | some handler => (handler o event).map fun _ => none

/-- Reviews and handlings at any time, whose commits are such as `rely` says. -/
def reviewers [Packaging] (rely : CommitRecord Hub ReviewCall → Prop) :
    Protocol Hub ReviewCall PyError (Option ReviewAnswer) where
  body := ReviewCall.body
  allows := fun _ _ => True
  rely := rely

end Reviewers

/-! ## One decision -/

/-- The state of an exposure, if it is stored. -/
def Hub.stateOf (h : Hub) (id : String) : Option ExposureState := (h.exposure? id).map (·.state)

/-- The exposure can be reviewed. -/
def Hub.Reviewable (h : Hub) (id : String) : Prop := (h.stateOf id).any reviewable = true

instance (h : Hub) (id : String) : Decidable (h.Reviewable id) :=
  inferInstanceAs (Decidable (_ = _))

/-- The call is a request to review the exposure. -/
def ReviewCall.reviews (id : String) : ReviewCall → Bool
  | .review r _ => r.exposureId = id
  | .work _ _ => false

/-- The number of audit rows about reviews of an exposure. -/
def Hub.reviewAudits (h : Hub) (id : String) : ℕ :=
  h.auditEvents.rows.countP fun a => a.action = "exposure.reviewed" ∧ a.subjectId = id

/-- The answer says that the exposure has been reviewed. -/
def Outcome.isReview : Outcome PyError (Option ReviewAnswer) → Bool
  | .returned (some (.reviewed _ _ _)) => true
  | _ => false

/-- The request is answered with a review. -/
def Succeeded (t : Thread Hub ReviewCall PyError (Option ReviewAnswer)) : Bool :=
  match t.prog with
  | .ret o => o.isReview
  | _ => false

section Decided

variable [Python]

/-- The exposure is decided on once for each time it can be reviewed. -/
structure DecidedOnce (id : String) (db₀ : Hub)
    (s : System Hub ReviewCall PyError (Option ReviewAnswer)) : Prop where
  once : ∀ later mid earlier r r', s.log = later ++ r' :: (mid ++ r :: earlier) →
    r.call.reviews id = true → r'.call.reviews id = true → ∃ m ∈ r' :: mid, m.before.Reviewable id
  stands : ∀ later earlier r q env d, s.log = later ++ r :: earlier → r.call = .review q env →
    q.exposureId = id → q.decision = some d →
      (∃ m ∈ later, m.before.Reviewable id) ∨ s.db.Reviewable id ∨ s.db.stateOf id = some d.state
  counted : s.db.reviewAudits id = db₀.reviewAudits id +
    s.threads.countP fun t => t.call.reviews id && Succeeded t

/-- A review commits while its exposure can still be reviewed, and a handling puts no other verdict in
    the place of one. -/
def Undisturbed (id : String) (r : CommitRecord Hub ReviewCall) : Prop :=
  if r.call.reviews id then r.before.Reviewable id
  else r.before.stateOf id = none ∨ r.before.Reviewable id ∨ r.after.Reviewable id ∨
    r.after.stateOf id = r.before.stateOf id

instance (id : String) (r : CommitRecord Hub ReviewCall) : Decidable (Undisturbed id r) :=
  inferInstanceAs (Decidable (if r.call.reviews id then r.before.Reviewable id
    else r.before.stateOf id = none ∨ r.before.Reviewable id ∨ r.after.Reviewable id ∨
      r.after.stateOf id = r.before.stateOf id))

/-! ## What handlers write -/

/-- The audit row a statement adds. -/
def HubWrite.audit? : HubWrite → Option AuditEvent
  | .core w => w.audit?
  | _ => none

/-- The statement adds no audit row about a review. -/
def HubWrite.NoReview (w : HubWrite) : Prop := ∀ a, w.audit? = some a → a.action ≠ "exposure.reviewed"

omit [Python] in
theorem flush_audits {ws : List HubWrite} {h h' : Hub} (hflush : Store.flush ws h = some h') :
    h'.auditEvents.rows = h.auditEvents.rows ++ ws.filterMap HubWrite.audit? := by
  induction ws generalizing h with
  | nil =>
      cases hflush
      simp
  | cons w ws ih =>
      obtain ⟨h₁, hw, hrest⟩ := Store.flush_cons hflush
      have hone : h₁.auditEvents.rows = h.auditEvents.rows ++ (HubWrite.audit? w).toList := by
        cases w with
        | core w =>
            obtain ⟨db, hdb, rfl⟩ := Option.map_eq_some_iff.1 hw
            have hflush : Store.flush [w] h.view = some db := by
              simp only [Store.flush]
              exact Option.bind_eq_some_iff.2 ⟨db, hdb, rfl⟩
            have haudits := (flush_effect hflush).auditEvents
            rw [List.filterMap_cons] at haudits
            cases haudit : w.audit? <;> simp_all [HubWrite.audit?, Hub.put, Hub.view]
        | updateExposure id p =>
            cases hw
            simp [HubWrite.audit?]
        | updateOutbox id p =>
            cases hw
            simp [HubWrite.audit?]
        | _ =>
            obtain ⟨t, -, rfl⟩ := Option.map_eq_some_iff.1 hw
            simp [HubWrite.audit?]
      rw [ih hrest, hone, List.filterMap_cons]
      cases HubWrite.audit? w <;> simp

omit [Python] in
theorem reviewAudits_of_noReview {ws : List HubWrite} {h h' : Hub} (id : String)
    (hws : ∀ w ∈ ws, w.NoReview) (hflush : Store.flush ws h = some h') :
    h'.reviewAudits id = h.reviewAudits id := by
  unfold Hub.reviewAudits
  rw [flush_audits hflush, List.countP_append, Nat.add_eq_left, List.countP_eq_zero]
  intro a ha haction
  obtain ⟨w, hw, hwa⟩ := List.mem_filterMap.1 ha
  exact hws w hw a hwa (of_decide_eq_true haction).1

omit [Python] in
theorem HubWrite.Recorded.noReview {w : HubWrite} (h : w.Recorded) : w.NoReview := by
  intro a ha
  cases h with
  | created mem =>
      unfold createdRows at mem
      rcases List.mem_append.1 mem with mem | mem
      · rcases List.mem_append.1 mem with mem | mem
        · simp only [List.mem_cons, List.not_mem_nil, or_false] at mem
          rcases mem with rfl | rfl | rfl
          · cases ha
          · cases ha
          · cases ha
            show "case.created" ≠ "exposure.reviewed"
            decide
        · split at mem
          · obtain rfl := List.mem_singleton.1 mem
            cases ha
            show "case.ownership.unassigned_high_priority" ≠ "exposure.reviewed"
            decide
          · cases mem
      · obtain rfl := List.mem_singleton.1 mem
        cases ha
  | ticket mem =>
      unfold ticketWrites at mem
      split at mem
      · cases mem
      · simp only [List.mem_cons, List.not_mem_nil, or_false] at mem
        rcases mem with rfl | rfl
        · cases ha
        · cases ha
          show "case.external_ticket.linked" ≠ "exposure.reviewed"
          decide
  | _ => cases ha

theorem handlerOf_stages [Packaging] {eventType : String}
    {handler : Handling → OutboxEvent → HubProg String} (h : handlerOf eventType = some handler)
    (o : Handling) (event : OutboxEvent) : (handler o event).Stages HubWrite.NoReview :=
  (handler_stages h o event).mono fun _ => HubWrite.Recorded.noReview

/-! ## What a review promises -/

/-- What the commit of a review does. -/
structure ReviewCommit (q : ReviewRequest) (env : CallEnv) (h h' : Hub) : Prop where
  exposures : ∃ d e, q.decision = some d ∧ e.id = q.exposureId ∧ reviewable e.state = true ∧
    h'.exposures = h.exposures.update e.id (ExposurePatch.ofChange e (reviewed d e)).toRow
  audits : ∃ d reason, h'.auditEvents.rows = h.auditEvents.rows ++ [reviewAudit q env d reason]

/-- A review commits once and is answered with it, or it neither commits nor succeeds. -/
def reviewPromise (q : ReviewRequest) (env : CallEnv) :
    Program.Promise Hub PyError (Option ReviewAnswer) where
  guar := fun _ => ReviewCommit q env
  live := fun n => n = 0
  post := fun n o => n = if Outcome.isReview o then 1 else 0

def callPromise : ReviewCall → Program.Promise Hub PyError (Option ReviewAnswer)
  | .review q env => reviewPromise q env
  | .work _ _ => .always fun h h' =>
      ∀ id, h'.reviewAudits id = h.reviewAudits id

theorem reviewExposure_keeps (q : ReviewRequest) (env : CallEnv) :
    ((reviewExposure q env).map some).Keeps (reviewPromise q env) 0 [] [] := by
  have hno : ∀ o : Outcome PyError (Option ReviewAnswer), o.isReview = false →
      (.ret o : HubProg (Option ReviewAnswer)).Keeps (reviewPromise q env) 0 [] [] := by
    intro o ho
    refine Program.keeps_ret.2 ?_
    simp [reviewPromise, ho]
  unfold reviewExposure
  cases htext : bodyText q.body "decision" with
  | error e => exact hno (.raised e) rfl
  | ok decision =>
  cases hreason : bodyText q.body "reason" with
  | error e => exact hno (.raised e) rfl
  | ok reason =>
  have hdecision : q.decision = ReviewDecision.ofText decision := by
    simp [ReviewRequest.decision, htext]
  simp only [Program.ofExcept_ok_bind]
  split
  · exact hno _ rfl
  next d hd =>
  split
  · exact hno _ rfl
  refine Program.keeps_read.2 ⟨rfl, fun h => ?_⟩
  change Program.Keeps _ (Program.bind (Program.bind (.ret (.returned
    ((h.exposure? q.exposureId).filter (·.organizationId = q.organizationId)))) _) _) 0 [] []
  cases hfound : (h.exposure? q.exposureId).filter (·.organizationId = q.organizationId) with
  | none => exact hno _ rfl
  | some e =>
      have he : e.id = q.exposureId :=
        (Table.find?_eq_some.1 (Option.filter_eq_some_iff.1 hfound).1).2
      by_cases hreviewable : reviewable e.state = true
      · simp only [Program.bind, hreviewable, if_true]
        refine Program.keeps_stage.2 ⟨rfl, Program.keeps_commit.2 ⟨rfl, fun t t' hflush => ?_,
          Program.keeps_ret.2 rfl, rfl⟩⟩
        obtain ⟨t₁, hupdate, hrest⟩ := Store.flush_cons hflush
        cases hupdate
        have haudits := flush_audits hflush
        refine ⟨⟨d, e, hdecision.trans hd, he, hreviewable, ?_⟩, d, reason, haudits⟩
        obtain ⟨t₂, haudit, hrest⟩ := Store.flush_cons hrest
        cases hrest
        obtain ⟨db, -, rfl⟩ := Option.map_eq_some_iff.1 haudit
        rfl
      · simp only [Program.bind, hreviewable]
        exact hno _ rfl

theorem body_keeps [Packaging] (c : ReviewCall) : c.body.Keeps (callPromise c) 0 [] [] := by
  cases c with
  | review q env => exact reviewExposure_keeps q env
  | work o event =>
      have hstages : (ReviewCall.work o event).body.Stages HubWrite.NoReview := by
        cases hhandler : handlerOf event.eventType with
        | none =>
            rw [ReviewCall.body, hhandler]
            exact Program.stages_pure _
        | some handler =>
            rw [ReviewCall.body, hhandler]
            exact (handlerOf_stages hhandler o event).map _
      refine hstages.keeps (fun ws h h' hws hflush id => ?_) (fun w hw => by cases hw)
      exact reviewAudits_of_noReview id hws hflush

/-! ## Commits -/

section Commits

variable {q : ReviewRequest} {env : CallEnv} {h h' : Hub} {id : String}

theorem ReviewCommit.reviewAudits (hc : ReviewCommit q env h h') :
    h'.reviewAudits id = h.reviewAudits id + if q.exposureId = id then 1 else 0 := by
  obtain ⟨d, reason, hrows⟩ := hc.audits
  have haction : (reviewAudit q env d reason).action = "exposure.reviewed" := rfl
  have hsubject : (reviewAudit q env d reason).subjectId = q.exposureId := rfl
  unfold Hub.reviewAudits
  rw [hrows, List.countP_append, List.countP_singleton]
  simp [haction, hsubject]

/-- Over an exposure that is stored, the decision of the request is there afterwards. -/
theorem ReviewCommit.stateOf {d : ReviewDecision} (hc : ReviewCommit q env h h')
    (hd : q.decision = some d) (hstored : (h.stateOf q.exposureId).isSome = true) :
    h'.stateOf q.exposureId = some d.state := by
  obtain ⟨d', e, hd', he, hreviewable, hexposures⟩ := hc.exposures
  obtain rfl : d = d' := Option.some.inj (hd.symm.trans hd')
  obtain ⟨e₀, he₀⟩ : ∃ e₀, h.exposures.find? e.id = some e₀ := by
    rw [he]
    exact Option.isSome_iff_exists.1 (by simpa [Hub.stateOf, Hub.exposure?] using hstored)
  have hne : e.state ≠ d.state := by
    intro heq
    rw [heq] at hreviewable
    cases d <;> cases hreviewable
  unfold Hub.stateOf Hub.exposure?
  rw [hexposures, ← he, Table.find?_update, if_pos rfl, he₀]
  simp [ExposurePatch.ofChange, ExposurePatch.toRow, changed, reviewed, hne]

end Commits

section Runs

variable {id : String} {db₀ : Hub} {log : List (CommitRecord Hub ReviewCall)} {db : Hub}

theorem reviewAudits_eq (hlinked : Linked db₀ log db) (hkept : LogKept callPromise log) :
    db.reviewAudits id = db₀.reviewAudits id + log.countP fun r => r.call.reviews id := by
  induction log generalizing db with
  | nil =>
      obtain rfl : db = db₀ := hlinked
      simp
  | cons r log ih =>
      obtain ⟨rfl, hlinked⟩ := hlinked
      have hbefore := ih hlinked hkept.2
      have hguar := hkept.1
      rw [List.countP_cons, ← Nat.add_assoc, ← hbefore]
      cases hcall : r.call with
      | review q env =>
          rw [hcall] at hguar
          rw [ReviewCommit.reviewAudits hguar]
          simp [ReviewCall.reviews]
      | work o event =>
          rw [hcall] at hguar
          rw [hguar id]
          simp [ReviewCall.reviews]

/-- A decision stands until the exposure can be reviewed again. -/
theorem stands_of_undisturbed {later earlier : List (CommitRecord Hub ReviewCall)}
    {r : CommitRecord Hub ReviewCall} {q : ReviewRequest} {env : CallEnv} {d : ReviewDecision}
    (hlinked : Linked db₀ (later ++ r :: earlier) db)
    (hkept : LogKept callPromise (later ++ r :: earlier))
    (hrely : ∀ m ∈ later ++ r :: earlier, Undisturbed id m) (hcall : r.call = .review q env)
    (hid : q.exposureId = id) (hd : q.decision = some d) :
    (∃ m ∈ later, m.before.Reviewable id) ∨ db.Reviewable id ∨ db.stateOf id = some d.state := by
  induction later generalizing db with
  | nil =>
      obtain ⟨rfl, -⟩ := hlinked
      have hundisturbed := hrely r List.mem_cons_self
      have hguar := hkept.1
      rw [hcall] at hguar
      have hreviewable : r.before.Reviewable id := by
        simpa [Undisturbed, hcall, ReviewCall.reviews, hid] using hundisturbed
      have hstored : (r.before.stateOf q.exposureId).isSome = true := by
        rw [hid]
        unfold Hub.Reviewable at hreviewable
        cases hstate : r.before.stateOf id with
        | none => simp [hstate] at hreviewable
        | some state => rfl
      exact .inr (.inr (hid ▸ ReviewCommit.stateOf hguar hd hstored))
  | cons m later ih =>
      obtain ⟨rfl, hlinked⟩ := hlinked
      have hundisturbed := hrely m List.mem_cons_self
      rcases ih hlinked hkept.2 fun x hx => hrely x (List.mem_cons_of_mem _ hx) with
        ⟨x, hx, hreviewable⟩ | hreviewable | hstate
      · exact .inl ⟨x, List.mem_cons_of_mem _ hx, hreviewable⟩
      · exact .inl ⟨m, List.mem_cons_self, hreviewable⟩
      · unfold Undisturbed at hundisturbed
        split at hundisturbed
        · exact .inl ⟨m, List.mem_cons_self, hundisturbed⟩
        · next hother =>
            rcases hundisturbed with hnone | hbefore | hafter | hsame
            · rw [hstate] at hnone
              cases hnone
            · exact .inl ⟨m, List.mem_cons_self, hbefore⟩
            · exact .inr (.inl hafter)
            · exact .inr (.inr (hsame.trans hstate))

end Runs

/-! ## The condition -/

/-- **An exposure is decided on once.** So it is in every run in which each review finds the exposure
    reviewable when it commits, and no handling overwrites a verdict with another one. -/
theorem decidedOnce [Packaging] {id : String} {db₀ : Hub}
    {s : System Hub ReviewCall PyError (Option ReviewAnswer)}
    (hs : Reachable (reviewers (Undisturbed id)) db₀ s) : DecidedOnce id db₀ s := by
  have hkept := hs.kept (C := callPromise) fun _ c _ => body_keeps c
  have hrely := hs.relied
  refine ⟨?_, ?_, ?_⟩
  · intro later mid earlier r r' hlog _ hreviews
    have hundisturbed := hrely r' (by rw [hlog]; simp)
    refine ⟨r', List.mem_cons_self, ?_⟩
    simpa [reviewers, Undisturbed, hreviews] using hundisturbed
  · intro later earlier r q env d hlog hcall hid hd
    have hlinked := hkept.linked
    have hlogKept := hkept.log
    rw [hlog] at hlinked hlogKept hrely
    exact stands_of_undisturbed hlinked hlogKept hrely hcall hid hd
  · rw [reviewAudits_eq hkept.linked hkept.log,
      hkept.countP_log (fun c => c.reviews id) fun t => t.call.reviews id && Succeeded t]
    intro i t ht
    have hthread := hkept.threads i t ht
    cases hcall : t.call with
    | work o event => simp [ReviewCall.reviews]
    | review q env =>
        rw [hcall] at hthread
        have hcount : commitsOf i s.log = if Succeeded t then 1 else 0 := by
          unfold Succeeded
          cases hprog : t.prog with
          | ret o =>
              rw [hprog] at hthread
              exact Program.keeps_ret.1 hthread
          | _ =>
              rcases hthread.live with ⟨o, ho⟩ | hlive
              · rw [hprog] at ho
                cases ho
              · exact hlive
        rw [hcount]
        cases h : ReviewCall.reviews id (.review q env) <;> simp

end Decided

/-! ## Two reviewers -/

/-- An exposure that waits for its review. -/
def sampleCandidate : Exposure where
  id := "exp_1"
  organizationId := "acme"
  assetId := none
  componentOccurrenceId := none
  vulnerabilityId := "CVE-2026-1234"
  detectionContext := "wazuh:3"
  matchClass := .candidate
  confidence := 0
  priority := none
  policyVersion := none
  state := .candidate
  matchedRules := none
  evidenceRefs := none
  limitations := none
  matcherVersion := none
  firstObservedAt := 0
  lastObservedAt := 0
  createdAt := 0

def sampleCandidates : Hub := { Hub.empty with exposures := ⟨[sampleCandidate], by decide⟩ }

/-- A request to review it; the number makes its identifiers unique. -/
def sampleReviewCall (i : ℕ) (decision : String) : ReviewCall :=
  .review
    { organizationId := "acme"
      exposureId := "exp_1"
      body := .obj [("decision", .str decision), ("reason", .str "seen")]
      subject := "alice" }
    { clock := fun _ => 0
      uuid := fun j => toString (100 * i + j)
      defaultCaseOwnerTeam := none }

/-- Both reviews are in the log, and the exposure was decided on when the later one committed. -/
def decidedTwice (s : System Hub ReviewCall PyError (Option ReviewAnswer)) : Bool :=
  match s.log with
  | [r', r] => r.call.reviews "exp_1" && r'.call.reviews "exp_1"
      && !decide (r'.before.Reviewable "exp_1")
  | _ => false

/-- Two reviewers read the same candidate; one confirms it and the other one rules it out. -/
theorem decided_twice : ¬ ∀ (_ : Python) (_ : Packaging) (id : String) (db₀ : Hub)
    (s : System Hub ReviewCall PyError (Option ReviewAnswer)),
    Reachable (reviewers fun _ => True) db₀ s → DecidedOnce id db₀ s := by
  intro h
  let _ := asciiPython
  let _ := dottedPackaging
  have hruns : ((System.init sampleCandidates).runEvents ReviewCall.body
      [.start (sampleReviewCall 1 "confirmed"), .start (sampleReviewCall 2 "not_affected"), .run 0, .run 1,
        .run 0, .run 1, .run 0, .run 1]).any decidedTwice = true := by
    decide +kernel
  obtain ⟨s, hs, htwice⟩ := (Option.any_eq_true _ _).1 hruns
  have hreach : Reachable (reviewers fun _ => True) sampleCandidates s :=
    .of_runEvents _ .init (fun _ _ _ => trivial) hs fun _ _ => trivial
  unfold decidedTwice at htwice
  split at htwice
  · next r' r hlog =>
      simp only [Bool.and_eq_true, Bool.not_eq_true', decide_eq_false_iff_not] at htwice
      obtain ⟨⟨hr, hr'⟩, hnot⟩ := htwice
      obtain ⟨m, hm, hreviewable⟩ := (h _ _ "exp_1" _ s hreach).once [] [] [] r r' hlog hr hr'
      obtain rfl := List.mem_singleton.1 hm
      exact hnot hreviewable
  · cases htwice

/-- Of two reviewers one after the other only the first one decides. -/
theorem decidedOnce_sample : ∃ s : System Hub ReviewCall PyError (Option ReviewAnswer),
    s.log.length = 1 ∧ @DecidedOnce asciiPython "exp_1" sampleCandidates s := by
  let _ := asciiPython
  let _ := dottedPackaging
  have hruns : ((System.init sampleCandidates).runEvents ReviewCall.body
      [.start (sampleReviewCall 1 "confirmed"), .run 0, .run 0, .run 0,
        .start (sampleReviewCall 2 "not_affected"), .run 1]).any (fun s =>
          decide (s.log.length = 1) && s.log.all fun r => decide (Undisturbed "exp_1" r)) = true := by
    decide +kernel
  obtain ⟨s, hs, hlog⟩ := (Option.any_eq_true _ _).1 hruns
  simp only [Bool.and_eq_true, decide_eq_true_eq, List.all_eq_true] at hlog
  exact ⟨s, hlog.1, @decidedOnce asciiPython dottedPackaging _ _ _
    (.of_runEvents _ .init (fun _ _ _ => trivial) hs hlog.2)⟩

end VulnOpsHub
