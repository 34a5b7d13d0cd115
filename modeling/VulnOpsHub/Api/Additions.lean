import VulnOpsHub.Api.Dispatch
import VulnOpsHub.Cases.Owners

set_option autoImplicit false

/-! # Requests that add rows

A request for a new case, for a risk decision or with a verification adds the same rows each time it
is accepted, and what it checks is not changed by them. So it can be accepted twice. A transition, an
approval and a verification that closes its case take away what they asked for. -/

namespace VulnOpsHub

section Operations

variable [Python]

/-! ## The rows of a call -/

/-- The rows of a new case. -/
def creationRows (a : CreateCaseArgs) (env : CallEnv) (db : Db) : Option (List Write) :=
  match ((caseOwner a env).run (Session.fresh db)).1 with
  | .returned owner => some (createdRows env (newCase a env owner))
  | _ => none

/-- The rows of a requested decision. -/
def requestRows (a : CreateRiskDecisionArgs) (env : CallEnv) (db : Db) : Option (List Write) := do
  guard (a.approver = none ∧ a.approverRole = none)
  guard (a.actor.actor = a.requestedBy)
  let given ← (validateRiskDecisionRequest a.type a.reason a.evidenceIds a.expiresAt
    (env.clock 0)).toOption
  let expiresAt ← (normalizeUtc given).toOption
  let fields ← (actorAuditFields a.actor).toOption
  let case ← db.case? a.caseId
  let scope ← (if a.scope.truthy then a.scope.get "exposure_ids" else .ok .null).toOption
  let d := newRiskDecision a env scope expiresAt
  return [.insertDecision d, .insertAudit (requestedAudit a env case d fields),
    .insertOutbox (requestedOutbox a env case d expiresAt fields)]

/-- The rows of a verification, and the update of its case if it closes it. -/
def verifyRows (a : VerifyArgs) (env : CallEnv) (db : Db) : Option (List Write) := do
  let case ← db.case? a.caseId
  guard (case.status = .awaitingVerification)
  let (canClose, reason) ← (evaluateCoverage a.method a.coverage).toOption
  let fields ← (actorAuditFields a.actor).toOption
  return verificationRows a env case canClose reason ++
    [.insertAudit (verificationAudit a env case canClose reason fields),
      .insertOutbox (verificationOutbox a env case canClose reason fields)]

/-- What is there once the rows, if there are any, have been flushed. -/
def Db.adding (db : Db) (rows : Option (List Write)) : Db :=
  (rows.bind fun ws => Store.flush ws db).getD db

omit [Python] in
/-- A commit of the rows alone, and what follows it. -/
theorem wp_commitRows {α : Type} {k : Unit → Prog α} {db : Db} {ws : List Write}
    {rows : Option (List Write)} (hrows : rows = some ws)
    (hk : ∀ db', (k ()).Wp Eq (fun _ _ => True) (fun _ s => s.db = db') (Session.fresh db')) :
    (Program.commitAll >>= k).Wp Eq (fun _ _ => True) (fun _ s => s.db = db.adding rows)
      ⟨db, [], ws⟩ := by
  subst hrows
  refine Program.wp_commitAll_bind (fun t ht hflush => ?_) fun t t' ht hflush => ⟨trivial, ?_⟩
  · obtain rfl : db = t := ht
    have hnone : Store.flush ws db = none := hflush
    simp [Db.adding, hnone, Session.fresh]
  · obtain rfl : db = t := ht
    have hsome : Store.flush ws db = some t' := hflush
    simpa [Db.adding, hsome] using hk t'

omit [Python] in
/-- A lookup at the end writes nothing. -/
theorem wp_lookup_end {α : Type} {g : Db → Option α} {e : PyError} (db : Db) :
    (Program.lookup g e : Prog α).Wp Eq (fun _ _ => True) (fun _ s => s.db = db)
      (Session.fresh db) :=
  Program.wp_lookup (fun _ ht _ => ht.symm) fun _ _ ht _ => ht.symm

variable {env : CallEnv} {db : Db}

/-- The rows after a call, by what holds of its program. -/
theorem Call.run_eq {α : Type} {op : CaseOp} {p : Prog α} {wrap : α → Answer} {db' : Db}
    (hbody : (Call.mk op env).body = p.map wrap)
    (h : p.Wp Eq (fun _ _ => True) (fun _ s => s.db = db') (Session.fresh db)) :
    Call.run db ⟨op, env⟩ = db' := by
  rw [Call.run, hbody, Program.runDb, Program.run_map]
  exact Program.wp_run (fun _ => rfl) h

theorem createCase_run (a : CreateCaseArgs) :
    Call.run db ⟨.createCase a, env⟩ = db.adding (creationRows a env db) := by
  refine Call.run_eq rfl ?_
  rw [createCase_eq]
  rcases caseOwner_cases a env db with ⟨owner, howner⟩ | hconflict
  · have hrows : creationRows a env db = some (createdRows env (newCase a env owner)) := by
      simp only [creationRows, howner]
    refine Program.wp_bind (Program.wp_of_run ?_)
    rw [howner]
    exact Program.wp_add_bind (wp_commitRows hrows fun db' => wp_lookup_end db')
  · have hrows : creationRows a env db = none := by
      simp only [creationRows, hconflict]
    refine Program.wp_bind (Program.wp_of_run ?_)
    rw [hconflict, hrows]
    rfl

theorem createRiskDecision_run (a : CreateRiskDecisionArgs) :
    Call.run db ⟨.createRiskDecision a, env⟩ = db.adding (requestRows a env db) := by
  refine Call.run_eq (p := createRiskDecision a env) rfl ?_
  have hkept : requestRows a env db = none → db = db.adding (requestRows a env db) := by
    intro hnone
    rw [hnone]
    rfl
  unfold createRiskDecision
  split
  · next happrover =>
      refine Program.wp_ret.2 (hkept ?_)
      have hnot : ¬ (a.approver = none ∧ a.approverRole = none) := by tauto
      simp [requestRows, hnot]
  next happrover =>
  have hunapproved : a.approver = none ∧ a.approverRole = none := by tauto
  split
  · next hactor =>
      refine Program.wp_ret.2 (hkept ?_)
      simp [requestRows, hactor]
  next hactor =>
  rw [not_not] at hactor
  refine Program.wp_ofExcept_bind (fun e he => hkept ?_) fun given hgiven => ?_
  · simp [requestRows, he, Except.toOption]
  refine Program.wp_ofExcept_bind (fun e he => hkept ?_) fun expiresAt hexpires => ?_
  · simp [requestRows, hgiven, he, Except.toOption]
  refine Program.wp_ofExcept_bind (fun e he => hkept ?_) fun fields hfields => ?_
  · simp [requestRows, he, Except.toOption]
  refine Program.wp_lookup_bind (fun t ht hnone => ?_) fun t case ht hcase => ?_
  · obtain rfl : db = t := ht
    refine hkept ?_
    have hmissing : db.case? a.caseId = none := hnone
    simp [requestRows, hmissing]
  obtain rfl : db = t := ht
  have hfound : db.case? a.caseId = some case := hcase
  refine Program.wp_ofExcept_bind (fun e he => hkept ?_) fun scope hscope => ?_
  · simp [requestRows, he, Except.toOption]
  refine Program.wp_add_bind (wp_commitRows ?_ fun db' => ?_)
  · simp [requestRows, hunapproved, hactor, hgiven, hexpires, hfields, hfound, hscope,
      Except.toOption, Session.fresh]
  · refine Program.wp_lookup_bind (fun t ht _ => ht.symm) fun t d ht _ => ?_
    obtain rfl : db' = t := ht
    exact Program.wp_lookup_bind (fun t ht _ => ht.symm) fun t _ ht _ => Program.wp_ret.2 ht.symm

theorem verify_run_eq (a : VerifyArgs) :
    Call.run db ⟨.verify a, env⟩ = db.adding (verifyRows a env db) := by
  refine Call.run_eq (p := verify a env) rfl ?_
  have hkept : verifyRows a env db = none → db = db.adding (verifyRows a env db) := by
    intro hnone
    rw [hnone]
    rfl
  unfold verify
  refine Program.wp_lookup_bind (fun t ht hnone => ?_) fun t case ht hcase => ?_
  · obtain rfl : db = t := ht
    refine hkept ?_
    have hmissing : db.case? a.caseId = none := hnone
    simp [verifyRows, hmissing]
  obtain rfl : db = t := ht
  have hfound : db.case? a.caseId = some case := hcase
  split
  · next hstatus =>
      refine Program.wp_ret.2 (hkept ?_)
      simp [verifyRows, hfound, hstatus]
  next hstatus =>
  rw [not_not] at hstatus
  refine Program.wp_ofExcept_bind (fun e he => hkept ?_) fun coverage hcoverage => ?_
  · simp [verifyRows, he, Except.toOption]
  obtain ⟨canClose, reason⟩ := coverage
  refine Program.wp_add_bind (Program.wp_ofExcept_bind (fun e he => hkept ?_) fun fields hfields => ?_)
  · simp [verifyRows, he, Except.toOption]
  refine Program.wp_add_bind (wp_commitRows ?_ fun db' => ?_)
  · simp [verifyRows, hfound, hstatus, hcoverage, hfields, Except.toOption, Session.fresh]
  · exact Program.wp_lookup_bind (fun t ht _ => ht.symm) fun t _ ht _ => Program.wp_ret.2 ht.symm

end Operations

section Routes

variable [Python] [PythonInt] [IsoParser] [Driver]

/-! ## The calls of a request -/

/-- The case of a request, when it belongs to the organization and the principal has the capability. -/
def RouteCall.case? (r : RouteCall) (db : Db) (caseId capability : String) :
    Option RemediationCase := do
  let case ← (db.case? caseId).filter fun c => c.organizationId = r.orgId
  let _ ← (authorizeCapability r.principal capability).toOption
  return case

/-- The call of a request for a new case, when the checks of its route pass. -/
def RouteCall.createCase? (r : RouteCall) (body : RequestBody) : Option CaseOp := do
  let _ ← (requireOrganization r.orgId r.principal).toOption
  let _ ← (authorizeCapability r.principal "case:write").toOption
  let payload ← (readFields body >>= CaseCreateRequest.validate).toOption
  return .createCase (payload.args r.orgId)

def RouteCall.createRiskDecision? (r : RouteCall) (db : Db) (caseId : String) (body : RequestBody)
    (ifMatch : Option String) : Option CaseOp := do
  let _ ← (requireOrganization r.orgId r.principal).toOption
  let case ← r.case? db caseId "risk:request"
  let payload ← (readFields body >>= RiskDecisionRequest.validate).toOption
  let expected ← (parseIfMatch ifMatch).toOption
  if expected.any (· ≠ case.version) then none
  else some (.createRiskDecision (payload.args r caseId))

def RouteCall.submitVerification? (r : RouteCall) (db : Db) (caseId : String) (body : RequestBody) :
    Option CaseOp := do
  let _ ← (requireOrganization r.orgId r.principal).toOption
  let _ ← r.case? db caseId "verification:write"
  let members ← (readFields body).toOption
  let args ← (VerificationRequest.ofMembers members).args? r caseId
  return .verify args

/-- The call of a request that adds rows. -/
def CaseRequest.call? (r : RouteCall) (db : Db) : CaseRequest → Option CaseOp
  | .createCase body => r.createCase? body
  | .createRiskDecision caseId body ifMatch => r.createRiskDecision? db caseId body ifMatch
  | .submitVerification caseId body => r.submitVerification? db caseId body
  | _ => none

/-- The rows of a call that only adds rows: a verification that closes its case is none. -/
def CaseOp.additions (env : CallEnv) (db : Db) : CaseOp → Option (List Write)
  | .createCase a => creationRows a env db
  | .createRiskDecision a => requestRows a env db
  | .verify a => do
      let (canClose, _) ← (evaluateCoverage a.method a.coverage).toOption
      guard (canClose = false)
      verifyRows a env db
  | _ => none

/-- The rows that a request adds, when all checks of its route and of the service pass. -/
def CaseRequest.additions (r : RouteCall) (env : CallEnv) (db : Db) (request : CaseRequest) :
    Option (List Write) :=
  (request.call? r db).bind (CaseOp.additions env db)

variable {r : RouteCall} {env : CallEnv} {db : Db}

/-! ## What a request does -/

omit [PythonInt] [IsoParser] [Driver] in
/-- A call of the service is the last thing of a route that writes. -/
theorem attempt_runDb {α : Type} {p : Prog α} {wrap : α → Answer} {op : CaseOp}
    {handle : String → Problem} {k : α → Prog CaseReply}
    (hbody : (Call.mk op env).body = p.map wrap)
    (hk : ∀ a s, (k a).Wp Eq (fun _ _ => True) (fun _ t => t.db = Session.db s) s) :
    (attempt p handle >>= fun result => answer result k).runDb db = Call.run db ⟨op, env⟩ := by
  refine Program.wp_run (fun _ => rfl)
    (wp_attempt (Q := fun _ t => Session.db t = Call.run db ⟨op, env⟩)
      (wp_call hbody fun o t hdb _ => ⟨fun _ _ => hdb, fun a _ => ?_⟩))
  exact Program.wp_mono (fun _ _ ht => ht.trans hdb) (hk a t)

omit [PythonInt] [IsoParser] [Driver] in
/-- Of a request whose case is not found, or not for the principal, nothing is left. -/
theorem withCase_runDb (caseId capability : String) (k : RemediationCase → Prog CaseReply) :
    (withCase r caseId capability k).runDb db =
      ((r.case? db caseId capability).map fun case => (k case).runDb db).getD db := by
  unfold withCase RouteCall.case? Program.runDb
  rw [Program.run_select_bind]
  have hview : sessionView (Session.fresh db).executed (Session.fresh db).staged
      (Session.fresh db).db = db := rfl
  rw [hview]
  cases (db.case? caseId).filter fun c => decide (c.organizationId = r.orgId) with
  | none => rfl
  | some case =>
      cases authorizeCapability r.principal capability with
      | error e => rfl
      | ok p => rfl

omit [Python] [PythonInt] [IsoParser] [Driver] in
theorem withBody_runDb {α : Type} (body : Except BodyFault α) (k : α → Prog CaseReply) :
    (withBody body k).runDb db = (body.toOption.map fun a => (k a).runDb db).getD db := by
  cases body with
  | ok a => rfl
  | error fault => cases fault <;> rfl

omit [Python] [PythonInt] [IsoParser] [Driver] in
theorem authorized_runDb (check : Except AuthorizationError Principal) (k : Prog CaseReply) :
    (authorized check k).runDb db = (check.toOption.map fun _ => k.runDb db).getD db := by
  cases check <;> rfl

omit [Python] [PythonInt] [IsoParser] [Driver] in
/-- An answer that is read back writes nothing. -/
theorem readBack_wp {α : Type} {g : Db → Option α} {e : PyError} {f : α → Prog CaseReply}
    (hf : ∀ a s, (f a).Wp Eq (fun _ _ => True) (fun _ t => t.db = Session.db s) s) (s : Session Db) :
    (Program.lookup g e >>= f).Wp Eq (fun _ _ => True) (fun _ t => t.db = s.db) s :=
  Program.wp_lookup_bind (fun _ ht _ => ht.symm) fun t a ht _ => by
    obtain rfl : s.db = t := ht
    exact hf a s

/-- What is there once the call, if there is one, has run. -/
def Db.running (db : Db) (env : CallEnv) (op : Option CaseOp) : Db :=
  (op.map fun op => Call.run db ⟨op, env⟩).getD db

omit [PythonInt] [IsoParser] [Driver] in
theorem createCaseRoute_runDb (body : RequestBody) :
    (authorized (requireOrganization r.orgId r.principal) (createCaseRoute r body env)).runDb db =
      db.running env (r.createCase? body) := by
  unfold RouteCall.createCase?
  rw [authorized_runDb]
  cases requireOrganization r.orgId r.principal with
  | error e => rfl
  | ok p =>
      show (createCaseRoute r body env).runDb db = _
      unfold createCaseRoute
      rw [authorized_runDb]
      cases authorizeCapability r.principal "case:write" with
      | error e => rfl
      | ok p =>
          show (withBody _ _).runDb db = _
          rw [withBody_runDb]
          cases readFields body >>= CaseCreateRequest.validate with
          | error fault => rfl
          | ok payload =>
              show (((createCase (payload.args r.orgId) env).map CaseReply.case).rescue _).runDb db
                = Call.run db ⟨.createCase (payload.args r.orgId), env⟩
              have hbody : (Call.mk (.createCase (payload.args r.orgId)) env).body
                  = (createCase (payload.args r.orgId) env).map Answer.case := rfl
              unfold Call.run Program.runDb
              rw [hbody, Program.run_rescue, Program.run_map, Program.run_map]

omit [Driver] in
theorem createRiskDecisionRoute_runDb (caseId : String) (body : RequestBody)
    (ifMatch : Option String) :
    (authorized (requireOrganization r.orgId r.principal)
      (createRiskDecisionRoute r caseId body ifMatch env)).runDb db =
        db.running env (r.createRiskDecision? db caseId body ifMatch) := by
  unfold RouteCall.createRiskDecision?
  rw [authorized_runDb]
  cases requireOrganization r.orgId r.principal with
  | error e => rfl
  | ok p =>
      show (createRiskDecisionRoute r caseId body ifMatch env).runDb db = _
      unfold createRiskDecisionRoute
      rw [withCase_runDb]
      cases r.case? db caseId "risk:request" with
      | none => rfl
      | some case =>
          show (withBody _ _).runDb db = _
          rw [withBody_runDb]
          cases readFields body >>= RiskDecisionRequest.validate with
          | error fault => rfl
          | ok payload =>
              show (Program.ofExcept (parseIfMatch ifMatch) >>= fun expected => _ :
                Prog CaseReply).runDb db = _
              cases parseIfMatch ifMatch with
              | error e => rfl
              | ok expected =>
                  rw [Program.ofExcept_ok_bind]
                  have hbody : (Call.mk (.createRiskDecision (payload.args r caseId)) env).body
                      = (createRiskDecision (payload.args r caseId) env).map Answer.decision := rfl
                  show (if expected.any (fun v => decide (v ≠ case.version)) = true then
                      (_ : Prog CaseReply) else _).runDb db =
                    db.running env (if expected.any (fun v => decide (v ≠ case.version)) = true then
                      none else some (.createRiskDecision (payload.args r caseId)))
                  split
                  · rfl
                  · refine attempt_runDb hbody fun d s => ?_
                    exact readBack_wp (fun after s => Program.wp_ret.2 rfl) s

omit [PythonInt] [IsoParser] in
theorem submitVerificationRoute_runDb (caseId : String) (body : RequestBody) :
    (authorized (requireOrganization r.orgId r.principal)
      (submitVerificationRoute r caseId body env)).runDb db =
        db.running env (r.submitVerification? db caseId body) := by
  unfold RouteCall.submitVerification?
  rw [authorized_runDb]
  cases requireOrganization r.orgId r.principal with
  | error e => rfl
  | ok p =>
      show (submitVerificationRoute r caseId body env).runDb db = _
      unfold submitVerificationRoute
      rw [withCase_runDb]
      cases r.case? db caseId "verification:write" with
      | none => rfl
      | some case =>
          show (withBody _ _).runDb db = _
          rw [withBody_runDb]
          cases readFields body with
          | error fault => rfl
          | ok members =>
              simp only [Except.toOption, Option.map_some, Option.getD_some, Option.bind_eq_bind,
                Option.bind_some]
              cases (VerificationRequest.ofMembers members).args? r caseId with
              | none =>
                  refine Program.wp_run (fun _ => rfl) (Q := fun _ t => Session.db t = db)
                    (wp_attempt (refusedVerification_wp _ _ fun o ho => ⟨fun _ _ => rfl, ?_⟩))
                  rintro v rfl
                  cases ho
              | some args =>
                  have hbody : (Call.mk (.verify args) env).body
                      = (verify args env).map Answer.verification := rfl
                  refine attempt_runDb hbody fun v s => ?_
                  refine readBack_wp (fun after s => ?_) s
                  exact Program.wp_ofExcept_bind (fun _ _ => rfl) fun _ _ => Program.wp_ret.2 rfl

/-- The request is one of those that add rows. -/
def CaseRequest.adds : CaseRequest → Bool
  | .createCase _ => true
  | .createRiskDecision _ _ _ => true
  | .submitVerification _ _ => true
  | _ => false

/-- **A request that adds rows** makes its call when the checks of its route pass, and does nothing
    else. -/
theorem handle_runDb_of_adds [RowOrder] {request : CaseRequest} (hadds : request.adds = true) :
    (request.handle r env).runDb db = db.running env (request.call? r db) := by
  cases request with
  | createCase body => exact createCaseRoute_runDb body
  | createRiskDecision caseId body ifMatch => exact createRiskDecisionRoute_runDb caseId body ifMatch
  | submitVerification caseId body => exact submitVerificationRoute_runDb caseId body
  | _ => cases hadds

/-! ## The calls, by their requests -/

omit [PythonInt] [IsoParser] [Driver] in
theorem createCase?_eq_some {body : RequestBody} {op : CaseOp} (h : r.createCase? body = some op) :
    ∃ payload : CaseCreateRequest, op = .createCase (payload.args r.orgId) := by
  simp only [RouteCall.createCase?, Option.bind_eq_bind, Option.bind_eq_some_iff] at h
  obtain ⟨-, -, -, -, payload, -, h⟩ := h
  exact ⟨payload, (Option.some.inj h).symm⟩

omit [Driver] in
theorem createRiskDecision?_eq_some {caseId : String} {body : RequestBody} {ifMatch : Option String}
    {op : CaseOp} (h : r.createRiskDecision? db caseId body ifMatch = some op) :
    ∃ payload : RiskDecisionRequest, op = .createRiskDecision (payload.args r caseId) := by
  simp only [RouteCall.createRiskDecision?, Option.bind_eq_bind, Option.bind_eq_some_iff] at h
  obtain ⟨-, -, case, -, payload, -, expected, -, h⟩ := h
  split at h
  · cases h
  · exact ⟨payload, (Option.some.inj h).symm⟩

omit [PythonInt] [IsoParser] in
/-- What a verification is about, and its evidence, come from the request. -/
theorem submitVerification?_eq_some {caseId : String} {body : RequestBody} {op : CaseOp}
    (h : r.submitVerification? db caseId body = some op) : ∃ members args,
      readFields body = .ok members ∧
      (VerificationRequest.ofMembers members).args? r caseId = some args ∧ op = .verify args := by
  simp only [RouteCall.submitVerification?, Option.bind_eq_bind, Option.bind_eq_some_iff] at h
  obtain ⟨-, -, -, -, members, hmembers, args, hargs, h⟩ := h
  cases hbody : readFields body with
  | error e =>
      rw [hbody] at hmembers
      cases hmembers
  | ok found =>
      rw [hbody] at hmembers
      obtain rfl := Option.some.inj hmembers
      exact ⟨_, args, rfl, hargs, (Option.some.inj h).symm⟩

omit [Python] [PythonInt] [IsoParser] in
theorem args?_eq_some {v : VerificationRequest} {caseId : String} {args : VerifyArgs}
    (h : v.args? r caseId = some args) : args.caseId = caseId ∧ args.coverage = v.coverage ∧
      Driver.stored (some 64) v.method = some args.method := by
  simp only [VerificationRequest.args?, Option.bind_eq_bind, Option.bind_eq_some_iff] at h
  obtain ⟨method, hmethod, asserted, -, h⟩ := h
  obtain rfl := Option.some.inj h
  exact ⟨rfl, rfl, hmethod⟩

/-! ## Requests that are spent -/

/-- Processing the request, for whomever and whenever, leaves the rows as they are. -/
def CaseRequest.Spent [RowOrder] (request : CaseRequest) (db : Db) : Prop :=
  ∀ (r : RouteCall) (env : CallEnv), (request.handle r env).runDb db = db

omit [Python] [PythonInt] [IsoParser] [Driver] in
theorem allowedTransitions_irrefl (s : CaseStatus) : s ∉ allowedTransitions s := by
  cases s <;> decide

omit [Python] [PythonInt] [IsoParser] [Driver] in
theorem CaseStatus.eq_of_value {s t : CaseStatus} (h : s.value = t.value) : s = t := by
  cases s <;> cases t <;> first | rfl | simp [CaseStatus.value] at h

omit [PythonInt] [IsoParser] [Driver] in
/-- A case that does not await its verification takes none. -/
theorem verify_run_of_status {a : VerifyArgs} {case : RemediationCase}
    (hcase : db.case? a.caseId = some case) (hstatus : case.status ≠ .awaitingVerification) :
    Call.run db ⟨.verify a, env⟩ = db := by
  rw [verify_run_eq]
  simp [verifyRows, hcase, hstatus, Db.adding]

/-- A closed case takes no other verification. -/
theorem spent_submitVerification [RowOrder] {caseId : String} {body : RequestBody}
    {case : RemediationCase} (hcase : db.case? caseId = some case)
    (hstatus : case.status ≠ .awaitingVerification) :
    (CaseRequest.submitVerification caseId body).Spent db := by
  intro r env
  rw [handle_runDb_of_adds rfl]
  cases hcall : (CaseRequest.submitVerification caseId body).call? r db with
  | none => rfl
  | some op =>
      obtain ⟨members, args, -, hargs, rfl⟩ := submitVerification?_eq_some hcall
      obtain ⟨rfl, -, -⟩ := args?_eq_some hargs
      exact verify_run_of_status hcase hstatus

/-- A transition to the status that the case has by then is refused. -/
theorem spent_transition [RowOrder] {caseId : String} {body : RequestBody} {ifMatch : Option String}
    {payload : TransitionRequest} {case : RemediationCase}
    (hvalid : readFields body >>= TransitionRequest.validate = .ok payload)
    (hcase : db.case? caseId = some case) (hstatus : case.status.value = payload.target) :
    (CaseRequest.transition caseId body ifMatch).Spent db := by
  intro r env
  have hdispatched := dispatched (.transition caseId body ifMatch) r env db
  generalize ((CaseRequest.transition caseId body ifMatch).handle r env).runDb db = db'
    at hdispatched ⊢
  cases hdispatched with
  | kept => rfl
  | called op o member issues _ =>
      cases issues with
      | transition _ _ _ found other expected reaches valid version =>
          obtain rfl := Except.ok.inj (hvalid.symm.trans valid)
          have hstep := Call.run_step db ⟨.transition (payload.args r caseId expected), env⟩
          generalize Call.run db ⟨.transition (payload.args r caseId expected), env⟩ = db'' at hstep ⊢
          cases hstep with
          | quiet => rfl
          | transitioned _ _ case' next target fields _ found' edge target_eq version' fields_eq moves h =>
              obtain rfl := Option.some.inj (hcase.symm.trans found')
              obtain rfl := CaseStatus.eq_of_value (target_eq.trans hstatus.symm)
              exact absurd edge (allowedTransitions_irrefl _)

/-- A decision that is no longer pending is not decided again. -/
theorem spent_approveRiskDecision [RowOrder] {caseId decisionId : String} {body : RequestBody}
    {d : RiskDecision} (hd : db.decision? decisionId = some d) (hstatus : d.status ≠ .pendingApproval) :
    (CaseRequest.approveRiskDecision caseId decisionId body).Spent db := by
  intro r env
  have hdispatched := dispatched (.approveRiskDecision caseId decisionId body) r env db
  generalize ((CaseRequest.approveRiskDecision caseId decisionId body).handle r env).runDb db = db'
    at hdispatched ⊢
  cases hdispatched with
  | kept => rfl
  | called op o member issues _ =>
      cases issues with
      | approveRiskDecision _ _ _ case d' payload reaches found about valid =>
          generalize hargs : approvalArgs r.principal decisionId (.str payload.outcome) payload.reason
            r.requestId r.correlationId = args
          have hid : args.decisionId = decisionId := by
            rw [← hargs]
            rfl
          have hstep := Call.run_step db ⟨.approveRiskDecision args, env⟩
          generalize Call.run db ⟨.approveRiskDecision args, env⟩ = db'' at hstep ⊢
          have hpending : ∀ {stored canonical : RiskDecision}, db.decision? args.decisionId = some stored →
              canonical = canonicalizeRiskDecisionExpiry stored →
              canonical.status = .pendingApproval → False := by
            rintro stored _ hstored rfl hstill
            rw [hid] at hstored
            obtain rfl := Option.some.inj (hd.symm.trans hstored)
            exact hstatus hstill
          cases hstep with
          | quiet => rfl
          | approved _ _ stored d case next fields role _ found canonical guarded =>
              exact (hpending found canonical guarded.pending).elim
          | rejected _ _ stored d case fields role _ found canonical guarded =>
              exact (hpending found canonical guarded.pending).elim

/-- **A request that adds no rows** leaves them as they are, or is spent by then. -/
theorem kept_or_spent [RowOrder] (request : CaseRequest) (h : request.additions r env db = none) :
    (request.handle r env).runDb db = db ∨ request.Spent ((request.handle r env).runDb db) := by
  by_cases hadds : request.adds = true
  · rw [handle_runDb_of_adds hadds]
    unfold CaseRequest.additions at h
    cases hcall : request.call? r db with
    | none => exact Or.inl rfl
    | some op =>
        rw [hcall, Option.bind_some] at h
        show Call.run db ⟨op, env⟩ = db ∨ request.Spent (Call.run db ⟨op, env⟩)
        cases request with
        | createCase body =>
            obtain ⟨payload, rfl⟩ := createCase?_eq_some hcall
            left
            rw [createCase_run, show creationRows (payload.args r.orgId) env db = none from h]
            rfl
        | createRiskDecision caseId body ifMatch =>
            obtain ⟨payload, rfl⟩ := createRiskDecision?_eq_some hcall
            left
            rw [createRiskDecision_run, show requestRows (payload.args r caseId) env db = none from h]
            rfl
        | submitVerification caseId body =>
            obtain ⟨members, args, -, hargs, rfl⟩ := submitVerification?_eq_some hcall
            obtain ⟨rfl, -, -⟩ := args?_eq_some hargs
            have hrun : Call.run db ⟨.verify args, env⟩ = db.adding (verifyRows args env db) :=
              verify_run_eq args
            have hstep := Call.run_step db ⟨.verify args, env⟩
            generalize Call.run db ⟨.verify args, env⟩ = db' at hrun hstep ⊢
            cases hstep with
            | quiet => exact Or.inl rfl
            | verified _ _ case next reason fields _ found awaiting coverage fields_eq moves h =>
                right
                have hcase : db'.case? args.caseId = some next := by
                  rw [h.cases_eq, Function.update_self]
                refine spent_submitVerification hcase ?_
                rw [moves.status]
                simp
            | unverified _ _ case reason fields _ found awaiting coverage hbecomes =>
                -- it does not close the case, so its rows are missing
                left
                have hrows : verifyRows args env db = none := by
                  simpa [CaseOp.additions, coverage, Except.toOption] using h
                rw [hrun, hrows]
                rfl
        | _ => cases hadds
  · have hdispatched := dispatched request r env db
    generalize (request.handle r env).runDb db = db' at hdispatched ⊢
    cases hdispatched with
    | kept => exact Or.inl rfl
    | called op o member issues _ =>
        have hstep := Call.run_step db ⟨op, env⟩
        generalize Call.run db ⟨op, env⟩ = db'' at hstep ⊢
        cases issues with
        | createCase => exact absurd rfl hadds
        | createRiskDecision => exact absurd rfl hadds
        | submitVerification => exact absurd rfl hadds
        | transition caseId body ifMatch case payload expected reaches valid version =>
            cases hstep with
            | quiet => exact Or.inl rfl
            | transitioned _ _ case' next target fields _ found edge target_eq version' fields_eq moves
                hbecomes =>
                right
                have hcase : db''.case? caseId = some next := by
                  rw [hbecomes.cases_eq]
                  exact Function.update_self ..
                refine spent_transition valid hcase ?_
                rw [moves.status]
                exact target_eq
        | approveRiskDecision caseId decisionId body case d payload reaches found about valid =>
            generalize hargs : approvalArgs r.principal decisionId (.str payload.outcome) payload.reason
              r.requestId r.correlationId = args at hstep
            have hid : args.decisionId = decisionId := by
              rw [← hargs]
              rfl
            cases hstep with
            | quiet => exact Or.inl rfl
            | approved _ _ stored d case next fields role _ found canonical guarded foundCase valid edge
                moves hbecomes =>
                right
                refine spent_approveRiskDecision (d := decidedDecision args env stored .approve role) ?_
                  (by simp [decidedDecision, ApprovalOutcome.status])
                rw [hbecomes.decisions_eq, hid, Function.update_self]
            | rejected _ _ stored d case fields role _ found canonical guarded hbecomes =>
                right
                refine spent_approveRiskDecision (d := decidedDecision args env stored .reject role) ?_
                  (by simp [decidedDecision, ApprovalOutcome.status])
                rw [hbecomes.decisions_eq, hid, Function.update_self]

/-! ## Requests that add rows twice -/

omit [PythonInt] [IsoParser] [Driver] in
theorem CaseOp.run_of_additions {op : CaseOp} {ws : List Write}
    (h : op.additions env db = some ws) :
    Call.run db ⟨op, env⟩ = (Store.flush ws db).getD db := by
  cases op with
  | createCase a => rw [createCase_run, show creationRows a env db = some ws from h]; rfl
  | createRiskDecision a => rw [createRiskDecision_run, show requestRows a env db = some ws from h]; rfl
  | verify a =>
      simp only [CaseOp.additions, Option.bind_eq_bind, Option.bind_eq_some_iff] at h
      obtain ⟨-, -, -, -, hrows⟩ := h
      rw [verify_run_eq, hrows]
      rfl
  | _ => cases h

/-- What a request adds is there afterwards, unless the database refuses it. -/
theorem runDb_of_additions [RowOrder] {request : CaseRequest} {ws : List Write}
    (h : request.additions r env db = some ws) :
    (request.handle r env).runDb db = (Store.flush ws db).getD db := by
  obtain ⟨op, hcall, hop⟩ := Option.bind_eq_some_iff.1 h
  have hadds : request.adds = true := by
    cases request <;> first | rfl | cases hcall
  rw [handle_runDb_of_adds hadds, hcall, ← CaseOp.run_of_additions hop]
  rfl

omit [PythonInt] [IsoParser] [Driver] in
theorem requestRows_eq_some {a : CreateRiskDecisionArgs} {ws : List Write}
    (h : requestRows a env db = some ws) :
    ∃ d audit outbox, ws = [.insertDecision d, .insertAudit audit, .insertOutbox outbox] := by
  simp only [requestRows, Option.bind_eq_bind, Option.bind_eq_some_iff] at h
  obtain ⟨-, -, -, -, given, -, expiresAt, -, fields, -, case, -, scope, -, h⟩ := h
  exact ⟨_, _, _, (Option.some.inj h).symm⟩

omit [PythonInt] [IsoParser] [Driver] in
/-- A verification that does not close its case adds its own rows. -/
theorem verify_additions_eq_some {a : VerifyArgs} {ws : List Write}
    (h : (CaseOp.verify a).additions env db = some ws) :
    (∃ reason, evaluateCoverage a.method a.coverage = .ok (false, reason)) ∧
      ∃ v audit outbox, ws = [.insertVerification v, .insertAudit audit, .insertOutbox outbox] := by
  simp only [CaseOp.additions, Option.bind_eq_bind, Option.bind_eq_some_iff] at h
  obtain ⟨⟨canClose, reason⟩, hcoverage, u, hclose, hrows⟩ := h
  have hopen : canClose = false := by
    by_contra hne
    simp [guard, hne] at hclose
  subst hopen
  simp only [verifyRows, Option.bind_eq_bind, Option.bind_eq_some_iff] at hrows
  obtain ⟨case, -, -, -, ⟨canClose', reason'⟩, hcoverage', fields, -, hrows⟩ := hrows
  obtain ⟨rfl, rfl⟩ := Prod.mk.inj (Option.some.inj (hcoverage'.symm.trans hcoverage))
  refine ⟨⟨reason', ?_⟩, _, _, _, (Option.some.inj hrows).symm⟩
  cases heval : evaluateCoverage a.method a.coverage with
  | error e =>
      rw [heval] at hcoverage'
      cases hcoverage'
  | ok x =>
      rw [heval] at hcoverage'
      rw [← Option.some.inj hcoverage']

omit [PythonInt] [IsoParser] [Driver] in
/-- Every request that adds rows adds one event. -/
theorem CaseOp.outbox_of_additions {op : CaseOp} {ws : List Write}
    (h : op.additions env db = some ws) : (ws.filterMap Write.outbox?).length = 1 := by
  cases op with
  | createCase a =>
      have hrows : creationRows a env db = some ws := h
      unfold creationRows at hrows
      split at hrows
      · next owner _ =>
          obtain rfl := Option.some.inj hrows
          unfold createdRows
          cases (newCase a env owner).ownershipEscalated <;> rfl
      · cases hrows
  | createRiskDecision a =>
      obtain ⟨d, audit, outbox, rfl⟩ := requestRows_eq_some h
      rfl
  | verify a =>
      obtain ⟨-, v, audit, outbox, rfl⟩ := verify_additions_eq_some h
      rfl
  | _ => cases h

omit [PythonInt] [IsoParser] [Driver] in
theorem creationRows_congr {a : CreateCaseArgs} {db' : Db} (hexposures : db'.exposures = db.exposures)
    (hassets : db'.assets = db.assets) (hservices : db'.services = db.services) :
    creationRows a env db' = creationRows a env db := by
  have htenant : SameTenant a.organizationId db db' :=
    { exposures := fun e _ => by rw [hexposures]
      assets := fun e _ => by rw [hassets]
      services := fun e _ => by rw [hservices] }
  have howner : ((caseOwner { a with exposures := a.exposures } env).run (Session.fresh db')).1 =
      ((caseOwner a env).run (Session.fresh db)).1 :=
    caseOwner_congr (fun id => Iff.rfl) htenant env
  unfold creationRows
  rw [howner]

omit [PythonInt] [IsoParser] [Driver] in
/-- The other requests look at their case alone. -/
theorem CaseOp.additions_congr {op : CaseOp} {db' : Db} (hcase : db'.case? = db.case?)
    (hop : ∀ a, op ≠ .createCase a) : op.additions env db' = op.additions env db := by
  cases op with
  | createCase a => exact absurd rfl (hop a)
  | createRiskDecision a =>
      show requestRows a env db' = requestRows a env db
      simp only [requestRows, hcase]
  | verify a => simp only [CaseOp.additions, verifyRows, hcase]
  | _ => rfl

theorem CaseRequest.call?_congr {request : CaseRequest} {db' : Db} (hcase : db'.case? = db.case?) :
    request.call? r db' = request.call? r db := by
  cases request with
  | createRiskDecision caseId body ifMatch =>
      show r.createRiskDecision? db' caseId body ifMatch = r.createRiskDecision? db caseId body ifMatch
      simp only [RouteCall.createRiskDecision?, RouteCall.case?, hcase]
  | submitVerification caseId body =>
      show r.submitVerification? db' caseId body = r.submitVerification? db caseId body
      simp only [RouteCall.submitVerification?, RouteCall.case?, hcase]
  | _ => rfl

omit [PythonInt] [IsoParser] [Driver] in
/-- The rows of the other requests change no case. -/
theorem CaseOp.case?_of_additions {op : CaseOp} {db' : Db} {ws : List Write}
    (h : op.additions env db = some ws) (hflush : Store.flush ws db = some db')
    (hop : ∀ a, op ≠ .createCase a) : db'.case? = db.case? := by
  have heffect := (flush_effect hflush).case?
  cases op with
  | createCase a => exact absurd rfl (hop a)
  | createRiskDecision a =>
      obtain ⟨d, audit, outbox, rfl⟩ := requestRows_eq_some h
      exact funext heffect
  | verify a =>
      obtain ⟨-, v, audit, outbox, rfl⟩ := verify_additions_eq_some h
      exact funext heffect
  | _ => cases h

/-- What a request adds does not depend on what it has added before. -/
theorem additions_flush {request : CaseRequest} {r' : RouteCall} {env' : CallEnv} {db' : Db}
    {ws : List Write} (h : request.additions r env db = some ws)
    (hflush : Store.flush ws db = some db') :
    request.additions r' env' db' = request.additions r' env' db := by
  obtain ⟨op, hcall, hop⟩ := Option.bind_eq_some_iff.1 h
  unfold CaseRequest.additions
  by_cases hcreate : ∃ body, request = .createCase body
  · obtain ⟨body, rfl⟩ := hcreate
    obtain ⟨hexposures, hassets, hservices⟩ := flush_inventory hflush
    show (r'.createCase? body).bind _ = (r'.createCase? body).bind _
    cases hcall' : r'.createCase? body with
    | none => rw [Option.bind_none, Option.bind_none]
    | some op' =>
        obtain ⟨payload, rfl⟩ := createCase?_eq_some hcall'
        rw [Option.bind_some, Option.bind_some]
        show creationRows (payload.args r'.orgId) env' db' = creationRows (payload.args r'.orgId) env' db
        exact creationRows_congr hexposures hassets hservices
  · -- the requests that are about a case that is there
    have hother : ∀ {r : RouteCall} {op : CaseOp}, request.call? r db = some op →
        ∀ a, op ≠ .createCase a := by
      intro r op hcall a
      cases request with
      | createCase body => exact absurd ⟨body, rfl⟩ hcreate
      | createRiskDecision caseId body ifMatch =>
          obtain ⟨payload, rfl⟩ := createRiskDecision?_eq_some hcall
          simp
      | submitVerification caseId body =>
          obtain ⟨members, args, -, -, rfl⟩ := submitVerification?_eq_some hcall
          simp
      | _ => cases hcall
    have hcase := CaseOp.case?_of_additions hop hflush (hother hcall)
    rw [CaseRequest.call?_congr hcase]
    cases hcall' : request.call? r' db with
    | none => rw [Option.bind_none, Option.bind_none]
    | some op' =>
        rw [Option.bind_some, Option.bind_some]
        exact CaseOp.additions_congr hcase (hother hcall')

/-- If a request can add rows, it does nothing but add rows. -/
theorem runDb_of_additions_eq_none [RowOrder] {request : CaseRequest} {r' : RouteCall}
    {env' : CallEnv} {db' : Db} {ws : List Write} (h : request.additions r env db = some ws)
    (hnone : request.additions r' env' db' = none) : (request.handle r' env').runDb db' = db' := by
  rcases kept_or_spent request hnone with hkept | hspent
  · exact hkept
  -- only a verification may add rows at one time and be spent by its own call at another
  obtain ⟨op, hcall, hop⟩ := Option.bind_eq_some_iff.1 h
  cases request with
  | submitVerification caseId body =>
      obtain ⟨members, args, hmembers, hargs, rfl⟩ := submitVerification?_eq_some hcall
      obtain ⟨⟨reason, hcoverage⟩, -⟩ := verify_additions_eq_some hop
      obtain ⟨-, hevidence, hmethod⟩ := args?_eq_some hargs
      rw [handle_runDb_of_adds rfl]
      unfold CaseRequest.additions at hnone
      cases hcall' : (CaseRequest.submitVerification caseId body).call? r' db' with
      | none => rfl
      | some op' =>
          obtain ⟨members', args', hmembers', hargs', rfl⟩ := submitVerification?_eq_some hcall'
          obtain rfl := Except.ok.inj (hmembers.symm.trans hmembers')
          obtain ⟨-, hevidence', hmethod'⟩ := args?_eq_some hargs'
          have hsame : evaluateCoverage args'.method args'.coverage = .ok (false, reason) := by
            rw [← Option.some.inj (hmethod.symm.trans hmethod'), hevidence', ← hevidence, hcoverage]
          rw [hcall', Option.bind_some] at hnone
          have hrows : verifyRows args' env' db' = none := by
            simpa [CaseOp.additions, hsame, Except.toOption] using hnone
          show Call.run db' ⟨.verify args', env'⟩ = db'
          rw [verify_run_eq, hrows]
          rfl
  | createCase body =>
      rw [handle_runDb_of_adds rfl]
      unfold CaseRequest.additions at hnone
      cases hcall' : (CaseRequest.createCase body).call? r' db' with
      | none => rfl
      | some op' =>
          obtain ⟨payload, rfl⟩ := createCase?_eq_some hcall'
          rw [hcall', Option.bind_some] at hnone
          show Call.run db' ⟨.createCase (payload.args r'.orgId), env'⟩ = db'
          rw [createCase_run, show creationRows (payload.args r'.orgId) env' db' = none from hnone]
          rfl
  | createRiskDecision caseId body ifMatch =>
      rw [handle_runDb_of_adds rfl]
      unfold CaseRequest.additions at hnone
      cases hcall' : (CaseRequest.createRiskDecision caseId body ifMatch).call? r' db' with
      | none => rfl
      | some op' =>
          obtain ⟨payload, rfl⟩ := createRiskDecision?_eq_some hcall'
          rw [hcall', Option.bind_some] at hnone
          show Call.run db' ⟨.createRiskDecision (payload.args r' caseId), env'⟩ = db'
          rw [createRiskDecision_run,
            show requestRows (payload.args r' caseId) env' db' = none from hnone]
          rfl
  | _ => cases hcall

/-- Both times the request passes the checks, and the database takes the rows of both. -/
def CaseRequest.TakenTwice (request : CaseRequest) (r r' : RouteCall) (env env' : CallEnv) (db : Db) :
    Prop :=
  ∃ ws ws', request.additions r env db = some ws ∧ request.additions r' env' db = some ws' ∧
    (Store.flush (ws ++ ws') db).isSome = true

theorem CaseRequest.takenTwice_of_isSome {request : CaseRequest} {r' : RouteCall} {env' : CallEnv}
    (h : ((request.additions r env db).bind fun ws => (request.additions r' env' db).bind fun ws' =>
      Store.flush (ws ++ ws') db).isSome = true) : request.TakenTwice r r' env env' db := by
  obtain ⟨db', hdb'⟩ := Option.isSome_iff_exists.1 h
  simp only [Option.bind_eq_some_iff] at hdb'
  obtain ⟨ws, hws, ws', hws', hflush⟩ := hdb'
  exact ⟨ws, ws', hws, hws', by rw [hflush]; rfl⟩

/-- A request that is not taken twice is processed once, or not at all, as far as the rows show. -/
theorem handle_absorbed [RowOrder] {request : CaseRequest} {r' : RouteCall} {env' : CallEnv}
    (h : ¬ request.TakenTwice r r' env env' db) :
    (request.handle r' env').runDb ((request.handle r env).runDb db) =
        (request.handle r env).runDb db ∨
      (request.handle r' env').runDb ((request.handle r env).runDb db) =
        (request.handle r' env').runDb db := by
  cases hws : request.additions r env db with
  | none =>
      rcases kept_or_spent request hws with hkept | hspent
      · right
        rw [hkept]
      · left
        exact hspent r' env'
  | some ws =>
      rw [runDb_of_additions hws]
      cases hflush : Store.flush ws db with
      | none => exact Or.inr rfl
      | some db' =>
          left
          show (request.handle r' env').runDb db' = db'
          have hsame : request.additions r' env' db' = request.additions r' env' db :=
            additions_flush hws hflush
          cases hws' : request.additions r' env' db with
          | none => exact runDb_of_additions_eq_none hws (hsame.trans hws')
          | some ws' =>
              rw [runDb_of_additions (hsame.trans hws')]
              cases hflush' : Store.flush ws' db' with
              | none => rfl
              | some db'' =>
                  refine absurd ⟨ws, ws', hws, hws', ?_⟩ h
                  rw [Store.flush_append, hflush, Option.bind_some, hflush']
                  rfl

/-- The events that have been recorded. -/
def Db.events (db : Db) : ℕ := db.outboxEvents.rows.length

omit [PythonInt] [IsoParser] [Driver] in
theorem events_flush {op : CaseOp} {db₀ db' : Db} {ws : List Write}
    (h : op.additions env db₀ = some ws) (hflush : Store.flush ws db = some db') :
    db'.events = db.events + 1 := by
  unfold Db.events
  rw [(flush_effect hflush).outboxEvents, List.length_append, CaseOp.outbox_of_additions h]

/-- A request that is taken twice records two events. -/
theorem events_of_takenTwice [RowOrder] {request : CaseRequest} {r' : RouteCall} {env' : CallEnv}
    (h : request.TakenTwice r r' env env' db) :
    ((request.handle r' env').runDb ((request.handle r env).runDb db)).events = db.events + 2 := by
  obtain ⟨ws, ws', hws, hws', hboth⟩ := h
  obtain ⟨op, -, hop⟩ := Option.bind_eq_some_iff.1 hws
  obtain ⟨op', -, hop'⟩ := Option.bind_eq_some_iff.1 hws'
  rw [Store.flush_append] at hboth
  rw [runDb_of_additions hws]
  cases hflush : Store.flush ws db with
  | none =>
      rw [hflush] at hboth
      cases hboth
  | some db' =>
      rw [hflush, Option.bind_some] at hboth
      show ((request.handle r' env').runDb db').events = db.events + 2
      rw [runDb_of_additions ((additions_flush hws hflush).trans hws')]
      cases hflush' : Store.flush ws' db' with
      | none =>
          rw [hflush'] at hboth
          cases hboth
      | some db'' =>
          show db''.events = db.events + 2
          rw [events_flush hop' hflush', events_flush hop hflush]

/-- **A request records at most one event.** -/
theorem events_handle_le [RowOrder] (request : CaseRequest) :
    ((request.handle r env).runDb db).events ≤ db.events + 1 := by
  have hdispatched := dispatched request r env db
  generalize (request.handle r env).runDb db = db' at hdispatched ⊢
  cases hdispatched with
  | kept => omega
  | called op o member issues _ =>
      have hstep := Call.run_step db ⟨op, env⟩
      generalize Call.run db ⟨op, env⟩ = db'' at hstep ⊢
      have hone : ∀ {cases' decisions vs as o}, db.Becomes db'' cases' decisions vs as [o] →
          db''.events ≤ db.events + 1 := by
        intro cases' decisions vs as o h
        unfold Db.events
        rw [h.outbox_eq, List.length_append]
        rfl
      cases issues with
      | createCase =>
          cases hstep with
          | quiet => omega
          | created _ _ owner _ fresh h => exact hone h
      | transition =>
          cases hstep with
          | quiet => omega
          | transitioned _ _ case next target fields _ found edge target_eq version fields_eq moves h =>
              exact hone h
      | createRiskDecision =>
          cases hstep with
          | quiet => omega
          | requested _ _ case scope expiresAt fields _ found scope_eq fresh h => exact hone h
      | approveRiskDecision =>
          generalize approvalArgs _ _ _ _ _ _ = args at hstep
          cases hstep with
          | quiet => omega
          | approved _ _ stored d case next fields role _ found canonical guarded foundCase valid edge
              moves h => exact hone h
          | rejected _ _ stored d case fields role _ found canonical guarded h => exact hone h
      | submitVerification =>
          cases hstep with
          | quiet => omega
          | verified _ _ case next reason fields _ found awaiting coverage fields_eq moves h =>
              exact hone h
          | unverified _ _ case reason fields _ found awaiting coverage h => exact hone h

end Routes

end VulnOpsHub
