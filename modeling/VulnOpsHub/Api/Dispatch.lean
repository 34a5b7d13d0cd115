import VulnOpsHub.Api.Cases
import VulnOpsHub.Cases.Steps
import VulnOpsHub.Lib.Transactions

set_option autoImplicit false

/-! # What the case routes hand to the service

A case route makes its checks, then at most one call of the service, and then it answers.
`CaseRequest.Issues` lists the calls with what has been checked for them; `dispatched` derives from the
handlers that a request leaves the rows as they are or ends as its call alone. -/

namespace VulnOpsHub

/-- The request is answered with a 2xx status. -/
def Outcome.accepted : Outcome PyError CaseReply → Bool
  | .returned reply => reply.accepted
  | _ => false

/-- The request goes to a route that writes. -/
def CaseRequest.writes : CaseRequest → Bool
  | .createCase _ => true
  | .transition _ _ _ => true
  | .createRiskDecision _ _ _ => true
  | .approveRiskDecision _ _ _ => true
  | .submitVerification _ _ => true
  | _ => false

section Routes

variable [Python]

/-! ## Checks -/

omit [Python] in
theorem requireOrganization_ok {organizationId : String} {p q : Principal}
    (h : requireOrganization organizationId p = .ok q) : q = p := by
  unfold requireOrganization at h
  split_ifs at h
  exact (Except.ok.inj h).symm

theorem authorizeCapability_ok {p q : Principal} {capability : String}
    (h : authorizeCapability p capability = .ok q) : q = p := by
  unfold authorizeCapability at h
  split_ifs at h
  exact (Except.ok.inj h).symm

/-- The case is one of the organization of the path, and the principal has the capability. -/
structure RouteCall.Reaches (r : RouteCall) (db : Db) (caseId capability : String)
    (case : RemediationCase) : Prop where
  found : db.case? caseId = some case
  organization : case.organizationId = r.orgId
  allowed : authorizeCapability r.principal capability = .ok r.principal

/-- A call that a request makes of the service, with what its route has checked before. -/
inductive CaseRequest.Issues [PythonInt] [IsoParser] [Driver] (r : RouteCall) (db : Db) :
    CaseRequest → CaseOp → Prop where
  | createCase (body : RequestBody) (payload : CaseCreateRequest)
      (allowed : authorizeCapability r.principal "case:write" = .ok r.principal)
      (valid : readFields body >>= CaseCreateRequest.validate = .ok payload) :
      Issues r db (.createCase body) (.createCase (payload.args r.orgId))
  | transition (caseId : String) (body : RequestBody) (ifMatch : Option String) (case : RemediationCase)
      (payload : TransitionRequest) (expected : Option ℤ)
      (reaches : r.Reaches db caseId "case:write" case)
      (valid : readFields body >>= TransitionRequest.validate = .ok payload)
      (version : parseIfMatch ifMatch = .ok expected) :
      Issues r db (.transition caseId body ifMatch) (.transition (payload.args r caseId expected))
  | createRiskDecision (caseId : String) (body : RequestBody) (ifMatch : Option String)
      (case : RemediationCase) (payload : RiskDecisionRequest) (expected : Option ℤ)
      (reaches : r.Reaches db caseId "risk:request" case)
      (valid : readFields body >>= RiskDecisionRequest.validate = .ok payload)
      (version : parseIfMatch ifMatch = .ok expected)
      (current : expected.any (· ≠ case.version) = false) :
      Issues r db (.createRiskDecision caseId body ifMatch)
        (.createRiskDecision (payload.args r caseId))
  | approveRiskDecision (caseId decisionId : String) (body : RequestBody) (case : RemediationCase)
      (d : RiskDecision) (payload : RiskApprovalRequest)
      (reaches : r.Reaches db caseId "risk:approve" case)
      (found : db.decision? decisionId = some d) (about : d.caseId = caseId)
      (valid : readFields body >>= RiskApprovalRequest.validate = .ok payload) :
      Issues r db (.approveRiskDecision caseId decisionId body)
        (.approveRiskDecision (approvalArgs r.principal decisionId (.str payload.outcome)
          payload.reason r.requestId r.correlationId))
  | submitVerification (caseId : String) (body : RequestBody) (case : RemediationCase)
      (members : List (String × Json)) (args : VerifyArgs)
      (reaches : r.Reaches db caseId "verification:write" case)
      (valid : readFields body = .ok members)
      (args_eq : (VerificationRequest.ofMembers members).args? r caseId = some args) :
      Issues r db (.submitVerification caseId body) (.verify args)

/-- How a request ends: it leaves the rows as they are, and is then refused unless it only reads; or it
    ends as its call alone, which has returned if the request is accepted. -/
inductive Dispatched [PythonInt] [IsoParser] [Driver] (r : RouteCall) (env : CallEnv)
    (request : CaseRequest) (db : Db) : Outcome PyError CaseReply → Db → Prop where
  | kept (o : Outcome PyError CaseReply) (h : request.writes = true → o.accepted = false) :
      Dispatched r env request db o db
  | called (op : CaseOp) (o : Outcome PyError CaseReply)
      (member : requireOrganization r.orgId r.principal = .ok r.principal)
      (issues : request.Issues r db op)
      (h : o.accepted = true →
        ((Call.body ⟨op, env⟩).run (Session.fresh db)).1.isReturned = true) :
      Dispatched r env request db o (Call.run db ⟨op, env⟩)

/-! ## Rules -/

section Rules

variable {rely guar : Db → Db → Prop} {Q : Outcome PyError CaseReply → Session Db → Prop}
  {s : Session Db} {db : Db}

omit [Python] in
theorem wp_authorized {check : Except AuthorizationError Principal} {k : Prog CaseReply}
    (hrefused : ∀ o, o.accepted = false → Q o s)
    (h : ∀ p, check = .ok p → k.Wp rely guar Q s) : (authorized check k).Wp rely guar Q s := by
  cases hcheck : check with
  | ok p => exact h p hcheck
  | error e => exact Program.wp_ret.2 (hrefused _ rfl)

omit [Python] in
theorem wp_withBody {α : Type} {body : Except BodyFault α} {k : α → Prog CaseReply}
    (hrefused : ∀ o, o.accepted = false → Q o s)
    (h : ∀ a, body = .ok a → (k a).Wp rely guar Q s) : (withBody body k).Wp rely guar Q s := by
  cases hbody : body with
  | ok a => exact h a hbody
  | error fault =>
      cases fault with
      | problem p => exact Program.wp_ret.2 (hrefused _ rfl)
      | raised e => exact Program.wp_ret.2 (hrefused _ rfl)

omit [Python] in
/-- What the route looks up first. -/
theorem wp_find {α β : Type} {Q : Outcome PyError β → Session Db → Prop} {g : Db → α}
    {f : α → Prog β} (h : (f (g db)).Wp Eq guar Q (Session.fresh db)) :
    (Program.select g >>= f).Wp Eq guar Q (Session.fresh db) := by
  refine Program.wp_select_bind fun t ht => ?_
  obtain rfl : db = t := ht
  exact h

theorem wp_withCase {r : RouteCall} {caseId capability : String}
    {k : RemediationCase → Prog CaseReply}
    (hrefused : ∀ o, o.accepted = false → Q o (Session.fresh db))
    (h : ∀ case, r.Reaches db caseId capability case →
      (k case).Wp Eq guar Q (Session.fresh db)) :
    (withCase r caseId capability k).Wp Eq guar Q (Session.fresh db) := by
  refine wp_find ?_
  cases hfound : (db.case? caseId).filter fun c => c.organizationId = r.orgId with
  | none => exact Program.wp_ret.2 (hrefused _ rfl)
  | some case =>
      obtain ⟨hcase, horg⟩ := Option.filter_eq_some_iff.1 hfound
      refine wp_authorized hrefused fun p hp => h case ⟨hcase, of_decide_eq_true horg, ?_⟩
      rw [hp, authorizeCapability_ok hp]

omit [Python] in
/-- A call of the service whose refusals are answered. -/
theorem wp_attempt {α : Type} {p : Prog α} {handle : String → Problem} {k : α → Prog CaseReply}
    (h : p.Wp rely guar (fun o t => (∀ o' : Outcome PyError CaseReply, o'.accepted = false → Q o' t) ∧
      ∀ a, o = .returned a → (k a).Wp rely guar Q t) s) :
    (attempt p handle >>= fun result => answer result k).Wp rely guar Q s := by
  refine Program.wp_bind (Program.wp_rescue.2 (Program.wp_map.2 (Program.wp_mono ?_ h)))
  rintro o t ⟨hrefused, hk⟩
  cases o with
  | returned a => exact hk a rfl
  | failed => exact hrefused _ rfl
  | raised e =>
      cases e with
      | valueError message => exact Program.wp_ret.2 (hrefused _ rfl)
      | _ => exact hrefused _ rfl

omit [Python] in
/-- A row read back. -/
theorem wp_readBack {α : Type} {g : Db → Option α} {e : PyError} {f : α → Prog CaseReply}
    (hQ : ∀ o, Q o s) (h : ∀ a, (f a).Wp Eq guar Q s) :
    (Program.lookup g e >>= f).Wp Eq guar Q s := by
  refine Program.wp_lookup_bind (fun t ht _ => ?_) fun t a ht _ => ?_
  · obtain rfl : s.db = t := ht
    exact hQ _
  · obtain rfl : s.db = t := ht
    exact h a

/-- A call of the service, as part of a route. -/
theorem wp_call {α : Type} {p : Prog α} {wrap : α → Answer} {op : CaseOp} {env : CallEnv}
    (hbody : (Call.mk op env).body = p.map wrap)
    {Q : Outcome PyError α → Session Db → Prop}
    (h : ∀ o t, t.db = Call.run db ⟨op, env⟩ →
      (o.isReturned = true → ((Call.body ⟨op, env⟩).run (Session.fresh db)).1.isReturned = true) →
      Q o t) : p.Wp Eq (fun _ _ => True) Q (Session.fresh db) := by
  refine Program.wp_of_run (h _ _ ?_ fun hreturned => ?_)
  · rw [Call.run, hbody, Program.runDb, Program.run_map]
  · rw [hbody, Program.run_map]
    simpa using hreturned

end Rules

/-! ## Routes -/

variable [PythonInt] [IsoParser] [Driver] {r : RouteCall} {env : CallEnv} {db : Db}

/-- A refused request that has written nothing. -/
theorem Dispatched.refused {request : CaseRequest} {o : Outcome PyError CaseReply}
    (h : o.accepted = false) : Dispatched r env request db o db := .kept o fun _ => h

theorem createCaseRoute_dispatched (body : RequestBody)
    (member : requireOrganization r.orgId r.principal = .ok r.principal) :
    (createCaseRoute r body env).Wp Eq (fun _ _ => True)
      (fun o s => Dispatched r env (.createCase body) db o s.db) (Session.fresh db) := by
  refine wp_authorized (fun o ho => .refused ho) fun p hp => ?_
  refine wp_withBody (fun o ho => .refused ho) fun payload hvalid => ?_
  have hallowed : authorizeCapability r.principal "case:write" = .ok r.principal := by
    rw [hp, authorizeCapability_ok hp]
  have hbody : (Call.mk (.createCase (payload.args r.orgId)) env).body
      = (createCase (payload.args r.orgId) env).map .case := rfl
  refine Program.wp_rescue.2 (Program.wp_map.2 (wp_call hbody fun o t hdb hreturned => ?_))
  rw [hdb]
  refine .called _ _ member (.createCase body payload hallowed hvalid) fun haccepted => hreturned ?_
  cases o with
  | returned c => rfl
  | failed => cases haccepted
  | raised e =>
      simp only [Outcome.map, Outcome.rescue] at haccepted
      split at haccepted <;> cases haccepted

/-- A call whose refusals are answered, and what follows it. -/
theorem attempt_dispatched {α : Type} {p : Prog α} {wrap : α → Answer} {op : CaseOp}
    {request : CaseRequest} {handle : String → Problem} {k : α → Prog CaseReply}
    (hbody : (Call.mk op env).body = p.map wrap)
    (member : requireOrganization r.orgId r.principal = .ok r.principal)
    (issues : request.Issues r db op)
    (hk : ∀ a t, (∀ o, Dispatched r env request db o (Session.db t)) →
      (k a).Wp Eq (fun _ _ => True) (fun o s => Dispatched r env request db o s.db) t) :
    (attempt p handle >>= fun result => answer result k).Wp Eq (fun _ _ => True)
      (fun o s => Dispatched r env request db o s.db) (Session.fresh db) := by
  refine wp_attempt (wp_call hbody fun o t hdb hreturned => ⟨fun o' ho' => ?_, ?_⟩)
  · rw [hdb]
    exact .called op o' member issues fun haccepted => by rw [ho'] at haccepted; cases haccepted
  · rintro a rfl
    refine hk a t fun o => ?_
    rw [hdb]
    exact .called op o member issues fun _ => hreturned rfl

omit [PythonInt] [IsoParser] [Driver] [Python] in
/-- A transition that cannot be executed returns nothing and writes nothing. -/
theorem refusedTransition_wp (a : TransitionArgs)
    {Q : Outcome PyError RemediationCase → Session Db → Prop}
    (h : ∀ o, o.isReturned = false → Q o (Session.fresh db)) :
    (refusedTransition a).Wp Eq (fun _ _ => True) Q (Session.fresh db) := by
  refine Program.wp_lookup_bind (fun t ht _ => ?_) fun t case ht _ => ?_
  · obtain rfl : db = t := ht
    exact h _ rfl
  · obtain rfl : db = t := ht
    split
    · exact Program.wp_ret.2 (h _ rfl)
    · refine Program.wp_ofExcept_bind (fun e _ => h _ rfl) fun fields _ => ?_
      exact Program.wp_ret.2 (h _ rfl)

theorem transitionRoute_dispatched (caseId : String) (body : RequestBody) (ifMatch : Option String)
    (member : requireOrganization r.orgId r.principal = .ok r.principal) :
    (transitionRoute r caseId body ifMatch env).Wp Eq (fun _ _ => True)
      (fun o s => Dispatched r env (.transition caseId body ifMatch) db o s.db)
      (Session.fresh db) := by
  refine wp_withCase (fun o ho => .refused ho) fun case hreaches => ?_
  refine wp_withBody (fun o ho => .refused ho) fun payload hvalid => ?_
  split
  · exact Program.wp_ret.2 (.refused rfl)
  · exact Program.wp_ret.2 (.refused rfl)
  · next expected hversion =>
      by_cases htaken : expected.all versionTaken = true
      · simp only [htaken, if_true]
        exact attempt_dispatched rfl member
          (.transition caseId body ifMatch case payload expected hreaches hvalid hversion)
          fun updated t ht => Program.wp_ret.2 (ht _)
      · simp only [htaken, Bool.false_eq_true, if_false]
        refine wp_attempt (refusedTransition_wp _ fun o ho => ⟨fun o' ho' => .refused ho', ?_⟩)
        rintro updated rfl
        cases ho

theorem createRiskDecisionRoute_dispatched (caseId : String) (body : RequestBody)
    (ifMatch : Option String)
    (member : requireOrganization r.orgId r.principal = .ok r.principal) :
    (createRiskDecisionRoute r caseId body ifMatch env).Wp Eq (fun _ _ => True)
      (fun o s => Dispatched r env (.createRiskDecision caseId body ifMatch) db o s.db)
      (Session.fresh db) := by
  refine wp_withCase (fun o ho => .refused ho) fun case hreaches => ?_
  refine wp_withBody (fun o ho => .refused ho) fun payload hvalid => ?_
  refine Program.wp_ofExcept_bind (fun e _ => .refused rfl) fun expected hversion => ?_
  split
  · exact Program.wp_ret.2 (.refused rfl)
  · next hcurrent =>
      refine attempt_dispatched rfl member
        (.createRiskDecision caseId body ifMatch case payload expected hreaches hvalid hversion
          (Bool.not_eq_true _ ▸ hcurrent)) fun decision t ht => ?_
      exact wp_readBack ht fun after => Program.wp_ret.2 (ht _)

theorem approveRiskDecisionRoute_dispatched (caseId decisionId : String) (body : RequestBody)
    (member : requireOrganization r.orgId r.principal = .ok r.principal) :
    (approveRiskDecisionRoute r caseId decisionId body env).Wp Eq (fun _ _ => True)
      (fun o s => Dispatched r env (.approveRiskDecision caseId decisionId body) db o s.db)
      (Session.fresh db) := by
  refine wp_find ?_
  cases hcase : (db.case? caseId).filter fun c => c.organizationId = r.orgId with
  | none => exact Program.wp_ret.2 (.refused rfl)
  | some case =>
      refine wp_find ?_
      cases hdecision : (db.decision? decisionId).filter fun d => d.caseId = caseId with
      | none => exact Program.wp_ret.2 (.refused rfl)
      | some d =>
          obtain ⟨hcase, horg⟩ := Option.filter_eq_some_iff.1 hcase
          obtain ⟨hdecision, habout⟩ := Option.filter_eq_some_iff.1 hdecision
          refine wp_authorized (fun o ho => .refused ho) fun p hp => ?_
          refine wp_withBody (fun o ho => .refused ho) fun payload hvalid => ?_
          have hallowed : authorizeCapability r.principal "risk:approve" = .ok r.principal := by
            rw [hp, authorizeCapability_ok hp]
          refine attempt_dispatched rfl member
            (.approveRiskDecision caseId decisionId body case d payload
              ⟨hcase, of_decide_eq_true horg, hallowed⟩ hdecision (of_decide_eq_true habout) hvalid)
            fun decision t ht => ?_
          exact wp_readBack ht fun after => Program.wp_ret.2 (ht _)

omit [PythonInt] [IsoParser] [Driver] in
/-- A verification whose row the database refuses returns nothing and writes nothing. -/
theorem refusedVerification_wp (v : VerificationRequest) (caseId : String)
    {Q : Outcome PyError Verification → Session Db → Prop}
    (h : ∀ o, o.isReturned = false → Q o (Session.fresh db)) :
    (refusedVerification v caseId).Wp Eq (fun _ _ => True) Q (Session.fresh db) := by
  refine Program.wp_lookup_bind (fun t ht _ => ?_) fun t case ht _ => ?_
  · obtain rfl : db = t := ht
    exact h _ rfl
  · obtain rfl : db = t := ht
    split
    · exact Program.wp_ret.2 (h _ rfl)
    · refine Program.wp_ofExcept_bind (fun e _ => h _ rfl) fun coverage _ => ?_
      exact Program.wp_ret.2 (h _ rfl)

theorem submitVerificationRoute_dispatched (caseId : String) (body : RequestBody)
    (member : requireOrganization r.orgId r.principal = .ok r.principal) :
    (submitVerificationRoute r caseId body env).Wp Eq (fun _ _ => True)
      (fun o s => Dispatched r env (.submitVerification caseId body) db o s.db)
      (Session.fresh db) := by
  refine wp_withCase (fun o ho => .refused ho) fun case hreaches => ?_
  refine wp_withBody (fun o ho => .refused ho) fun members hvalid => ?_
  cases hargs : (VerificationRequest.ofMembers members).args? r caseId with
  | none =>
      simp only [hargs]
      refine wp_attempt (refusedVerification_wp _ _ fun o ho => ⟨fun o' ho' => .refused ho', ?_⟩)
      rintro v rfl
      cases ho
  | some args =>
      simp only [hargs]
      refine attempt_dispatched rfl member
        (.submitVerification caseId body case members args hreaches hvalid hargs) fun v t ht => ?_
      refine wp_readBack ht fun after => ?_
      exact Program.wp_ofExcept_bind (fun e _ => ht _) fun coverage _ => Program.wp_ret.2 (ht _)

/-- A route that only reads keeps the rows. -/
theorem reads_dispatched {request : CaseRequest} (hreads : request.writes = false)
    {o : Outcome PyError CaseReply} : Dispatched r env request db o db :=
  .kept o fun hwrites => by rw [hreads] at hwrites; cases hwrites

theorem handle_dispatched [RowOrder] (request : CaseRequest) :
    (request.handle r env).Wp Eq (fun _ _ => True)
      (fun o s => Dispatched r env request db o s.db) (Session.fresh db) := by
  refine wp_authorized (fun o ho => .refused ho) fun p hp => ?_
  have member : requireOrganization r.orgId r.principal = .ok r.principal := by
    rw [hp, requireOrganization_ok hp]
  cases request with
  | createCase body => exact createCaseRoute_dispatched body member
  | transition caseId body ifMatch => exact transitionRoute_dispatched caseId body ifMatch member
  | createRiskDecision caseId body ifMatch =>
      exact createRiskDecisionRoute_dispatched caseId body ifMatch member
  | approveRiskDecision caseId decisionId body =>
      exact approveRiskDecisionRoute_dispatched caseId decisionId body member
  | submitVerification caseId body => exact submitVerificationRoute_dispatched caseId body member
  | listCases query =>
      refine wp_authorized (fun o _ => reads_dispatched rfl) fun p _ => ?_
      exact wp_find (Program.wp_ret.2 (reads_dispatched rfl))
  | getCase caseId =>
      exact wp_withCase (fun o _ => reads_dispatched rfl)
        fun case _ => Program.wp_ret.2 (reads_dispatched rfl)
  | allowedTransitions caseId =>
      exact wp_withCase (fun o _ => reads_dispatched rfl)
        fun case _ => Program.wp_ret.2 (reads_dispatched rfl)
  | listRiskDecisions caseId =>
      refine wp_withCase (fun o _ => reads_dispatched rfl) fun case _ => wp_find ?_
      exact Program.wp_ofExcept_bind (fun e _ => reads_dispatched rfl)
        fun items _ => Program.wp_ret.2 (reads_dispatched rfl)
  | listVerifications caseId =>
      refine wp_withCase (fun o _ => reads_dispatched rfl) fun case _ => wp_find ?_
      exact Program.wp_ofExcept_bind (fun e _ => reads_dispatched rfl)
        fun items _ => Program.wp_ret.2 (reads_dispatched rfl)

/-- **What a request does.** It keeps the rows, or it ends as the one call it makes. -/
theorem dispatched [RowOrder] (request : CaseRequest) (r : RouteCall) (env : CallEnv) (db : Db) :
    Dispatched r env request db ((request.handle r env).run (Session.fresh db)).1
      ((request.handle r env).runDb db) :=
  Program.wp_run (fun _ => rfl) (handle_dispatched request)

end Routes

end VulnOpsHub
