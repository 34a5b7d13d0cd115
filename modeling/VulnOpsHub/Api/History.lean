import VulnOpsHub.Api.Dispatch
import VulnOpsHub.Cases.History
import VulnOpsHub.Cases.Runs
import VulnOpsHub.Lib.Raising
import Mathlib.Data.List.Sort

set_option autoImplicit false

/-! # The history of a case

A case is shown with its risk decisions and verifications through response models that are stricter
than the columns they read. Two columns hold JSON from request bodies: the exposures of a decision's
scope, which no model looks into, and the evidence of a verification, which no model validates. -/

namespace VulnOpsHub

/-! ## Texts -/

/-- A value that a response shows as a list of strings: nothing, or such a list. -/
def Json.Texts (value : Json) : Prop := value.truthy = true → value.strings.isSome = true

instance (value : Json) : Decidable value.Texts :=
  inferInstanceAs (Decidable (value.truthy = true → value.strings.isSome = true))

theorem responseTexts_iff {value : Json} : (∃ texts, responseTexts value = .ok texts) ↔ value.Texts := by
  unfold responseTexts Json.Texts
  by_cases htruthy : value.truthy = true
  · rw [if_pos htruthy]
    cases value.strings with
    | none => simp [htruthy]
    | some texts => simp [htruthy]
  · simp [htruthy]

theorem strings_of_texts (texts : List String) : (Json.arr (texts.map .str)).strings = some texts := by
  show (texts.map Json.str).mapM (fun item => item.text.toOption) = some texts
  induction texts with
  | nil => rfl
  | cons text rest ih =>
      rw [List.map_cons, List.mapM_cons, ih]
      rfl

theorem texts_of_strings (texts : List String) : (Json.arr (texts.map .str)).Texts := by
  intro _
  rw [strings_of_texts]
  rfl

theorem mem_newestFirst {α : Type} {createdAt : α → Instant} {id : α → String} {rows : List α}
    {row : α} : row ∈ newestFirst createdAt id rows ↔ row ∈ rows :=
  (List.perm_insertionSort _ rows).mem_iff

/-! ## Rows -/

section Rows

variable [Python]

/-- The row fits `RiskDecisionResponse`. -/
def RiskDecision.Serializes (d : RiskDecision) : Prop :=
  ∃ response, serializeRiskDecision (canonicalizeRiskDecisionExpiry d) = .ok response

/-- The row fits `VerificationResponse`. -/
def Verification.Serializes (v : Verification) : Prop :=
  ∃ response, serializeVerification v = .ok response

/-- Every row fits its response model. -/
structure Db.Serializes (db : Db) : Prop where
  decisions : ∀ d ∈ db.decisions.rows, d.Serializes
  verifications : ∀ v ∈ db.verifications.rows, v.Serializes

theorem responseExpiry_iff {expiresAt : Expiry} :
    (∃ text, responseExpiry (canonicalizeExpiry expiresAt) = .ok text) ↔ expiresAt ≠ .notDatetime := by
  cases expiresAt with
  | missing => simp [canonicalizeExpiry, responseExpiry]
  | notDatetime => simp [canonicalizeExpiry, responseExpiry]
  | datetime dt =>
      cases h : normalizeUtc dt <;> simp [canonicalizeExpiry, responseExpiry, h]

theorem RiskDecision.serializes_iff {d : RiskDecision} :
    d.Serializes ↔ d.scopeExposureIds.Texts ∧ d.evidenceIds.Texts ∧ d.expiresAt ≠ .notDatetime := by
  rw [← responseTexts_iff, ← responseTexts_iff, ← responseExpiry_iff]
  unfold RiskDecision.Serializes serializeRiskDecision
  simp only [except_bind_eq_ok, canonicalizeRiskDecisionExpiry]
  constructor
  · rintro ⟨response, scope, hscope, evidence, hevidence, expiresAt, hexpiry, -⟩
    exact ⟨⟨scope, hscope⟩, ⟨evidence, hevidence⟩, ⟨expiresAt, hexpiry⟩⟩
  · rintro ⟨⟨scope, hscope⟩, ⟨evidence, hevidence⟩, ⟨expiresAt, hexpiry⟩⟩
    exact ⟨_, scope, hscope, evidence, hevidence, expiresAt, hexpiry, rfl⟩

/-- The coverage is shown as an object. -/
def Json.Object (value : Json) : Prop := ∃ members, responseObject value = .ok members

omit [Python] in
theorem Verification.serializes_iff [Python] {v : Verification} :
    v.Serializes ↔ v.evidenceIds.Texts ∧ v.coverage.Object := by
  rw [← responseTexts_iff]
  unfold Verification.Serializes serializeVerification
  simp only [except_bind_eq_ok]
  constructor
  · rintro ⟨response, evidence, hevidence, coverage, hcoverage, -⟩
    exact ⟨⟨evidence, hevidence⟩, ⟨coverage, hcoverage⟩⟩
  · rintro ⟨⟨evidence, hevidence⟩, ⟨coverage, hcoverage⟩⟩
    exact ⟨_, evidence, hevidence, coverage, hcoverage, rfl⟩

/-- Coverage that has been evaluated is empty or an object. -/
theorem object_of_evaluateCoverage {method : String} {coverage : Json} {result : Bool × String}
    (h : evaluateCoverage method coverage = .ok result) : coverage.Object := by
  by_cases htruthy : coverage.truthy = true
  · unfold evaluateCoverage at h
    rw [htruthy, Bool.not_true, if_neg Bool.false_ne_true] at h
    obtain ⟨status, hstatus, -⟩ := except_bind_eq_ok.1 h
    cases coverage with
    | obj members => exact ⟨members, by simp [responseObject, Json.orEmpty, htruthy]⟩
    | _ => cases hstatus
  · exact ⟨[], by simp [responseObject, Json.orEmpty, htruthy]⟩

/-! ## Requests -/

/-- The exposures in the scope that a body asks for. -/
def scopeExposures (members : List (String × Json)) : Json :=
  match members.lookup "scope" with
  | some (.obj scope) => (scope.lookup "exposure_ids").getD .null
  | _ => .null

/-- What the request stores without looking into it is shown as a list of strings. -/
def CaseRequest.Readable : CaseRequest → Prop
  | .createRiskDecision _ (.ok (.obj members)) _ => (scopeExposures members).Texts
  | .submitVerification _ (.ok (.obj members)) =>
      (VerificationRequest.ofMembers members).evidenceIds.Texts
  | _ => True

omit [Python] in
theorem validated_ok {α : Type} {problem : Option Problem} {payload : Except FieldError α} {a : α}
    (h : validated problem payload = .ok a) : payload = .ok a := by
  unfold validated at h
  split at h
  · cases h
  · exact congrArg Except.ok (Except.ok.inj h)
  · cases h

omit [Python] in
theorem readFields_ok {body : RequestBody} {members : List (String × Json)}
    (h : readFields body = .ok members) : body = .ok (.obj members) := by
  cases body with
  | error e => cases h
  | ok data =>
      change rejectClientIdentityFields data = .ok members at h
      unfold rejectClientIdentityFields at h
      split at h
      · dsimp only at h
        split_ifs at h
        exact congrArg (fun members => Except.ok (Json.obj members)) (Except.ok.inj h)
      · cases h

omit [Python] in
/-- The scope of a valid request is `null` or the object of the body. -/
theorem RiskDecisionRequest.validate_scope [IsoParser] {members : List (String × Json)}
    {payload : RiskDecisionRequest} (h : validate members = .ok payload) :
    payload.scope = .null ∧ (members.lookup "scope" = none ∨ members.lookup "scope" = some .null) ∨
      ∃ scope, payload.scope = .obj scope ∧ members.lookup "scope" = some (.obj scope) := by
  unfold validate at h
  split_ifs at h
  have hpayload := validated_ok h
  simp only [Raising.except_bind_eq_ok] at hpayload
  obtain ⟨type, -, reason, -, scope, hscope, controls, -, evidence, -, expires, -, hpayload⟩ := hpayload
  obtain rfl := Except.ok.inj hpayload
  unfold optionalField aliased at hscope
  cases hlookup : members.lookup "scope" with
  | none =>
      simp only [List.findSome?_cons, hlookup, Option.map_none, List.findSome?_nil] at hscope
      exact .inl ⟨(Except.ok.inj hscope).symm, .inl rfl⟩
  | some value =>
      simp only [List.findSome?_cons, hlookup, Option.map_some] at hscope
      cases value with
      | null => exact .inl ⟨(Except.ok.inj hscope).symm, .inr rfl⟩
      | obj scope => exact .inr ⟨scope, (Except.ok.inj hscope).symm, rfl⟩
      | _ => cases hscope

omit [Python] in
/-- What `create_risk_decision` takes from the scope of a valid request. -/
theorem scope_of_validate [IsoParser] {members : List (String × Json)} {payload : RiskDecisionRequest}
    {scope : Json} (hvalid : RiskDecisionRequest.validate members = .ok payload)
    (h : (if payload.scope.truthy then payload.scope.get "exposure_ids" else .ok .null) = .ok scope) :
    scope = scopeExposures members := by
  unfold scopeExposures
  rcases RiskDecisionRequest.validate_scope hvalid with ⟨hnull, hlookup⟩ | ⟨object, hobject, hlookup⟩
  · rw [hnull] at h
    obtain rfl := Except.ok.inj h
    rcases hlookup with hlookup | hlookup <;> rw [hlookup]
  · rw [hobject] at h
    rw [hlookup]
    cases object with
    | nil => exact (Except.ok.inj h).symm
    | cons member rest => exact (Except.ok.inj h).symm

/-- A request, with what its handler takes from outside. -/
structure CaseRoute where
  call : RouteCall
  env : CallEnv
  request : CaseRequest

section Runs

variable [PythonInt] [IsoParser] [Driver] [RowOrder]

def CaseRoute.outcome (c : CaseRoute) (db : Db) : Outcome PyError CaseReply :=
  ((c.request.handle c.call c.env).run (Session.fresh db)).1

/-- The rows that a request leaves. -/
def CaseRoute.after (c : CaseRoute) (db : Db) : Db := (c.request.handle c.call c.env).runDb db

/-- Whoever may read a case is shown the case, its decisions and its verifications. -/
def Db.Shown (db : Db) : Prop :=
  ∀ (r : RouteCall) (env : CallEnv) (caseId : String) (case : RemediationCase),
    requireOrganization r.orgId r.principal = .ok r.principal →
    r.Reaches db caseId "case:read" case →
    ∀ request ∈ [CaseRequest.getCase caseId, .listRiskDecisions caseId, .listVerifications caseId],
      (CaseRoute.outcome ⟨r, env, request⟩ db).accepted = true

/-! ## Reading -/

section Readers

variable {r : RouteCall} {db : Db} {caseId : String} {case : RemediationCase}

omit [PythonInt] [IsoParser] [Driver] [RowOrder] in
theorem run_withCase {capability : String} {k : RemediationCase → Prog CaseReply}
    (h : r.Reaches db caseId capability case) :
    (withCase r caseId capability k).run (Session.fresh db) = (k case).run (Session.fresh db) := by
  have hfound : (db.case? caseId).filter (fun c => c.organizationId = r.orgId) = some case := by
    rw [h.found, Option.filter_some, if_pos (decide_eq_true h.organization)]
  unfold withCase
  rw [Program.run_select_bind]
  simp only [sessionView, Session.fresh, List.foldl_nil, hfound, authorized, h.allowed]

omit [Python] [PythonInt] [IsoParser] [Driver] [RowOrder] in
theorem authorized_of_ok {check : Except AuthorizationError Principal} {p : Principal}
    {k : Prog CaseReply} (h : check = .ok p) : authorized check k = k := by rw [h]; rfl

omit [Python] [PythonInt] [IsoParser] [Driver] [RowOrder] in
/-- A history of rows is shown if each of them can be. -/
theorem accepted_iff {α β : Type} {f : α → Except PyError β} {rows : List α} {k : List β → CaseReply}
    (hk : ∀ items, (k items).accepted = true) {s : Session Db} :
    ((Program.ofExcept (rows.mapM f) >>= fun items => (pure (k items) : Prog CaseReply)).run s).1.accepted
        = true ↔ ∀ row ∈ rows, ∃ item, f row = .ok item := by
  rw [← mapM_ok_iff]
  cases h : rows.mapM f with
  | ok items => exact iff_of_true (hk items) ⟨items, rfl⟩
  | error e => exact iff_of_false (by exact Bool.false_ne_true) (by simp)

variable (hmember : requireOrganization r.orgId r.principal = .ok r.principal)
  (hreaches : r.Reaches db caseId "case:read" case) (env : CallEnv)

include hmember hreaches

theorem getCase_accepted : (CaseRoute.outcome ⟨r, env, .getCase caseId⟩ db).accepted = true := by
  unfold CaseRoute.outcome CaseRequest.handle getCaseRoute
  rw [authorized_of_ok hmember, run_withCase hreaches]
  rfl

theorem listRiskDecisions_accepted_iff :
    (CaseRoute.outcome ⟨r, env, .listRiskDecisions caseId⟩ db).accepted = true ↔
      ∀ d ∈ db.decisions.rows, d.caseId = caseId → d.Serializes := by
  unfold CaseRoute.outcome CaseRequest.handle listRiskDecisionsRoute
  rw [authorized_of_ok hmember, run_withCase hreaches, Program.run_select_bind]
  refine (accepted_iff fun _ => rfl).trans ?_
  simp only [mem_newestFirst, sessionView, Session.fresh, List.foldl_nil, List.mem_filter,
    decide_eq_true_eq, and_imp]
  exact Iff.rfl

theorem listVerifications_accepted_iff :
    (CaseRoute.outcome ⟨r, env, .listVerifications caseId⟩ db).accepted = true ↔
      ∀ v ∈ db.verifications.rows, v.caseId = caseId → v.Serializes := by
  unfold CaseRoute.outcome CaseRequest.handle listVerificationsRoute
  rw [authorized_of_ok hmember, run_withCase hreaches, Program.run_select_bind]
  refine (accepted_iff fun _ => rfl).trans ?_
  simp only [mem_newestFirst, sessionView, Session.fresh, List.foldl_nil, List.mem_filter,
    decide_eq_true_eq, and_imp]
  exact Iff.rfl

end Readers

/-! ## What a request records -/

omit [Python] [PythonInt] [IsoParser] [RowOrder] in
theorem VerificationRequest.args?_eq_some {v : VerificationRequest} {r : RouteCall} {caseId : String}
    {args : VerifyArgs} (h : v.args? r caseId = some args) :
    args.caseId = caseId ∧ args.evidenceIds = v.evidenceIds := by
  obtain ⟨method, -, h⟩ := Option.bind_eq_some_iff.1 h
  obtain ⟨asserted, -, h⟩ := Option.bind_eq_some_iff.1 h
  obtain rfl := Option.some.inj h
  exact ⟨rfl, rfl⟩

omit [PythonInt] [IsoParser] [Driver] [RowOrder] in
/-- Somebody may read the history of the case. -/
def Db.Read (db : Db) (caseId : String) : Prop :=
  ∃ case p, db.case? caseId = some case ∧ requireOrganization case.organizationId p = .ok p

omit [PythonInt] [IsoParser] [Driver] [RowOrder] in
theorem RouteCall.Reaches.read {r : RouteCall} {db : Db} {caseId capability : String}
    {case : RemediationCase} (h : r.Reaches db caseId capability case)
    (hmember : requireOrganization r.orgId r.principal = .ok r.principal) : db.Read caseId :=
  ⟨case, r.principal, h.found, by rw [h.organization]; exact hmember⟩

/-- **What an accepted request records.** The rows it adds are read back by somebody, and they can be
    shown if the request is readable. -/
theorem CaseRoute.records {c : CaseRoute} {db : Db} (haccepted : (c.outcome db).accepted = true) :
    ∃ ds vs, db.Records (c.after db) ds vs ∧
      (∀ d ∈ ds, db.Read d.caseId ∧ (d.Serializes ↔ c.request.Readable)) ∧
      (∀ v ∈ vs, db.Read v.caseId ∧ (v.Serializes ↔ c.request.Readable)) ∧
      (¬ c.request.Readable → ds ≠ [] ∨ vs ≠ []) := by
  obtain ⟨r, env, request⟩ := c
  have hsilent : ∀ db', db.Records db' [] [] → request.Readable → ∃ ds vs, db.Records db' ds vs ∧
      (∀ d ∈ ds, db.Read d.caseId ∧ (d.Serializes ↔ request.Readable)) ∧
      (∀ v ∈ vs, db.Read v.caseId ∧ (v.Serializes ↔ request.Readable)) ∧
      (¬ request.Readable → ds ≠ [] ∨ vs ≠ []) :=
    fun db' h hreadable => ⟨[], [], h, by simp, by simp, fun hnot => absurd hreadable hnot⟩
  have hdispatched := dispatched request r env db
  change Dispatched r env request db (CaseRoute.outcome ⟨r, env, request⟩ db)
    (CaseRoute.after ⟨r, env, request⟩ db) at hdispatched
  generalize CaseRoute.outcome ⟨r, env, request⟩ db = o at hdispatched haccepted
  generalize CaseRoute.after ⟨r, env, request⟩ db = db' at hdispatched ⊢
  cases hdispatched with
  | kept _ h =>
      -- an accepted request that keeps the rows only reads
      have hreads : request.writes = false := by
        by_contra hwrites
        rw [h (Bool.not_eq_false _ ▸ hwrites)] at haccepted
        cases haccepted
      refine hsilent db (.of_same (fun _ => rfl) (by simp) fun _ c hc => ⟨c, hc, rfl⟩) ?_
      cases request <;> trivial
  | called op _ member issues h =>
      have hreturned := h haccepted
      cases issues with
      | createCase body payload allowed valid =>
          exact hsilent _ (Call.run_records (by simp) (by simp)) trivial
      | transition caseId body ifMatch case payload expected reaches valid version =>
          exact hsilent _ (Call.run_records (by simp) (by simp)) trivial
      | approveRiskDecision caseId decisionId body case d payload reaches found about valid =>
          exact hsilent _ (Call.run_records (by simp) (by simp)) trivial
      | createRiskDecision caseId body ifMatch case payload expected reaches valid version current =>
          obtain ⟨scope, expiresAt, hscope, -, hrecords⟩ := Call.run_requested hreturned
          obtain ⟨members, hmembers, hvalid⟩ := Raising.except_bind_eq_ok.1 valid
          obtain rfl := readFields_ok hmembers
          refine ⟨_, _, hrecords, fun d hd => ?_, by simp, fun _ => .inl (by simp)⟩
          obtain rfl := List.mem_singleton.1 hd
          refine ⟨reaches.read member, ?_⟩
          rw [RiskDecision.serializes_iff]
          have hscope := scope_of_validate hvalid hscope
          show scope.Texts ∧ (Json.arr (payload.evidenceIds.map .str)).Texts ∧
            Expiry.datetime expiresAt ≠ .notDatetime ↔ (scopeExposures members).Texts
          rw [hscope]
          exact ⟨fun h => h.1, fun h => ⟨h, texts_of_strings _, by simp⟩⟩
      | submitVerification caseId body case members args reaches valid args_eq =>
          obtain ⟨canClose, reason, hcoverage, -, hrecords⟩ := Call.run_verified hreturned
          obtain rfl := readFields_ok valid
          obtain ⟨hcaseId, hevidence⟩ := VerificationRequest.args?_eq_some args_eq
          refine ⟨_, _, hrecords, by simp, fun v hv => ?_, fun _ => .inr (by simp)⟩
          obtain rfl := List.mem_singleton.1 hv
          refine ⟨by rw [verificationRow, hcaseId]; exact reaches.read member, ?_⟩
          rw [Verification.serializes_iff]
          show args.evidenceIds.Texts ∧ args.coverage.Object ↔
            (VerificationRequest.ofMembers members).evidenceIds.Texts
          rw [hevidence]
          exact ⟨fun h => h.1, fun h => ⟨h, object_of_evaluateCoverage hcoverage⟩⟩

/-! ## Runs -/

omit [PythonInt] [IsoParser] [Driver] [RowOrder] in
/-- Whether a decision can be shown depends on its record. -/
theorem RiskDecision.serializes_congr {d d' : RiskDecision} (h : d'.record = d.record) :
    d'.Serializes ↔ d.Serializes := by
  simp only [RiskDecision.record, Prod.mk.injEq] at h
  rw [RiskDecision.serializes_iff, RiskDecision.serializes_iff, h.2.1, h.2.2.1, h.2.2.2]

omit [PythonInt] [IsoParser] [Driver] [RowOrder] in
/-- Rows that can be shown are followed by rows that can be shown. -/
theorem Db.Serializes.records {db db' : Db} {ds : List RiskDecision} {vs : List Verification}
    (h : db.Serializes) (hrecords : db.Records db' ds vs) (hds : ∀ d ∈ ds, d.Serializes)
    (hvs : ∀ v ∈ vs, v.Serializes) : db'.Serializes where
  decisions := fun d' hd' => by
    rcases hrecords.decisions d'.id d' (Table.find?_key_of_mem hd') with ⟨d, hd, hrecord⟩ | hnew
    · exact (RiskDecision.serializes_congr hrecord).2 (h.decisions d (Table.mem_of_find? hd))
    · exact hds d' hnew
  verifications := fun v hv => by
    rw [hrecords.verifications, List.mem_append] at hv
    exact hv.elim (h.verifications v) (hvs v)

/-- A row that cannot be shown, in a history that somebody may read. -/
inductive Db.Spoiled (db : Db) : Prop where
  | decision (d : RiskDecision) (mem : d ∈ db.decisions.rows) (read : db.Read d.caseId)
      (h : ¬ d.Serializes)
  | verification (v : Verification) (mem : v ∈ db.verifications.rows) (read : db.Read v.caseId)
      (h : ¬ v.Serializes)

omit [Python] [PythonInt] [IsoParser] [Driver] [RowOrder] in
theorem Db.Records.read {db db' : Db} {ds : List RiskDecision} {vs : List Verification}
    (h : db.Records db' ds vs) {caseId : String} (hread : db.Read caseId) : db'.Read caseId := by
  obtain ⟨case, p, hcase, hp⟩ := hread
  obtain ⟨case', hcase', horganization⟩ := h.cases caseId case hcase
  exact ⟨case', p, hcase', by rw [horganization]; exact hp⟩

omit [PythonInt] [IsoParser] [Driver] [RowOrder] in
/-- No call mends a history. -/
theorem Db.Spoiled.records {db db' : Db} {ds : List RiskDecision} {vs : List Verification}
    (h : db.Spoiled) (hrecords : db.Records db' ds vs) : db'.Spoiled := by
  cases h with
  | decision d mem read h =>
      obtain ⟨d', hd', hrecord⟩ := hrecords.kept d.id d (Table.find?_key_of_mem mem)
      have hcaseId : d'.caseId = d.caseId := congrArg Prod.fst hrecord
      refine .decision d' (Table.mem_of_find? hd') ?_ fun hd' =>
        h ((RiskDecision.serializes_congr hrecord).1 hd')
      rw [hcaseId]
      exact hrecords.read read
  | verification v mem read h =>
      refine .verification v ?_ (hrecords.read read) h
      rw [hrecords.verifications]
      exact List.mem_append_left _ mem

/-- Histories whose rows can all be shown are shown. -/
theorem Db.Serializes.shown {db : Db} (h : db.Serializes) : db.Shown := by
  intro r env caseId case hmember hreaches request hrequest
  simp only [List.mem_cons, List.not_mem_nil, or_false] at hrequest
  rcases hrequest with rfl | rfl | rfl
  · exact getCase_accepted hmember hreaches env
  · exact (listRiskDecisions_accepted_iff hmember hreaches env).2 fun d hd _ => h.decisions d hd
  · exact (listVerifications_accepted_iff hmember hreaches env).2
      fun v hv _ => h.verifications v hv

end Runs

end Rows

/-! ## Samples -/

/-- A parser that knows one text. -/
@[reducible]
def sampleIsoParser : IsoParser where
  fromisoformat := fun text =>
    if text = "1970-01-01T00:01:40+00:00" then some (Datetime.utc 100000000) else none

/-- Rows in the order in which they were inserted. -/
@[reducible]
def insertionOrder : RowOrder where
  sorted := fun _ _ rows => rows
  perm := fun _ _ _ => .rfl

/-- An admin of the sample organization. -/
def sampleAdmin : Principal where
  subject := "alice"
  principalType := .human
  organizationIds := ["org"]
  roles := ["admin"]
  scopes := []
  permissions := []
  organizations_stripped := by decide +kernel

/-- Request `k` of the admin. -/
def sampleRoute (k : ℕ) (request : CaseRequest) : CaseRoute :=
  ⟨⟨"org", sampleAdmin, none, none⟩, sampleEnv k, request⟩

def sampleCreateRoute : CaseRoute :=
  sampleRoute 0 (.createCase (.ok (.obj
    [("title", .str "outdated library"), ("owner_team", .str "platform"), ("priority", .str "P2")])))

end VulnOpsHub
