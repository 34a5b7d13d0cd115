import VulnOpsHub.Api.Additions
import VulnOpsHub.Api.Exposures
import VulnOpsHub.Lib.Retry
import VulnOpsHub.Sbom.Ledger

set_option autoImplicit false

/-! # The requests that change the server

The case routes, `submit_sbom` and `review_exposure`, each over the tables it reads and writes. A
document that is submitted again is found, and an exposure that was reviewed is not reviewable any
more; the case routes that add rows can be taken twice. -/

namespace VulnOpsHub

open Sbom

/-- What comes back: a refusal before the handler, or what the handler returned. -/
inductive ServerReply where
  | unauthenticated
  | problem (p : Problem)
  | case (outcome : Outcome PyError CaseReply)
  | submitted (result : SubmissionResult)
  | reviewed (outcome : Outcome PyError ReviewAnswer)

/-- A request as it arrives: what differs when the same request is sent again. -/
structure Arrival where
  /-- The principal of its token, if it is accepted. -/
  principal : Option Principal
  requestId : Option String
  correlationId : Option String
  requestIdHeader : Option String
  correlationIdHeader : Option String
  env : CallEnv
  /-- What the object store raises by then. -/
  storageFailure : Option PyError

def Arrival.call (a : Arrival) (orgId : String) (p : Principal) : RouteCall :=
  ⟨orgId, p, a.requestId, a.correlationId⟩

/-- A request to a route that writes, by its path and its body. -/
inductive ServerRequest where
  | case (request : CaseRequest)
  | submitSbom (body : RequestBody) (idempotencyKey : Option String)
  | reviewExposure (exposureId : String) (body : RequestBody)

/-- The tables that the route reads and writes. -/
@[reducible]
def ServerRequest.State : ServerRequest → Type
  | .case _ => Db
  | .submitSbom _ _ => SbomStore
  | .reviewExposure _ _ => Hub

section Routes

variable [Python]

/-- `require_capability`: the organization, then the capability. -/
def requireCapability (r : RouteCall) (capability : String) : Except AuthorizationError Principal := do
  let p ← requireOrganization r.orgId r.principal
  authorizeCapability p capability

/-- The call of `SBOMService.ingest` that `submit_sbom` makes. -/
def Arrival.sbomCall (a : Arrival) (orgId : String) (body : Json) (idempotencyKey : Option String) :
    SbomCall where
  env := a.env
  raw := body
  organizationId := orgId
  correlationId :=
    some (((nonEmpty a.requestIdHeader).or (nonEmpty a.correlationIdHeader)).getD (a.env.uuidStr 2))
  idempotencyKey := idempotencyKey

/-- `review_exposure`, behind its dependency. -/
def reviewExposureRoute (r : RouteCall) (exposureId : String) (body : RequestBody) (env : CallEnv)
    (h : Hub) : ServerReply × Hub :=
  match requireCapability r "risk:request", body with
  | .error e, _ => (.problem e.problem, h)
  | .ok _, .error e => (.reviewed (.raised e), h)
  | .ok p, .ok data =>
      let review := reviewExposure ⟨r.orgId, exposureId, data, p.subject⟩ env >>= showReviewed
      (.reviewed (review.run (Session.fresh h)).1, review.runDb h)

variable [Driver] [Sha256]

/-- `submit_sbom`. -/
def submitSbomRoute (storage : StorageSettings) (a : Arrival) (r : RouteCall) (body : RequestBody)
    (idempotencyKey : Option String) (s : SbomStore) : ServerReply × SbomStore :=
  match requireCapability r "sbom:write" with
  | .error e => (.problem e.problem, s)
  | .ok _ =>
      match body with
      | .error _ => (.problem (.plain 400 "Invalid JSON payload"), s)
      | .ok (.obj members) =>
          let result := ingest { storage with failure := a.storageFailure }
            (a.sbomCall r.orgId (.obj members) idempotencyKey) s
          match result.1 with
          | .ok submission => (.submitted submission, result.2)
          | .error (.valueError message) => (.problem (.plain 422 message), result.2)
          | .error _ => (.problem (.plain 500 "Failed to process SBOM"), result.2)
      | _ => (.problem (.plain 422 "Invalid SBOM: expected JSON object"), s)

variable [PythonInt] [IsoParser] [RowOrder]

/-- The route of a request whose token was accepted. -/
def ServerRequest.route (storage : StorageSettings) (a : Arrival) (r : RouteCall) :
    (request : ServerRequest) → request.State → ServerReply × request.State
  | .case request, db =>
      (.case ((request.handle r a.env).run (Session.fresh db)).1, (request.handle r a.env).runDb db)
  | .submitSbom body idempotencyKey, s => submitSbomRoute storage a r body idempotencyKey s
  | .reviewExposure exposureId body, h => reviewExposureRoute r exposureId body a.env h

/-- What the server does with a request that arrives. -/
def ServerRequest.serve (storage : StorageSettings) (orgId : String) (request : ServerRequest)
    (a : Arrival) (s : request.State) : ServerReply × request.State :=
  match a.principal with
  | none => (.unauthenticated, s)
  | some p => request.route storage a (a.call orgId p) s

end Routes

/-! ## Submitting a document again -/

namespace Sbom

section Storage

variable [Sha256] {storage : StorageSettings} {failure failure' : Option PyError} {key : String}
  {rawBytes : ByteArray} {organizationId digest : String} {objects files files' : Files}

/-- A file that has been written is found the next time. -/
theorem writeOnce_again {mismatch path : String} (hdigest : digest = Sha256.hexdigest rawBytes)
    (h : writeOnce mismatch path rawBytes digest files = .ok files') :
    writeOnce mismatch path rawBytes digest files' = .ok files' := by
  unfold writeOnce at h
  split at h
  · next existing hexisting =>
      split_ifs at h with hsame
      obtain rfl := Except.ok.inj h
      simp only [writeOnce, hexisting, if_pos hsame]
  · obtain rfl := Except.ok.inj h
    simp only [writeOnce, Function.update_self, if_pos hdigest.symm]

/-- What has been stored is stored again by the same settings, without a change. -/
theorem putObject_again {x y : Files × Files} (hdigest : digest = Sha256.hexdigest rawBytes)
    (hx : putObject { storage with failure := failure } key rawBytes digest objects files = .ok x)
    (hy : putObject { storage with failure := failure' } key rawBytes digest x.1 x.2 = .ok y) :
    y = x ∧ putObject { storage with failure := failure' } key rawBytes digest objects files
      = .ok x := by
  simp only [putObject, except_bind_eq_ok] at hx hy ⊢
  obtain ⟨-, -, hx⟩ := hx
  obtain ⟨u, hfailure, hy⟩ := hy
  by_cases hlocal : storage.state ≠ .enabled ∨ storage.localMirror = true
  · rw [if_pos hlocal] at hx hy ⊢
    obtain ⟨files', hwrite, hx⟩ := except_bind_eq_ok.1 hx
    obtain rfl := Except.ok.inj hx
    obtain ⟨files'', hwrite', hy⟩ := except_bind_eq_ok.1 hy
    obtain rfl := Except.ok.inj hy
    obtain rfl := Except.ok.inj ((writeOnce_again hdigest hwrite).symm.trans hwrite')
    refine ⟨?_, u, hfailure, except_bind_eq_ok.2 ⟨_, hwrite, rfl⟩⟩
    by_cases henabled : storage.state = .enabled
    · simp [henabled]
    · simp [henabled]
  · rw [if_neg hlocal] at hx hy ⊢
    obtain rfl := Except.ok.inj hx
    obtain rfl := Except.ok.inj hy
    refine ⟨?_, u, hfailure, rfl⟩
    by_cases henabled : storage.state = .enabled
    · simp [henabled]
    · simp [henabled]

theorem persist_again {x y : String × Files × Files}
    (hx : persistSbomRawBytes { storage with failure := failure } rawBytes organizationId digest
      objects files = .ok x)
    (hy : persistSbomRawBytes { storage with failure := failure' } rawBytes organizationId digest
      x.2.1 x.2.2 = .ok y) :
    y = x ∧ persistSbomRawBytes { storage with failure := failure' } rawBytes organizationId digest
      objects files = .ok x := by
  simp only [persistSbomRawBytes, except_bind_eq_ok, raiseIf_eq_ok, not_not] at hx hy ⊢
  obtain ⟨-, hdigest, -, -, key, hkey, stored, hput, hx⟩ := hx
  obtain ⟨u, -, u', hstate, key', hkey', stored', hput', hy⟩ := hy
  obtain rfl := Except.ok.inj (hkey.symm.trans hkey')
  obtain rfl := Except.ok.inj hx
  obtain ⟨rfl, hagain⟩ := putObject_again hdigest hput hput'
  exact ⟨(Except.ok.inj hy).symm, u, hdigest, u', hstate, key, hkey, _, hagain, rfl⟩

end Storage

section Ingest

variable [Python] [Driver] [Sha256] {storage : StorageSettings} {failure failure' : Option PyError}
  {s : SbomStore}

/-- Of two calls for the same document and organization, the second leaves what is there, or what it
    would have left alone. -/
theorem ingest_again {c c' : SbomCall} (hraw : c'.raw = c.raw)
    (horganization : c'.organizationId = c.organizationId) :
    (ingest { storage with failure := failure' } c'
        (ingest { storage with failure := failure } c s).2).2 =
      (ingest { storage with failure := failure } c s).2 ∨
    (ingest { storage with failure := failure' } c'
        (ingest { storage with failure := failure } c s).2).2 =
      (ingest { storage with failure := failure' } c' s).2 := by
  have hkey : (c'.digest, c'.organizationId) = (c.digest, c.organizationId) := by
    rw [SbomCall.digest, SbomCall.digest, hraw, horganization]
  rcases ingest_cases { storage with failure := failure } c s with
    ⟨existing, -, hfound⟩ | ⟨hnone, ⟨e, herror, -⟩ | ⟨rows, hrows, -, hstored⟩⟩
  · right
    rw [hfound]
  · have hread : readSbom c' s = readSbom c s := by
      rw [readSbom, readSbom, hraw, horganization]
    have hnone' : s.documents.byNatural (c'.digest, c'.organizationId) = none := by
      rw [hkey, hnone]
    have hbytes : canonicalBytes c'.raw = canonicalBytes c.raw := by rw [hraw]
    have hdigest : c'.digest = c.digest := congrArg Prod.fst hkey
    simp only [ingest, hnone] at herror ⊢
    cases hparsed : readSbom c s with
    | error e' =>
        right
        rfl
    | ok x =>
        obtain ⟨parsed, assetId⟩ := x
        simp only [hparsed, ingestNew] at herror ⊢
        cases hpersist : persistSbomRawBytes { storage with failure := failure } (canonicalBytes c.raw)
            c.organizationId c.digest s.objects s.files with
        | error e' =>
            right
            rfl
        | ok x =>
            obtain ⟨uri, objects, files⟩ := x
            simp only [hpersist] at herror ⊢
            cases hinsert : insertSbom c parsed assetId uri { s with objects := objects, files := files } with
            | ok t =>
                rw [hinsert] at herror
                cases herror
            | error e' =>
                -- the raw document was stored, and nothing else
                have hread' : readSbom c' { s with objects := objects, files := files }
                    = .ok (parsed, assetId) := hread.trans hparsed
                simp only [hnone', hread', hread.trans hparsed]
                rw [hbytes, horganization, hdigest]
                cases hpersist' : persistSbomRawBytes { storage with failure := failure' }
                    (canonicalBytes c.raw) c.organizationId c.digest objects files with
                | error e'' =>
                    left
                    rfl
                | ok y =>
                    obtain ⟨rfl, hagain⟩ := persist_again hpersist hpersist'
                    right
                    simp only [hagain]
  · -- the document is there by then
    left
    generalize (ingest { storage with failure := failure } c s).2 = t at hstored ⊢
    have hfiled := (newRows_filedUnder hrows).1.document
    have hmem : rows.document ∈ t.documents.rows := by
      rw [hstored.documents]
      simp
    have hsome : t.documents.byNatural (c'.digest, c'.organizationId) = some rows.document :=
      UniqueTable.byNatural_eq_some.2 ⟨hmem, hfiled.trans hkey.symm⟩
    simp only [ingest, hsome]

end Ingest

end Sbom

section Serving

variable [Python]

/-! ## Reviewing an exposure again -/

/-- A review of an exposure that has been reviewed has no effect. -/
theorem reviewExposure_again (q q' : ReviewRequest) (env env' : CallEnv) (h : Hub)
    (hsame : q'.exposureId = q.exposureId) :
    (reviewExposure q' env').runDb ((reviewExposure q env).runDb h) = (reviewExposure q env).runDb h ∨
      (reviewExposure q' env').runDb ((reviewExposure q env).runDb h)
        = (reviewExposure q' env').runDb h := by
  rcases reviewExposure_effect q env h with ⟨decision, e, -, heffect⟩ | ⟨-, hkept⟩
  · left
    generalize (reviewExposure q env).runDb h = h' at heffect ⊢
    rcases reviewExposure_effect q' env' h' with ⟨decision', e', -, heffect'⟩ | ⟨-, hkept⟩
    · -- the exposure is in a state that is not reviewable
      have hid : e.id = q.exposureId := Table.key_of_find? heffect.found
      have hfound : h'.exposure? q.exposureId
          = some ((ExposurePatch.ofChange e (reviewed decision e)).toRow.apply e) := by
        unfold Hub.exposure?
        rw [heffect.exposures, Table.find?_update, hid, if_pos rfl]
        have hbefore : h.exposures.find? q.exposureId = some e := heffect.found
        rw [hbefore]
        rfl
      have hfound' := heffect'.found
      rw [hsame, hfound, ExposurePatch.ofChange_apply] at hfound'
      have hstate : e'.state = decision.state := by
        rw [← Option.some.inj hfound']
        rfl
      have hreviewable := heffect'.reviewable
      rw [hstate] at hreviewable
      cases decision <;> cases hreviewable
    · exact hkept
  · right
    rw [hkept]

variable [Driver] [Sha256] [PythonInt] [IsoParser] [RowOrder]

/-! ## Processing a request again -/

/-- Both times the token is accepted, and the request of a case route is taken. -/
def ServerRequest.TakenTwice (orgId : String) (a a' : Arrival) :
    (request : ServerRequest) → request.State → Prop
  | .case request, db => ∃ p p', a.principal = some p ∧ a'.principal = some p' ∧
      request.TakenTwice (a.call orgId p) (a'.call orgId p') a.env a'.env db
  | .submitSbom _ _, _ => False
  | .reviewExposure _ _, _ => False

variable {storage : StorageSettings} {orgId : String}

omit [PythonInt] [IsoParser] [RowOrder] in
theorem submitSbomRoute_again (body : RequestBody) (idempotencyKey : Option String) (a a' : Arrival)
    (p p' : Principal) (s : SbomStore) :
    (submitSbomRoute storage a' (a'.call orgId p') body idempotencyKey
        (submitSbomRoute storage a (a.call orgId p) body idempotencyKey s).2).2 =
      (submitSbomRoute storage a (a.call orgId p) body idempotencyKey s).2 ∨
    (submitSbomRoute storage a' (a'.call orgId p') body idempotencyKey
        (submitSbomRoute storage a (a.call orgId p) body idempotencyKey s).2).2 =
      (submitSbomRoute storage a' (a'.call orgId p') body idempotencyKey s).2 := by
  have hroute : ∀ (a : Arrival) (p : Principal) (s : SbomStore),
      (submitSbomRoute storage a (a.call orgId p) body idempotencyKey s).2 = s ∨
      ∃ members, body = .ok (.obj members) ∧
        ∀ s, (submitSbomRoute storage a (a.call orgId p) body idempotencyKey s).2 =
          (ingest { storage with failure := a.storageFailure }
            (a.sbomCall orgId (.obj members) idempotencyKey) s).2 := by
    intro a p s
    unfold submitSbomRoute
    cases requireCapability (a.call orgId p) "sbom:write" with
    | error e => exact Or.inl rfl
    | ok q =>
        cases body with
        | error e => exact Or.inl rfl
        | ok data =>
            cases data with
            | obj members =>
                refine Or.inr ⟨members, rfl, fun s => ?_⟩
                dsimp only
                split <;> rfl
            | _ => exact Or.inl rfl
  rcases hroute a p s with hkept | ⟨members, hbody, hingests⟩
  · right
    rw [hkept]
  · rcases hroute a' p' (submitSbomRoute storage a (a.call orgId p) body idempotencyKey s).2 with
      hkept | ⟨members', hbody', hingests'⟩
    · exact Or.inl hkept
    · obtain rfl : members = members' := by
        rw [hbody] at hbody'
        cases hbody'
        rfl
      rw [hingests, hingests', hingests']
      exact ingest_again rfl rfl

omit [Driver] [Sha256] [PythonInt] [IsoParser] [RowOrder] in
theorem reviewExposureRoute_again (exposureId : String) (body : RequestBody) (r r' : RouteCall)
    (env env' : CallEnv) (h : Hub) :
    (reviewExposureRoute r' exposureId body env' (reviewExposureRoute r exposureId body env h).2).2 =
      (reviewExposureRoute r exposureId body env h).2 ∨
    (reviewExposureRoute r' exposureId body env' (reviewExposureRoute r exposureId body env h).2).2 =
      (reviewExposureRoute r' exposureId body env' h).2 := by
  unfold reviewExposureRoute
  cases requireCapability r "risk:request" with
  | error e => exact Or.inr rfl
  | ok p =>
      cases requireCapability r' "risk:request" with
      | error e => exact Or.inl rfl
      | ok p' =>
          cases body with
          | error e => exact Or.inl rfl
          | ok data =>
              simp only [showReviewed_runDb]
              exact reviewExposure_again _ _ env env' h rfl

theorem serve_of_none {request : ServerRequest} {a : Arrival} (h : a.principal = none)
    (s : request.State) : request.serve storage orgId a s = (.unauthenticated, s) := by
  unfold ServerRequest.serve
  rw [h]

theorem serve_of_some {request : ServerRequest} {a : Arrival} {p : Principal}
    (h : a.principal = some p) (s : request.State) :
    request.serve storage orgId a s = request.route storage a (a.call orgId p) s := by
  unfold ServerRequest.serve
  rw [h]

theorem route_case_snd (request : CaseRequest) (a : Arrival) (r : RouteCall) (db : Db) :
    ((ServerRequest.case request).route storage a r db).2 = (request.handle r a.env).runDb db := rfl

theorem route_absorbed {request : ServerRequest} {a a' : Arrival} {p p' : Principal}
    {s : request.State} (hp : a.principal = some p) (hp' : a'.principal = some p')
    (h : ¬ request.TakenTwice orgId a a' s) :
    (request.route storage a' (a'.call orgId p')
        (request.route storage a (a.call orgId p) s).2).2 =
      (request.route storage a (a.call orgId p) s).2 ∨
    (request.route storage a' (a'.call orgId p')
        (request.route storage a (a.call orgId p) s).2).2 =
      (request.route storage a' (a'.call orgId p') s).2 := by
  cases request with
  | case request =>
      rw [route_case_snd, route_case_snd, route_case_snd]
      exact handle_absorbed fun htwice => h ⟨p, p', hp, hp', htwice⟩
  | submitSbom body idempotencyKey => exact submitSbomRoute_again body idempotencyKey a a' p p' s
  | reviewExposure exposureId body =>
      simp only [ServerRequest.route]
      exact reviewExposureRoute_again exposureId body (a.call orgId p) (a'.call orgId p') a.env a'.env s

/-- **A request that is not taken twice** has the effect of one processing. -/
theorem serve_absorbed {request : ServerRequest} {a a' : Arrival} {s : request.State}
    (h : ¬ request.TakenTwice orgId a a' s) :
    (request.serve storage orgId a' (request.serve storage orgId a s).2).2 =
        (request.serve storage orgId a s).2 ∨
      (request.serve storage orgId a' (request.serve storage orgId a s).2).2 =
        (request.serve storage orgId a' s).2 := by
  cases hp : a.principal with
  | none =>
      right
      rw [serve_of_none hp]
  | some p =>
      cases hp' : a'.principal with
      | none =>
          left
          rw [serve_of_none hp']
      | some p' =>
          rw [serve_of_some hp, serve_of_some hp', serve_of_some hp']
          exact route_absorbed hp hp' h

/-- A request that is taken twice has not the effect of one processing. -/
theorem not_atMostOnce_of_takenTwice {request : ServerRequest} {a a' : Arrival} {s : request.State}
    (h : request.TakenTwice orgId a a' s) :
    ¬ AtMostOnce (request.serve storage orgId) s
      (request.serve storage orgId a' (request.serve storage orgId a s).2).2 := by
  cases request with
  | case request =>
      obtain ⟨p, p', hp, hp', htwice⟩ := h
      have hserve : ∀ (b : Arrival) (db : Db),
          Db.events ((ServerRequest.case request).serve storage orgId b db).2 ≤ db.events + 1 := by
        intro b db
        cases hq : b.principal with
        | none =>
            rw [serve_of_none hq]
            exact Nat.le_succ _
        | some q =>
            rw [serve_of_some hq, route_case_snd]
            exact events_handle_le request
      refine not_atMostOnce_of_count (fun b => hserve b s) ?_
      rw [serve_of_some hp, serve_of_some hp', route_case_snd, route_case_snd]
      exact events_of_takenTwice htwice
  | submitSbom body idempotencyKey => exact h.elim
  | reviewExposure exposureId body => exact h.elim

end Serving

end VulnOpsHub
