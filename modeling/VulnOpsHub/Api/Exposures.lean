import VulnOpsHub.Workers.Exposures
import VulnOpsHub.Lib.Transactions

set_option autoImplicit false

/-! # Reviewing an exposure

`review_exposure` (`api/exposures.py`): a reviewer confirms a candidate exposure or rules it out. -/

namespace VulnOpsHub

/-- The two decisions a reviewer can make. -/
inductive ReviewDecision where
  | confirmed
  | notAffected
deriving DecidableEq, Repr

namespace ReviewDecision

def state : ReviewDecision → ExposureState
  | .confirmed => .active
  | .notAffected => .notAffected

def matchClass : ReviewDecision → MatchClass
  | .confirmed => .confirmed
  | .notAffected => .notAffected

/-- The decision of a request, if it is one. -/
def ofText (text : String) : Option ReviewDecision :=
  if text = "confirmed" then some .confirmed
  else if text = "not_affected" then some .notAffected
  else none

end ReviewDecision

/-- The answer to a review request: the reviewed exposure, or a problem document. -/
inductive ReviewAnswer where
  | reviewed (id : String) (state : ExposureState) (matchClass : MatchClass)
  | problem (status : ℕ) (code detail : String)
deriving DecidableEq, Repr

/-- A review request: its path, its JSON body and the subject of the principal. -/
structure ReviewRequest where
  organizationId : String
  exposureId : String
  body : Json
  subject : String

/-- The states an exposure can be reviewed in. -/
def reviewable (state : ExposureState) : Bool := state = .candidate || state = .underReview

/-- The exposure as a review leaves it. -/
def reviewed (decision : ReviewDecision) (e : Exposure) : Exposure :=
  { e with state := decision.state, matchClass := decision.matchClass }

def reviewAudit (r : ReviewRequest) (env : CallEnv) (decision : ReviewDecision) (reason : String) :
    AuditEvent :=
  { env.audit 0 r.subject "exposure.reviewed" "exposure" r.exposureId "" none
      (some decision.state.value) (some reason) r.organizationId with
    correlationId := none }

section Review

variable [Python]

/-- `str(body.get(key) or "").strip()`. -/
def bodyText (body : Json) (key : String) : Except PyError String := do
  let value ← body.get key
  return strip (if value.truthy then pyStr value else "")

/-- `review_exposure`, up to its commit. -/
def reviewExposure (r : ReviewRequest) (env : CallEnv) : HubProg ReviewAnswer := do
  let decision ← Program.ofExcept (bodyText r.body "decision")
  let reason ← Program.ofExcept (bodyText r.body "reason")
  match ReviewDecision.ofText decision with
  | none =>
      pure (.problem 422 "invalid_decision" "decision must be confirmed or not_affected")
  | some decision =>
      if reason = "" then
        pure (.problem 422 "invalid_decision" "reason is required for a review decision")
      else
        let exposure ← Program.select fun h : Hub =>
          (h.exposure? r.exposureId).filter (·.organizationId = r.organizationId)
        match exposure with
        | none => pure (.problem 404 "resource_not_found" "exposure not found")
        | some e =>
            if reviewable e.state then
              Program.add [HubWrite.updateExposure e.id (.ofChange e (reviewed decision e)),
                .core (.insertAudit (reviewAudit r env decision reason))]
              Program.commitAll
              pure (.reviewed e.id decision.state decision.matchClass)
            else
              pure (.problem 422 "invalid_state"
                ("exposure state " ++ e.state.value ++ " is not reviewable"))

/-- The answer to a review shows the row as it is read again after the commit. -/
def showReviewed : ReviewAnswer → HubProg ReviewAnswer
  | .reviewed id _ _ => do
      let e ← Program.lookup (fun h : Hub => h.exposure? id) .invalidRequestError
      pure (.reviewed e.id e.state e.matchClass)
  | answer => pure answer

/-! ## What a review does -/

/-- The rows after a review of the exposure `e`. -/
structure ReviewEffect (r : ReviewRequest) (decision : ReviewDecision) (e : Exposure) (h h' : Hub) :
    Prop where
  found : h.exposure? r.exposureId = some e
  organization : e.organizationId = r.organizationId
  reviewable : reviewable e.state = true
  exposures : h'.exposures
    = h.exposures.update e.id (ExposurePatch.ofChange e (reviewed decision e)).toRow
  frame : ∃ exposures audits, h' = { h with exposures := exposures, auditEvents := audits }

/-- A review decides on an exposure and commits, or has no effect. -/
theorem reviewExposure_run (r : ReviewRequest) (env : CallEnv) (h : Hub) :
    (∃ decision e h', (reviewExposure r env).run (Session.fresh h)
        = (.returned (.reviewed e.id decision.state decision.matchClass), Session.fresh h') ∧
      ReviewEffect r decision e h h') ∨
    ((∀ id state matchClass, ((reviewExposure r env).run (Session.fresh h)).1
        ≠ .returned (.reviewed id state matchClass)) ∧
      ((reviewExposure r env).run (Session.fresh h)).2 = Session.fresh h) := by
  have hwp : (reviewExposure r env).Wp Eq (fun _ _ => True) (fun out s =>
      (∃ decision e h', (out, s) = (.returned (.reviewed e.id decision.state decision.matchClass),
          Session.fresh h') ∧ ReviewEffect r decision e h h') ∨
      ((∀ id state matchClass, out ≠ .returned (.reviewed id state matchClass)) ∧
        s = Session.fresh h))
      (Session.fresh h) := by
    unfold reviewExposure
    refine Program.wp_ofExcept_bind (fun e _ => .inr ⟨by simp, rfl⟩) fun decision _ => ?_
    refine Program.wp_ofExcept_bind (fun e _ => .inr ⟨by simp, rfl⟩) fun reason _ => ?_
    split
    · exact Program.wp_ret.2 (.inr ⟨by simp, rfl⟩)
    next decision _ =>
    split
    · exact Program.wp_ret.2 (.inr ⟨by simp, rfl⟩)
    refine Program.wp_select_bind fun t ht => ?_
    obtain rfl : h = t := ht
    split
    · exact Program.wp_ret.2 (.inr ⟨by simp, rfl⟩)
    next e hfound =>
    split
    case isFalse => exact Program.wp_ret.2 (.inr ⟨by simp, rfl⟩)
    next hreviewable =>
    refine Program.wp_add_bind (Program.wp_commitAll_bind (fun t ht _ => ?_) fun t t' ht hflush => ?_)
    · obtain rfl : h = t := ht
      exact .inr ⟨by simp, rfl⟩
    · obtain rfl : h = t := ht
      refine ⟨trivial, Program.wp_ret.2 (Or.inl ⟨decision, e, _, rfl, ?_⟩)⟩
      obtain ⟨hmem, horganization⟩ := Option.filter_eq_some_iff.1 hfound
      obtain ⟨h₁, hupdate, hrest⟩ := Store.flush_cons hflush
      cases hupdate
      obtain ⟨h₂, haudit, hrest⟩ := Store.flush_cons hrest
      cases hrest
      obtain ⟨db, hdb, rfl⟩ := Option.map_eq_some_iff.1 haudit
      obtain ⟨audits, -, rfl⟩ := Option.map_eq_some_iff.1 hdb
      exact ⟨hmem, by simpa using horganization, hreviewable, rfl, _, audits, rfl⟩
  exact Program.wp_run (fun _ => rfl) hwp

theorem reviewExposure_effect (r : ReviewRequest) (env : CallEnv) (h : Hub) :
    (∃ decision e, ((reviewExposure r env).run (Session.fresh h)).1
        = .returned (.reviewed e.id decision.state decision.matchClass) ∧
      ReviewEffect r decision e h ((reviewExposure r env).runDb h)) ∨
    ((∀ id state matchClass, ((reviewExposure r env).run (Session.fresh h)).1
        ≠ .returned (.reviewed id state matchClass)) ∧
      (reviewExposure r env).runDb h = h) := by
  rcases reviewExposure_run r env h with ⟨decision, e, h', hrun, heffect⟩ | ⟨hno, hsession⟩
  · refine .inl ⟨decision, e, by rw [hrun], ?_⟩
    rw [Program.runDb, hrun]
    exact heffect
  · refine .inr ⟨hno, ?_⟩
    rw [Program.runDb, hsession]
    rfl

omit [Python] in
/-- The exposures after a review, each the one before or reviewed. -/
theorem ReviewEffect.exposure? {r : ReviewRequest} {decision : ReviewDecision} {e : Exposure}
    {h h' : Hub} (heffect : ReviewEffect r decision e h h') (id : String) :
    h'.exposure? id = if id = e.id then some (reviewed decision e) else h.exposure? id := by
  have hid : h.exposure? e.id = some e := Table.find?_key_of_mem (Table.mem_of_find? heffect.found)
  show h'.exposures.find? id = _
  rw [heffect.exposures, Table.find?_update]
  by_cases hk : id = e.id
  · subst hk
    have hpatched : (ExposurePatch.ofChange e (reviewed decision e)).toRow.apply e
        = reviewed decision e := ExposurePatch.ofChange_apply e _
    rw [if_pos rfl, if_pos rfl]
    show (h.exposure? e.id).map _ = _
    rw [hid, Option.map_some, hpatched]
  · rw [if_neg hk, if_neg hk]
    rfl

/-- Nobody else writing, the row that is read again shows the decision. -/
theorem showReviewed_run (r : ReviewRequest) (env : CallEnv) (h : Hub) :
    (reviewExposure r env >>= showReviewed).run (Session.fresh h)
      = (reviewExposure r env).run (Session.fresh h) := by
  rcases reviewExposure_run r env h with ⟨decision, e, h', hrun, heffect⟩ | ⟨hno, hsession⟩
  · rw [Program.run_bind_of_returned hrun, hrun]
    refine (Program.run_lookup_bind ((heffect.exposure? e.id).trans (if_pos rfl))).trans ?_
    rfl
  · cases hrun : (reviewExposure r env).run (Session.fresh h) with
    | mk out t =>
        cases out with
        | returned answer =>
            rw [Program.run_bind_of_returned hrun]
            rw [hrun] at hno
            cases answer with
            | reviewed id state matchClass => exact absurd rfl (hno id state matchClass)
            | problem status code detail => rfl
        | raised e => exact Program.run_bind_of_raised hrun
        | failed => exact Program.run_bind_of_failed hrun

theorem showReviewed_runDb (r : ReviewRequest) (env : CallEnv) (h : Hub) :
    (reviewExposure r env >>= showReviewed).runDb h = (reviewExposure r env).runDb h := by
  rw [Program.runDb, showReviewed_run]
  rfl

end Review

end VulnOpsHub
