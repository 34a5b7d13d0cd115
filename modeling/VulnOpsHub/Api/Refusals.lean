import VulnOpsHub.Api.History
import VulnOpsHub.Cases.Outcomes

set_option autoImplicit false

/-! # Refused transitions

A transition is refused because the case cannot go on to the target, or because the version has
changed. `transition` raises a `ValueError` in both cases, and the route tells them apart by words in
the message, which repeats the target of the request. -/

namespace VulnOpsHub

open Program

/-! ## Answers -/

/-- The problem that is answered. -/
def Outcome.problem? : Outcome PyError CaseReply → Option Problem
  | .returned (.problem p) => some p
  | _ => none

def Problem.code : Problem → Option String
  | .document _ _ code _ _ => some code
  | .plain _ _ => none

/-- The answer is 412. -/
def Outcome.PreconditionFailed (o : Outcome PyError CaseReply) : Prop :=
  o.problem?.map Problem.status = some 412

/-- The answer is 422 with the code `invalid_transition`. -/
def Outcome.InvalidTransition (o : Outcome PyError CaseReply) : Prop :=
  o.problem?.map Problem.status = some 422 ∧
    o.problem?.bind Problem.code = some "invalid_transition"

/-- A transition of `case` is answered by the cause of its failure. -/
structure ClassifiedByCause (case : RemediationCase) (a : TransitionArgs)
    (o : Outcome PyError CaseReply) : Prop where
  stale : o.PreconditionFailed ↔
    a.Allowed case ∧ ∃ v, a.expectedVersion = some v ∧ v ≠ case.version
  refused : o.InvalidTransition ↔ ¬ a.Allowed case

theorem classified_stale {case : RemediationCase} {a : TransitionArgs} {v : ℤ}
    (hallowed : a.Allowed case) (hexpected : a.expectedVersion = some v) (hv : v ≠ case.version)
    (o : Outcome PyError CaseReply) :
    ClassifiedByCause case a o ↔ o.PreconditionFailed ∧ ¬ o.InvalidTransition := by
  constructor
  · intro h
    exact ⟨h.stale.2 ⟨hallowed, v, hexpected, hv⟩, fun hinvalid => h.refused.1 hinvalid hallowed⟩
  · rintro ⟨hfailed, hvalid⟩
    exact ⟨iff_of_true hfailed ⟨hallowed, v, hexpected, hv⟩,
      iff_of_false hvalid (not_not.2 hallowed)⟩

theorem classified_current {case : RemediationCase} {a : TransitionArgs}
    {o : Outcome PyError CaseReply} (hallowed : a.Allowed case)
    (hcurrent : ∀ v, a.expectedVersion = some v → v = case.version) (ho : o.problem? = none) :
    ClassifiedByCause case a o := by
  have hfailed : ¬ o.PreconditionFailed := by simp [Outcome.PreconditionFailed, ho]
  have hinvalid : ¬ o.InvalidTransition := by simp [Outcome.InvalidTransition, ho]
  exact ⟨iff_of_false hfailed fun ⟨_, v, hv, hne⟩ => hne (hcurrent v hv),
    iff_of_false hinvalid (not_not.2 hallowed)⟩

theorem classified_refused {case : RemediationCase} {a : TransitionArgs}
    (hallowed : ¬ a.Allowed case) (o : Outcome PyError CaseReply) :
    ClassifiedByCause case a o ↔ ¬ o.PreconditionFailed ∧ o.InvalidTransition := by
  constructor
  · intro h
    exact ⟨fun hfailed => hallowed (h.stale.1 hfailed).1, h.refused.2 hallowed⟩
  · rintro ⟨hfailed, hinvalid⟩
    exact ⟨iff_of_false hfailed fun h => hallowed h.1, iff_of_true hinvalid hallowed⟩

/-! ## Messages -/

/-- The words by which the route knows a conflict of versions. -/
def conflictWords : List String := ["conflict", "version"]

/-- The target itself has one of them, in any case of its letters. -/
def NamesConflict [Python] (target : String) : Prop :=
  ∃ word ∈ conflictWords, containsText (Python.lower target) word = true

theorem not_space_of_mem_conflictWords {word : String} (h : word ∈ conflictWords) :
    ' ' ∉ word.toList := by
  simp only [conflictWords, List.mem_cons, List.not_mem_nil, or_false] at h
  rcases h with rfl | rfl <;> decide

theorem containsText_append (s w : String) : containsText (s ++ w) w = true :=
  decide_eq_true ⟨s.toList, [], by simp⟩

section Messages

variable [WordRuntime]

theorem lower_transitionRefusal (status : CaseStatus) (target : String) :
    Python.lower (transitionRefusal status target) =
      "transition" ++ " " ++ (status.value ++ " " ++ ("->" ++ " " ++
        (Python.lower target ++ " " ++ ("not" ++ " " ++ "allowed")))) := by
  have htext : transitionRefusal status target =
      "transition" ++ " " ++ (status.value ++ " " ++ ("->" ++ " " ++
        (target ++ " " ++ ("not" ++ " " ++ "allowed")))) := by
    simp [transitionRefusal, ← String.toList_inj]
  have hstatus : Python.lower status.value = status.value := by
    cases status <;> exact lower_of_ascii (by decide) (by decide)
  rw [htext]
  simp only [WordRuntime.lower_space]
  rw [hstatus, lower_of_ascii (s := "transition") (by decide) (by decide),
    lower_of_ascii (s := "->") (by decide) (by decide),
    lower_of_ascii (s := "not") (by decide) (by decide),
    lower_of_ascii (s := "allowed") (by decide) (by decide)]

/-- In the message for a refused target, such a word can only come from the target. -/
theorem containsText_transitionRefusal (status : CaseStatus) (target : String) {word : String}
    (h : word ∈ conflictWords) :
    containsText (Python.lower (transitionRefusal status target)) word =
      containsText (Python.lower target) word := by
  have hspace := not_space_of_mem_conflictWords h
  have hrest : ∀ s ∈ ["transition", status.value, "->", "not", "allowed"],
      containsText s word = false := by
    simp only [conflictWords, List.mem_cons, List.not_mem_nil, or_false] at h
    rcases h with rfl | rfl <;> cases status <;> decide
  rw [lower_transitionRefusal]
  simp only [containsText_separated hspace]
  rw [hrest "transition" (by simp), hrest status.value (by simp), hrest "->" (by simp),
    hrest "not" (by simp), hrest "allowed" (by simp)]
  simp

theorem transitionProblem_refusal (status : CaseStatus) (target : String) :
    let o : Outcome PyError CaseReply :=
      .returned (.problem (transitionProblem (transitionRefusal status target)))
    (¬ o.PreconditionFailed ∧ o.InvalidTransition) ↔ ¬ NamesConflict target := by
  have hconflict : NamesConflict target ↔
      (containsText (Python.lower (transitionRefusal status target)) "conflict" ||
        containsText (Python.lower (transitionRefusal status target)) "version") = true := by
    rw [containsText_transitionRefusal status target (by decide),
      containsText_transitionRefusal status target (by decide)]
    simp [NamesConflict, conflictWords]
  have hallowed : containsText (Python.lower (transitionRefusal status target)) "not allowed" = true := by
    have hsuffix : Python.lower (transitionRefusal status target) =
        "transition" ++ " " ++ (status.value ++ " " ++ ("->" ++ " " ++ (Python.lower target ++ " ")))
          ++ "not allowed" := by
      rw [lower_transitionRefusal]
      simp [← String.toList_inj]
    rw [hsuffix]
    exact containsText_append _ _
  dsimp only
  rw [hconflict]
  unfold transitionProblem
  dsimp only
  by_cases h : (containsText (Python.lower (transitionRefusal status target)) "conflict" ||
      containsText (Python.lower (transitionRefusal status target)) "version") = true
  · simp [h, Outcome.PreconditionFailed, Outcome.InvalidTransition, Outcome.problem?, Problem.status]
  · simp [h, hallowed, Outcome.PreconditionFailed, Outcome.InvalidTransition, Outcome.problem?,
      Problem.status, Problem.code]

theorem transitionProblem_stale (expected current : ℤ) :
    let o : Outcome PyError CaseReply :=
      .returned (.problem (transitionProblem (staleVersion expected current)))
    o.PreconditionFailed ∧ ¬ o.InvalidTransition := by
  have hconflict :
      containsText (Python.lower (staleVersion expected current)) "conflict" = true := by
    have htext : staleVersion expected current = "conflict:" ++ " " ++
        ("expected version " ++ toString expected ++ " but current is " ++ toString current) := by
      unfold staleVersion
      generalize toString expected = v
      generalize toString current = w
      simp [← String.toList_inj]
    rw [htext, WordRuntime.lower_space, lower_of_ascii (s := "conflict:") (by decide) (by decide),
      containsText_separated (by decide)]
    exact Bool.or_eq_true_iff.2 (Or.inl (by decide))
  dsimp only
  unfold transitionProblem
  simp [hconflict, Outcome.PreconditionFailed, Outcome.InvalidTransition, Outcome.problem?,
    Problem.status]

end Messages

/-! ## The route -/

section Route

variable {rely guar : Db → Db → Prop} {Q : Outcome PyError CaseReply → Session Db → Prop}
  {s : Session Db} {db : Db}

/-- How a route goes on when its call of the service has ended. -/
def Continues {α : Type} (rely guar : Db → Db → Prop) (handle : String → Problem)
    (k : α → Prog CaseReply) (Q : Outcome PyError CaseReply → Session Db → Prop) :
    Outcome PyError α → Session Db → Prop
  | .returned a, t => (k a).Wp rely guar Q t
  | .raised (.valueError message), t => Q (.returned (.problem (handle message))) t
  | .raised e, t => Q (.raised e) t
  | .failed, t => Q .failed t

theorem wp_attempt_answer {α : Type} {p : Prog α} {handle : String → Problem}
    {k : α → Prog CaseReply} (h : p.Wp rely guar (Continues rely guar handle k Q) s) :
    (attempt p handle >>= fun result => answer result k).Wp rely guar Q s := by
  refine wp_bind (wp_rescue.2 (wp_map.2 (wp_mono ?_ h)))
  intro o t ho
  cases o with
  | returned a => exact ho
  | failed => exact ho
  | raised e =>
      cases e with
      | valueError message => exact wp_ret.2 ho
      | _ => exact ho

theorem refusedTransition_ends {a : TransitionArgs} {case : RemediationCase}
    (hcase : db.case? a.caseId = some case) {Q : Outcome PyError RemediationCase → Session Db → Prop}
    (hactor : ValidProvenance a.actor.provenance)
    (hrefused : ¬ a.Allowed case →
      Q (.raised (.valueError (transitionRefusal case.status a.target))) (Session.fresh db))
    (hfailed : a.Allowed case → Q .failed (Session.fresh db)) :
    (refusedTransition a).Wp Eq (fun _ _ => True) Q (Session.fresh db) := by
  refine wp_getCase hcase ?_
  split
  · next hnone => exact wp_ret.2 (hrefused (TransitionArgs.not_allowed_of_find? hnone))
  · next target hfind =>
      refine wp_ofExcept_bind (fun e he => ?_) fun fields _ =>
        wp_ret.2 (hfailed (TransitionArgs.allowed_of_find? hfind))
      unfold actorAuditFields at he
      rw [if_pos hactor] at he
      cases he

variable [WordRuntime] [PythonInt] [IsoParser] [Driver] [RowOrder] {r : RouteCall} {env : CallEnv}
  {caseId : String} {case : RemediationCase} {body : RequestBody} {payload : TransitionRequest}
  {ifMatch : Option String} {expected : Option ℤ}

/-- **When a failed transition is answered by its cause**: a target that is refused does not name a
    conflict, and a version that has changed is one that the database takes. -/
theorem classifiedByCause_iff
    (hmember : requireOrganization r.orgId r.principal = .ok r.principal)
    (hreaches : r.Reaches db caseId "case:write" case)
    (hvalid : readFields body >>= TransitionRequest.validate = .ok payload)
    (hversion : parseIfMatch ifMatch = .ok expected) :
    ClassifiedByCause case (payload.args r caseId expected)
        (CaseRoute.outcome ⟨r, env, .transition caseId body ifMatch⟩ db) ↔
      (¬ (payload.args r caseId expected).Allowed case → ¬ NamesConflict payload.target) ∧
      ((payload.args r caseId expected).Allowed case →
        ∀ v, expected = some v → v ≠ case.version → versionTaken v = true) := by
  let a := payload.args r caseId expected
  have hactor : ValidProvenance a.actor.provenance := Or.inr rfl
  unfold CaseRoute.outcome CaseRequest.handle transitionRoute
  rw [authorized_of_ok hmember, run_withCase hreaches]
  simp only [withBody, hvalid, hversion]
  let Q : Outcome PyError CaseReply → Session Db → Prop := fun o _ => ClassifiedByCause case a o ↔
    (¬ a.Allowed case → ¬ NamesConflict payload.target) ∧
    (a.Allowed case → ∀ v, expected = some v → v ≠ case.version → versionTaken v = true)
  have hrule : ∀ {p : Prog CaseReply}, p.Wp Eq (fun _ _ => True) Q (Session.fresh db) →
      Q (p.run (Session.fresh db)).1 (p.run (Session.fresh db)).2 := wp_run fun _ => rfl
  refine hrule (wp_attempt_answer ?_)
  by_cases htaken : expected.all versionTaken = true
  · have htaken' : a.Allowed case → ∀ v, expected = some v → v ≠ case.version →
        versionTaken v = true := by
      rintro - v rfl -
      exact htaken
    simp only [htaken, if_true]
    refine wp_mono (fun o s h => ?_) (transition_ends hreaches.found hactor)
    cases h with
    | refused _ h kept =>
        refine (classified_refused h _).trans ((transitionProblem_refusal _ _).trans ?_)
        exact ⟨fun hnames => ⟨fun _ => hnames, htaken'⟩, fun hcond => hcond.1 h⟩
    | stale _ v allowed hv h kept =>
        refine (classified_stale allowed hv h _).trans ?_
        exact iff_of_true (transitionProblem_stale _ _) ⟨fun hnot => absurd allowed hnot, htaken'⟩
    | done next db' allowed current cases =>
        exact wp_ret.2 (iff_of_true (classified_current allowed current rfl)
          ⟨fun hnot => absurd allowed hnot, htaken'⟩)
    | failed _ allowed current h =>
        exact iff_of_true (classified_current allowed current rfl)
          ⟨fun hnot => absurd allowed hnot, htaken'⟩
  · simp only [htaken, Bool.false_eq_true, if_false]
    obtain ⟨v, rfl, hv⟩ : ∃ v, expected = some v ∧ versionTaken v = false := by
      cases expected with
      | none => exact absurd rfl htaken
      | some v => exact ⟨v, rfl, by simpa using htaken⟩
    refine refusedTransition_ends hreaches.found hactor (fun h => ?_) fun allowed => ?_
    · refine (classified_refused h _).trans ((transitionProblem_refusal _ _).trans ?_)
      exact ⟨fun hnames => ⟨fun _ => hnames, fun allowed => absurd allowed h⟩, fun hcond => hcond.1 h⟩
    · -- the database has refused the version: the answer is no problem document
      have hnone : Outcome.problem? .failed = none := rfl
      by_cases hcurrent : v = case.version
      · refine iff_of_true (classified_current allowed (fun w hw => ?_) hnone) ⟨fun h => absurd allowed h, ?_⟩
        · rw [← Option.some.inj hw, hcurrent]
        · rintro - w hw hne
          exact absurd ((Option.some.inj hw).symm.trans hcurrent) hne
      · refine iff_of_false (fun h => ?_) fun hcond => ?_
        · have hfailed := ((classified_stale allowed rfl hcurrent _).1 h).1
          simp [Outcome.PreconditionFailed, hnone] at hfailed
        · rw [hcond.2 allowed v rfl hcurrent] at hv
          cases hv

end Route

/-! ## Samples -/

/-- The rows with one case, which has just been created. -/
def sampleOpened : Db :=
  @CaseRoute.after asciiPython asciiDigits sampleIsoParser sqliteDriver insertionOrder
    sampleCreateRoute Db.sample

/-- The admin, on the path of the sample organization. -/
def sampleCaller : RouteCall := ⟨"org", sampleAdmin, none, none⟩

theorem sampleCaller_member :
    requireOrganization sampleCaller.orgId sampleCaller.principal = .ok sampleCaller.principal := by
  unfold requireOrganization
  rw [if_neg (by decide), if_pos (by decide +kernel)]

theorem sampleCaller_reaches (capability : String)
    (h : @Principal.hasCapability asciiPython sampleAdmin (asciiLower (strip capability)) = true) :
    ∃ case, @RouteCall.Reaches asciiPython sampleCaller sampleOpened sampleCase capability case ∧
      case.status = .new := by
  let _ := asciiPython
  have hsome : (sampleOpened.case? sampleCase).isSome = true := by decide
  obtain ⟨case, hcase⟩ := Option.isSome_iff_exists.1 hsome
  have hrow : (sampleOpened.case? sampleCase).all
      (fun c => c.organizationId = "org" ∧ c.status = .new) = true := by decide
  rw [hcase, Option.all_some, decide_eq_true_eq] at hrow
  refine ⟨case, ⟨hcase, hrow.1, ?_⟩, hrow.2⟩
  unfold authorizeCapability
  exact if_pos h

theorem sampleCaller_writes :
    ∃ case, @RouteCall.Reaches asciiPython sampleCaller sampleOpened sampleCase "case:write" case ∧
      case.status = .new :=
  sampleCaller_reaches "case:write" (by decide)

/-- A request for a transition to `target`. -/
def sampleTarget (target : String) : RequestBody := .ok (.obj [("target", .str target)])

/-- A target that names a conflict is answered as one. -/
theorem transition_misclassified : ¬ ∀ (_ : WordRuntime) (_ : PythonInt) (_ : IsoParser) (_ : Driver)
    (_ : RowOrder) (r : RouteCall) (env : CallEnv) (db : Db) (caseId : String)
    (case : RemediationCase) (body : RequestBody) (payload : TransitionRequest) (ifMatch : Option String)
    (expected : Option ℤ), requireOrganization r.orgId r.principal = .ok r.principal →
    r.Reaches db caseId "case:write" case →
    readFields body >>= TransitionRequest.validate = .ok payload →
    parseIfMatch ifMatch = .ok expected →
    ClassifiedByCause case (payload.args r caseId expected)
      (CaseRoute.outcome ⟨r, env, .transition caseId body ifMatch⟩ db) := by
  intro hall
  let _ := asciiWords
  let _ := asciiDigits
  let _ := sampleIsoParser
  let _ := sqliteDriver
  let _ := insertionOrder
  obtain ⟨case, hreaches, hnew⟩ := sampleCaller_writes
  have hclassified := hall asciiWords asciiDigits sampleIsoParser sqliteDriver insertionOrder
    sampleCaller (sampleEnv 1) sampleOpened sampleCase case (sampleTarget "conflict")
    ⟨"conflict", none⟩ none none sampleCaller_member hreaches rfl rfl
  have hinvalid := hclassified.refused.2 (by
    unfold TransitionArgs.Allowed
    rw [hnew]
    decide)
  unfold Outcome.InvalidTransition at hinvalid
  revert hinvalid
  decide

/-- A case that has just been created cannot go to `closed`, and that is what the answer says. -/
theorem classifiedByCause_closed : ∃ case,
    @ClassifiedByCause case
      (TransitionRequest.args ⟨"closed", none⟩ sampleCaller sampleCase none)
      (@CaseRoute.outcome asciiPython asciiDigits sampleIsoParser sqliteDriver insertionOrder
        ⟨sampleCaller, sampleEnv 1, .transition sampleCase (sampleTarget "closed") none⟩
        sampleOpened) := by
  let _ := asciiWords
  let _ := asciiDigits
  let _ := sampleIsoParser
  let _ := sqliteDriver
  let _ := insertionOrder
  obtain ⟨case, hreaches, hnew⟩ := sampleCaller_writes
  refine ⟨case, (classifiedByCause_iff sampleCaller_member hreaches rfl rfl).2 ⟨fun _ => ?_, ?_⟩⟩
  · unfold NamesConflict
    decide
  · intro _ v hv
    cases hv

end VulnOpsHub
