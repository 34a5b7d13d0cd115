import VulnOpsHub.Auth.Principal
import VulnOpsHub.Cases.Steps

set_option autoImplicit false

/-! # The two gates of an approval

The approval route asks the principal for `risk:approve`; then `approve_risk_decision` asks again, of
the capabilities and the roles that the route passes on. The route also counts permissions, which it
does not pass on. -/

namespace VulnOpsHub

section Gates

variable [Python]

/-- What the approval route passes to `approve_risk_decision`. -/
def approvalArgs (p : Principal) (decisionId : String) (outcome : Json) (reason : String)
    (requestId correlationId : Option String) : ApproveArgs where
  decisionId := decisionId
  outcome := outcome
  reason := reason
  capabilities := some p.capabilities
  actor :=
    { actor := p.subject
      provenance := authenticatedProvenance
      principalType := some p.principalType.value
      roles := some p.roles
      scopes := some p.scopes
      requestId := requestId
      correlationId := correlationId }

def lacksCapability : PyError := .valueError "actor lacks risk:approve capability"

def lacksRole : PyError := .valueError "actor must carry an approver role"

/-- The principal passes the gate of the route. -/
def PassesRoute (p : Principal) : Prop := authorizeCapability p "risk:approve" = .ok p

/-- The principal carries a role that may approve. -/
def HasApproverRole (p : Principal) : Prop := ∃ role ∈ approverRoleOrder, role ∈ p.roles

/-- What the route admits is not refused for its authority, and what the domain admits passes the
    route. -/
structure GatesAgree (p : Principal) : Prop where
  admitted : p.principalType = .human → PassesRoute p → HasApproverRole p →
    ∀ decisionId outcome reason requestId correlationId d,
      approvalGuards (approvalArgs p decisionId outcome reason requestId correlationId) d
          ≠ .error lacksCapability ∧
        approvalGuards (approvalArgs p decisionId outcome reason requestId correlationId) d
          ≠ .error lacksRole
  accepted : ∀ decisionId outcome reason requestId correlationId d r,
    approvalGuards (approvalArgs p decisionId outcome reason requestId correlationId) d = .ok r →
      PassesRoute p

/-- A decision that waits for its approval. -/
def pendingDecision : RiskDecision where
  id := "decision-1"
  caseId := "case-1"
  type := "risk_accepted"
  status := .pendingApproval
  scopeExposureIds := .arr []
  reason := "no patch"
  compensatingControls := none
  evidenceIds := .arr []
  requestedBy := "owner"
  requestedByProvenance := authenticatedProvenance
  approver := none
  approverRole := none
  approverProvenance := none
  approverPrincipalType := none
  decidedAt := none
  expiresAt := .missing
  createdAt := 0
  updatedAt := 0

/-- The only role that may approve without the capability, with the capability as a permission. -/
structure PermittedPolicyAdmin (p : Principal) : Prop where
  human : p.principalType = .human
  role : "policy_admin" ∈ p.roles
  permission : "risk:approve" ∈ p.permissions
  others : "risk_approver" ∉ p.roles ∧ "security_lead" ∉ p.roles ∧ "admin" ∉ p.roles

/-! ## The capability -/

theorem normalizeScope_riskApprove : normalizeScope "risk:approve" = some "risk:approve" := by
  have hstrip : strip "risk:approve" = "risk:approve" := by decide +kernel
  have hlower : Python.lower "risk:approve" = "risk:approve" :=
    lower_of_ascii (by decide +kernel) (by decide +kernel)
  rw [normalizeScope, hstrip, hlower]
  decide +kernel

omit [Python] in
theorem riskApprove_mem_roleCapabilities (role : String) :
    "risk:approve" ∈ roleCapabilities role ↔ role = "risk_approver" ∨ role = "admin" := by
  unfold roleCapabilities
  split_ifs with h <;> simp_all

omit [Python] in
theorem riskApprove_mem_capabilitiesOf (roles : List String) :
    "risk:approve" ∈ Principal.capabilitiesOf roles ↔
      "risk_approver" ∈ roles ∨ "security_lead" ∈ roles ∨ "admin" ∈ roles := by
  have hread : "risk:approve" ∉ ["audit:read", "case:read", "provenance:read", "risk:read",
      "sbom:read", "verification:read"] := by decide
  have hviewer : "risk:approve" ∉ roleCapabilities "viewer" := by decide
  have howner : "risk:approve" ∉ roleCapabilities "owner" := by decide
  have happrover : "risk:approve" ∈ roleCapabilities "risk_approver" := by decide
  have hroles : "risk:approve" ∈ roles.flatMap roleCapabilities ↔
      "risk_approver" ∈ roles ∨ "admin" ∈ roles := by
    simp [List.mem_flatMap, riskApprove_mem_roleCapabilities, and_or_left, exists_or]
  simp only [Principal.capabilitiesOf, List.mem_append, mem_ite_nil, hread, hviewer, howner,
    happrover, hroles, or_self, and_false, or_false, and_true]
  tauto

/-! ## Agreement -/

omit [Python] in
theorem mem_capabilities {p : Principal} {c : String} (hhuman : p.principalType = .human) :
    c ∈ p.capabilities ↔ c ∈ Principal.capabilitiesOf p.roles := by
  simp [Principal.capabilities, hhuman]

theorem passesRoute_iff (p : Principal) : PassesRoute p ↔ p.hasCapability "risk:approve" = true := by
  have hnormal : Python.lower (strip "risk:approve") = "risk:approve" :=
    normal_of_known (by decide)
  unfold PassesRoute authorizeCapability
  rw [hnormal]
  by_cases h : p.hasCapability "risk:approve" = true
  · simp [h]
  · simp [h]

theorem hasCapability_riskApprove {p : Principal} (hhuman : p.principalType = .human) :
    p.hasCapability "risk:approve" = true ↔
      "risk:approve" ∈ p.capabilities ∨ "risk:approve" ∈ p.permissions := by
  simp [Principal.hasCapability, normalizeScope_riskApprove, hhuman]

/-- The capabilities that the route passes on are those of the principal. -/
theorem passedOn_iff (p : Principal) :
    "risk:approve" ∈ (p.capabilities.map fun c => Python.lower (strip c)) ↔
      "risk:approve" ∈ p.capabilities := by
  have hnormal : (p.capabilities.map fun c => Python.lower (strip c)) = p.capabilities.map id := by
    refine List.map_congr_left fun c hc => normal_of_known ?_
    unfold Principal.capabilities at hc
    split at hc
    · simp at hc
    · exact capabilitiesOf_known p.roles hc
  rw [hnormal, List.map_id]

theorem approvalRole_of_role {roles : List String} {role : String} (horder : role ∈ approverRoleOrder)
    (hrole : role ∈ roles) : approvalRole (some roles) ≠ none := by
  have hspelled : ∀ role ∈ approverRoleOrder,
      strip role = role ∧ IsAscii role.toList ∧ asciiLower role = role ∧ role ≠ "" := by
    decide +kernel
  obtain ⟨hstrip, hascii, hlower, hne⟩ := hspelled role horder
  have hmem : role ∈ (roles.filter (strip · ≠ "")).map fun role => Python.lower (strip role) := by
    refine List.mem_map.2 ⟨role, List.mem_filter.2 ⟨hrole, ?_⟩, ?_⟩
    · simpa [hstrip] using hne
    · rw [hstrip, lower_of_ascii hascii hlower]
  intro hnone
  have hnot := List.find?_eq_none.1 hnone role horder
  exact hnot (decide_eq_true hmem)

/-- What an approval may be refused for. -/
theorem approvalGuards_error {a : ApproveArgs} {d : RiskDecision} {e : PyError}
    (h : approvalGuards a d = .error e) :
    (∃ text, e = .valueError text ∧ e ≠ lacksCapability ∧ e ≠ lacksRole) ∨
      ("risk:approve" ∉ (a.capabilities.getD []).map (fun c => Python.lower (strip c)) ∧
        e = lacksCapability) ∨
      (approvalRole a.actor.roles = none ∧ e = lacksRole) := by
  have houtcome : ∀ e, normalizeOutcome a.outcome = .error e →
      e = .valueError "risk decision outcome must be approve or reject" := by
    intro e he
    unfold normalizeOutcome at he
    dsimp only at he
    split at he
    · split_ifs at he
      exact (Except.error.inj he).symm
    · exact (Except.error.inj he).symm
  have hfields : ∀ e, actorAuditFields a.actor = .error e →
      e = .valueError "actor provenance must be legacy_request or authenticated_claim" := by
    intro e he
    unfold actorAuditFields at he
    split_ifs at he
    exact (Except.error.inj he).symm
  unfold approvalGuards at h
  rcases except_bind_eq_error.1 h with h | ⟨-, -, h⟩
  · obtain ⟨-, rfl⟩ := raiseIf_eq_error.1 h
    exact .inl ⟨_, rfl, by decide, by decide⟩
  rcases except_bind_eq_error.1 h with h | ⟨-, -, h⟩
  · obtain ⟨-, rfl⟩ := raiseIf_eq_error.1 h
    exact .inl ⟨_, rfl, by decide, by decide⟩
  rcases except_bind_eq_error.1 h with h | ⟨-, -, h⟩
  · obtain ⟨hnot, rfl⟩ := raiseIf_eq_error.1 h
    exact .inr (.inl ⟨hnot, rfl⟩)
  rcases except_bind_eq_error.1 h with h | ⟨-, -, h⟩
  · obtain ⟨-, rfl⟩ := raiseIf_eq_error.1 h
    exact .inl ⟨_, rfl, by decide, by decide⟩
  rcases except_bind_eq_error.1 h with h | ⟨outcome, -, h⟩
  · obtain rfl := houtcome e h
    exact .inl ⟨_, rfl, by decide, by decide⟩
  rcases except_bind_eq_error.1 h with h | ⟨-, -, h⟩
  · obtain ⟨-, rfl⟩ := raiseIf_eq_error.1 h
    exact .inl ⟨_, rfl, by decide, by decide⟩
  rcases except_bind_eq_error.1 h with h | ⟨fields, -, h⟩
  · obtain rfl := hfields e h
    exact .inl ⟨_, rfl, by decide, by decide⟩
  split at h
  · next hnone => exact .inr (.inr ⟨hnone, (Except.error.inj h).symm⟩)
  · cases h

/-- A human without the capability is refused for it, while the decision is pending. -/
theorem approvalGuards_lacksCapability {a : ApproveArgs} {d : RiskDecision}
    (hpending : d.status = .pendingApproval) (hhuman : a.actor.principalType = some "human")
    (hnot : "risk:approve" ∉ (a.capabilities.getD []).map (fun c => Python.lower (strip c))) :
    approvalGuards a d = .error lacksCapability := by
  unfold approvalGuards
  refine except_bind_eq_error.2 (.inr ⟨(), raiseIf_eq_ok.2 (not_not.2 hpending), ?_⟩)
  refine except_bind_eq_error.2 (.inr ⟨(), raiseIf_eq_ok.2 (not_not.2 hhuman), ?_⟩)
  exact except_bind_eq_error.2 (.inl (raiseIf_eq_error.2 ⟨hnot, rfl⟩))

/-- Whoever has the capability and an approver role is refused for neither. -/
theorem approvalGuards_ne {a : ApproveArgs} (d : RiskDecision)
    (hcapability : "risk:approve" ∈ (a.capabilities.getD []).map (fun c => Python.lower (strip c)))
    (hrole : approvalRole a.actor.roles ≠ none) :
    approvalGuards a d ≠ .error lacksCapability ∧ approvalGuards a d ≠ .error lacksRole := by
  constructor
  · intro h
    rcases approvalGuards_error h with ⟨-, -, hne, -⟩ | ⟨hnot, -⟩ | ⟨hnone, -⟩
    · exact hne rfl
    · exact hnot hcapability
    · exact hrole hnone
  · intro h
    rcases approvalGuards_error h with ⟨-, -, -, hne⟩ | ⟨hnot, -⟩ | ⟨hnone, -⟩
    · exact hne rfl
    · exact hnot hcapability
    · exact hrole hnone

/-- **The gates of an approval.** They agree on every principal but one who is a policy admin, with the
    capability as a permission. -/
theorem gatesAgree_iff (p : Principal) : GatesAgree p ↔ ¬ PermittedPolicyAdmin p := by
  constructor
  · intro hagree hadmin
    have hroute : PassesRoute p :=
      (passesRoute_iff p).2 ((hasCapability_riskApprove hadmin.human).2 (.inr hadmin.permission))
    have hrole : HasApproverRole p := ⟨"policy_admin", by decide, hadmin.role⟩
    refine (hagree.admitted hadmin.human hroute hrole "" .null "" none none pendingDecision).1 ?_
    have hvalue : (approvalArgs p "" .null "" none none).actor.principalType = some "human" := by
      simp [approvalArgs, hadmin.human, PrincipalType.value]
    refine approvalGuards_lacksCapability (a := approvalArgs p "" .null "" none none) rfl hvalue ?_
    show ¬ "risk:approve" ∈ (p.capabilities.map fun c => Python.lower (strip c))
    rw [passedOn_iff, mem_capabilities hadmin.human, riskApprove_mem_capabilitiesOf]
    have hothers := hadmin.others
    tauto
  · intro hadmin
    constructor
    · intro hhuman hroute hrole decisionId outcome reason requestId correlationId d
      obtain ⟨role, horder, hrole⟩ := hrole
      refine approvalGuards_ne d ((passedOn_iff p).2 ?_) (approvalRole_of_role horder hrole)
      rw [passesRoute_iff, hasCapability_riskApprove hhuman] at hroute
      rcases hroute with hcapability | hpermission
      · exact hcapability
      rw [mem_capabilities hhuman, riskApprove_mem_capabilitiesOf]
      by_contra hnone
      refine hadmin ⟨hhuman, ?_, hpermission, by tauto⟩
      simp only [approverRoleOrder, List.mem_cons, List.not_mem_nil, or_false] at horder
      rcases horder with rfl | rfl | rfl | rfl <;> tauto
    · rintro decisionId outcome reason requestId correlationId d ⟨o, fields, role⟩ hok
      have hguarded := approvalGuards_ok hok
      have hcapability := (passedOn_iff p).1 hguarded.capability
      have hhuman : p.principalType = .human := by
        have hvalue : some p.principalType.value = some "human" := hguarded.human
        by_contra hne
        cases h : p.principalType with
        | human => exact hne h
        | service =>
            rw [h] at hvalue
            exact absurd hvalue (by decide)
      exact (passesRoute_iff p).2 ((hasCapability_riskApprove hhuman).2 (.inl hcapability))

end Gates

/-- The claims of a policy admin who has the capability as a permission. -/
def policyAdminClaims : Mapping :=
  [("sub", .str "alice"), ("principal_type", .str "human"), ("organizations", .list [.str "acme"]),
    ("roles", .list [.str "policy_admin"]), ("permissions", .list [.str "risk:approve"])]

/-- The route admits this policy admin, and `approve_risk_decision` refuses what it passes on. -/
theorem permitted_policy_admin_refused :
    ∃ p, @principalFromClaims asciiPython policyAdminClaims defaultClaimNames = some p ∧
      p.principalType = .human ∧ @PassesRoute asciiPython p ∧ HasApproverRole p ∧
      @approvalGuards asciiPython (approvalArgs p "decision-1" (.str "approve") "no patch" none none)
        pendingDecision = .error lacksCapability := by
  let _ := asciiPython
  refine ⟨_, rfl, rfl, ?_, ⟨"policy_admin", by decide, by decide +kernel⟩, ?_⟩
  · exact (passesRoute_iff _).2 (by decide +kernel)
  · exact approvalGuards_lacksCapability rfl rfl (by decide +kernel)

end VulnOpsHub
