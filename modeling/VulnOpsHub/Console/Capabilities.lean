import VulnOpsHub.Console.Auth

set_option autoImplicit false

/-! # Console and API on capabilities

Both read the same claims. They part on the table (an admin may write assets in the API only), on white
space, and on roles that name a member of `Object.prototype`. -/

namespace VulnOpsHub

/-- Trimming and lowering do not depend on each other: a letter is never lowered to a space, nor is a
    space a letter. -/
class LowersApart [Python] : Prop where
  lower_strip : ∀ s : String, Python.lower (strip s) = strip (Python.lower s)

namespace Console

variable [Python]

/-! ## Agreement -/

/-- Both sides read the same claims, under the same names. -/
structure SameClaims (env : Environment) (names : ClaimNames) (claims : Mapping) (user : User) :
    Prop where
  role : env.roleClaim = names.role
  principalType : env.principalTypeClaim = names.principalType
  permission : env.permissionClaim = "permissions"
  serviceScope : names.serviceScope = "scope"
  profile : user.profile = claims
  scope : ∀ s ∈ claimValues user.scope, s ∈ claimValues (Value.get user.profile "scope")

/-- The console finds a capability where the API does. Around the capability is no character that only
    one of them takes for white space. -/
def Agrees (env : Environment) (user : User) (p : Principal) : Prop :=
  ∀ c, trim c = strip c → hasCapability env user c = some (p.hasCapability c)

/-- The permissions and the roles that the console reads amount to those that the API reads. Only the
    words count here, by the one table of the API. -/
def SameAuthority (env : Environment) (user : User) (p : Principal) : Prop :=
  ∀ c, trim c = strip c → Python.lower (strip c) ≠ "asset:write" →
    (Python.lower (strip c) ∈ p.permissions ∨
        Python.lower (strip c) ∈ Principal.capabilitiesOf p.roles ↔
      Python.lower (strip c) ∈ normalizedPermissions env user ∨
        Python.lower (strip c) ∈ Principal.capabilitiesOf (normalizedRoles env user))

/-- When the console agrees with the API on a human. -/
structure AgreesOnHuman (env : Environment) (user : User) (p : Principal) : Prop where
  iterable : ∀ role ∈ normalizedRoles env user, role ∉ objectPrototype
  authority : SameAuthority env user p
  assetWrite : "asset:write" ∈ p.permissions ∨ "admin" ∈ p.roles ↔
    "asset:write" ∈ normalizedPermissions env user

/-- When the console, which reads the type of a service as that of a human, agrees with the API. -/
structure AgreesOnSpaced (env : Environment) (user : User) (p : Principal) : Prop where
  iterable : ∀ role ∈ normalizedRoles env user, role ∉ objectPrototype
  roles : ∀ role ∈ normalizedRoles env user,
    role ∉ ["viewer", "owner", "auditor", "risk_approver", "security_lead", "admin"]
  permissions : ∀ c, trim c = strip c →
    (Python.lower (strip c) ∈ normalizedPermissions env user ↔
      Python.lower (strip c) ∈ serviceScopeCapabilities ∧ Python.lower (strip c) ∈ p.scopes)

/-- When the console agrees with the API. -/
structure AgreesWhen (env : Environment) (user : User) (p : Principal) : Prop where
  human : p.principalType = .human → AgreesOnHuman env user p
  service : p.principalType = .service → principalType env user = "service" →
    ∀ c ∈ serviceScopeCapabilities, c ∈ p.scopes ↔ c ∈ normalizedScopes user
  spaced : p.principalType = .service → principalType env user ≠ "service" →
    AgreesOnSpaced env user p

/-! ## Tables -/

omit [Python] in
theorem ownRoleCapabilities_eq (role : String) :
    ownRoleCapabilities role = (VulnOpsHub.roleCapabilities role).filter (· ≠ "asset:write") := by
  unfold ownRoleCapabilities VulnOpsHub.roleCapabilities
  split_ifs <;> decide

omit [Python] in
theorem mem_ownRoleCapabilities {role c : String} :
    c ∈ ownRoleCapabilities role ↔ c ∈ VulnOpsHub.roleCapabilities role ∧ c ≠ "asset:write" := by
  simp [ownRoleCapabilities_eq]

omit [Python] in
theorem assetWrite_mem_capabilitiesOf (roles : List String) :
    "asset:write" ∈ Principal.capabilitiesOf roles ↔ "admin" ∈ roles := by
  have hread : "asset:write" ∉ ["audit:read", "case:read", "provenance:read", "risk:read",
      "sbom:read", "verification:read"] := by decide
  have hviewer : "asset:write" ∉ VulnOpsHub.roleCapabilities "viewer" := by decide
  have howner : "asset:write" ∉ VulnOpsHub.roleCapabilities "owner" := by decide
  have happrover : "asset:write" ∉ VulnOpsHub.roleCapabilities "risk_approver" := by decide
  have hrole : ∀ role, "asset:write" ∈ VulnOpsHub.roleCapabilities role ↔ role = "admin" := by
    intro role
    unfold VulnOpsHub.roleCapabilities
    split_ifs with h <;> simp_all
  have hroles : "asset:write" ∈ roles.flatMap VulnOpsHub.roleCapabilities ↔ "admin" ∈ roles := by
    simp [List.mem_flatMap, hrole]
  simp only [Principal.capabilitiesOf, List.mem_append, mem_ite_nil, hread, hviewer, howner,
    happrover, hroles, or_self, and_false, or_false]

/-- What the console grants for roles, when it does not throw. -/
def granted (roles : List String) : List String :=
  roles.flatMap ownRoleCapabilities
    ++ (if "owner" ∈ roles ∨ "risk_approver" ∈ roles ∨ "security_lead" ∈ roles ∨ "admin" ∈ roles
      then ["case:read", "sbom:read"] else [])
    ++ (if "risk_approver" ∈ roles ∨ "security_lead" ∈ roles ∨ "admin" ∈ roles
      then ["risk:approve"] else [])
    ++ (if "security_lead" ∈ roles then ownRoleCapabilities "owner" else [])
    ++ (if "admin" ∈ roles then humanRoleCapabilities else [])

omit [Python] in
theorem roleAuthority_some {roles : List String} (h : ∀ role ∈ roles, role ∉ objectPrototype) :
    roleAuthority roles = some (granted roles) := by
  have hmap : ∀ rs : List String, (∀ role ∈ rs, role ∉ objectPrototype) →
      rs.mapM roleCapabilities = some (rs.map ownRoleCapabilities) := by
    intro rs hrs
    induction rs with
    | nil => rfl
    | cons role rest ih =>
        have hrole : roleCapabilities role = some (ownRoleCapabilities role) :=
          if_neg (hrs role List.mem_cons_self)
        rw [List.mapM_cons, hrole, ih fun r hr => hrs r (List.mem_cons_of_mem _ hr)]
        rfl
  rw [roleAuthority, hmap roles h, Option.map_some, granted, List.flatMap_def]

omit [Python] in
theorem roleAuthority_none {roles : List String} {role : String} (hrole : role ∈ roles)
    (h : role ∈ objectPrototype) : roleAuthority roles = none := by
  have hmap : roles.mapM roleCapabilities = none := by
    induction roles with
    | nil => cases hrole
    | cons r rest ih =>
        rw [List.mapM_cons]
        rcases List.mem_cons.1 hrole with rfl | hrest
        · rw [show roleCapabilities role = none from if_pos h]
          rfl
        · rw [ih hrest]
          cases roleCapabilities r <;> rfl
  rw [roleAuthority, hmap, Option.map_none]

omit [Python] in
theorem ownRoleCapabilities_subset (role : String) :
    ownRoleCapabilities role ⊆ humanRoleCapabilities := by
  unfold ownRoleCapabilities
  split_ifs <;> decide

omit [Python] in
theorem mem_granted_of_admin {roles : List String} {c : String} (hadmin : "admin" ∈ roles) :
    c ∈ granted roles ↔ c ∈ humanRoleCapabilities := by
  have hroles : roles.flatMap ownRoleCapabilities ⊆ humanRoleCapabilities := by
    intro c hc
    obtain ⟨role, -, hrole⟩ := List.mem_flatMap.1 hc
    exact ownRoleCapabilities_subset role hrole
  constructor
  · intro hc
    have hsub : granted roles ⊆ humanRoleCapabilities := by
      unfold granted
      refine List.append_subset.2 ⟨List.append_subset.2 ⟨List.append_subset.2
        ⟨List.append_subset.2 ⟨hroles, ?_⟩, ?_⟩, ?_⟩, ?_⟩
      all_goals split_ifs
      all_goals decide
    exact hsub hc
  · intro hc
    exact List.mem_append_right _ (by rwa [if_pos hadmin])

omit [Python] in
theorem mem_capabilitiesOf_of_admin {roles : List String} {c : String} (hadmin : "admin" ∈ roles) :
    c ∈ Principal.capabilitiesOf roles ↔ c ∈ knownCapabilities := by
  have hadmins : ∀ c ∈ knownCapabilities, c ∈ VulnOpsHub.roleCapabilities "admin" ∨
      c ∈ ["audit:read", "case:read", "provenance:read", "risk:read", "sbom:read",
        "verification:read"] := by decide
  constructor
  · intro hc
    exact capabilitiesOf_known roles hc
  · intro hc
    rcases hadmins c hc with hc | hc
    · have hroles : c ∈ roles.flatMap VulnOpsHub.roleCapabilities :=
        List.mem_flatMap.2 ⟨"admin", hadmin, hc⟩
      simp only [Principal.capabilitiesOf, List.mem_append, hroles, true_or]
    · exact List.mem_append_right _ (by rwa [if_pos hadmin])

omit [Python] in
/-- The roles grant in the console what they grant in the API, but `asset:write`. -/
theorem mem_granted {roles : List String} {c : String} :
    c ∈ granted roles ↔ c ∈ Principal.capabilitiesOf roles ∧ c ≠ "asset:write" := by
  by_cases hadmin : "admin" ∈ roles
  · have hknown : ∀ c ∈ knownCapabilities, c ≠ "asset:write" → c ∈ humanRoleCapabilities := by
      decide
    have hhuman : ∀ c ∈ humanRoleCapabilities, c ∈ knownCapabilities ∧ c ≠ "asset:write" := by
      decide
    rw [mem_granted_of_admin hadmin, mem_capabilitiesOf_of_admin hadmin]
    exact ⟨hhuman c, fun h => hknown c h.1 h.2⟩
  · have hroles : c ∈ roles.flatMap ownRoleCapabilities ↔
        c ∈ roles.flatMap VulnOpsHub.roleCapabilities ∧ c ≠ "asset:write" := by
      simp only [List.mem_flatMap, mem_ownRoleCapabilities]
      tauto
    have hviewer : ∀ c ∈ ["case:read", "sbom:read"], c ≠ "asset:write" := by decide
    have happrover : ∀ c ∈ ["risk:approve"], c ≠ "asset:write" := by decide
    have howner : ∀ c ∈ ["case:write", "risk:request", "verification:write"], c ≠ "asset:write" := by
      decide
    have hv := hviewer c
    have ha := happrover c
    have ho := howner c
    have hlists : VulnOpsHub.roleCapabilities "viewer" = ["case:read", "sbom:read"] ∧
        VulnOpsHub.roleCapabilities "risk_approver" = ["risk:approve"] ∧
        VulnOpsHub.roleCapabilities "owner" = ["case:write", "risk:request", "verification:write"] ∧
        ownRoleCapabilities "owner" = ["case:write", "risk:request", "verification:write"] := by
      decide
    obtain ⟨hlv, hla, hlo, hlo'⟩ := hlists
    simp only [granted, Principal.capabilitiesOf, hlv, hla, hlo, hlo', List.mem_append,
      mem_ite_nil, hroles, hadmin, false_and, or_false]
    constructor
    · rintro (((⟨hc, hne⟩ | ⟨hif, hc⟩) | ⟨hif, hc⟩) | ⟨hif, hc⟩)
      · exact ⟨.inl (.inl (.inl hc)), hne⟩
      · exact ⟨.inl (.inl (.inr ⟨hif, hc⟩)), hv hc⟩
      · exact ⟨.inl (.inr ⟨hif, hc⟩), ha hc⟩
      · exact ⟨.inr ⟨hif, .inl hc⟩, ho hc⟩
    · rintro ⟨((hc | ⟨hif, hc⟩) | ⟨hif, hc⟩) | ⟨hif, hc | hc⟩, hne⟩
      · exact .inl (.inl (.inl ⟨hc, hne⟩))
      · exact .inl (.inl (.inr ⟨hif, hc⟩))
      · exact .inl (.inr ⟨hif, hc⟩)
      · exact .inr ⟨hif, hc⟩
      -- the API adds the capabilities of a viewer once more
      · exact .inl (.inl (.inr ⟨.inr (.inr hif), hc⟩))

omit [Python] in
theorem capabilitiesOf_eq_nil {roles : List String} (h : ∀ role ∈ roles,
    role ∉ ["viewer", "owner", "auditor", "risk_approver", "security_lead", "admin"]) :
    Principal.capabilitiesOf roles = [] := by
  have hnot : ∀ name ∈ ["viewer", "owner", "auditor", "risk_approver", "security_lead", "admin"],
      name ∉ roles := fun name hname hrole => h name hrole hname
  have hroles : roles.flatMap VulnOpsHub.roleCapabilities = [] := by
    refine List.flatMap_eq_nil_iff.2 fun role hrole => ?_
    have hunknown := h role hrole
    simp only [List.mem_cons, List.not_mem_nil, or_false, not_or] at hunknown
    simp [VulnOpsHub.roleCapabilities, hunknown]
  have howner := hnot "owner" (by decide)
  have happrover := hnot "risk_approver" (by decide)
  have hlead := hnot "security_lead" (by decide)
  have hadmin := hnot "admin" (by decide)
  simp [Principal.capabilitiesOf, hroles, howner, happrover, hlead, hadmin]

omit [Python] in
theorem trim_of_known {c : String} (h : c ∈ knownCapabilities) : trim c = strip c := by
  have hspelled : ∀ c ∈ knownCapabilities, trim c = strip c := by decide +kernel
  exact hspelled c h

/-! ## Both sides on one capability -/

theorem hasCapability_human {p : Principal} (hhuman : p.principalType = .human)
    (hne : "" ∉ p.permissions) {c : String} :
    p.hasCapability c = true ↔ Python.lower (strip c) ∈ p.permissions ∨
      Python.lower (strip c) ∈ Principal.capabilitiesOf p.roles := by
  by_cases hempty : Python.lower (strip c) = ""
  · have hknown : "" ∉ Principal.capabilitiesOf p.roles := fun h =>
      absurd (capabilitiesOf_known p.roles h) (by decide)
    simp [Principal.hasCapability, normalizeScope_of_empty hempty, hempty, hne, hknown]
  · simp [Principal.hasCapability, normalizeScope_of_ne hempty, hhuman, Principal.capabilities,
      or_comm]

theorem hasCapability_service {p : Principal} (hservice : p.principalType = .service) {c : String} :
    p.hasCapability c = true ↔ Python.lower (strip c) ∈ serviceScopeCapabilities ∧
      Python.lower (strip c) ∈ p.scopes := by
  by_cases hempty : Python.lower (strip c) = ""
  · have hnot : "" ∉ serviceScopeCapabilities := by decide
    simp [Principal.hasCapability, normalizeScope_of_empty hempty, hempty, hnot]
  · have hscopes : serviceScopeCapabilities = VulnOpsHub.serviceScopeCapabilities := rfl
    simp [Principal.hasCapability, normalizeScope_of_ne hempty, hservice, hscopes]

section Agreement

variable {env : Environment} {user : User} {p : Principal}

theorem agrees_of_service (htype : principalType env user = "service") :
    Agrees env user p ↔ ∀ c, trim c = strip c →
      (p.hasCapability c = true ↔ Python.lower (strip c) ∈ serviceScopeCapabilities ∧
        Python.lower (strip c) ∈ normalizedScopes user) := by
  refine forall₂_congr fun c hc => ?_
  rw [hasCapability, capabilitiesForUser, if_pos htype, Option.map_some, Option.some.injEq, hc,
    ← Bool.coe_iff_coe, decide_eq_true_eq, List.mem_filter, decide_eq_true_eq]
  exact ⟨fun h => h.symm.trans and_comm, fun h => (h.trans and_comm).symm⟩

theorem agrees_of_human (htype : principalType env user ≠ "service") :
    Agrees env user p ↔ (∀ role ∈ normalizedRoles env user, role ∉ objectPrototype) ∧
      ∀ c, trim c = strip c →
        (p.hasCapability c = true ↔ Python.lower (strip c) ∈ normalizedPermissions env user ∨
          Python.lower (strip c) ∈ Principal.capabilitiesOf (normalizedRoles env user) ∧
            Python.lower (strip c) ≠ "asset:write") := by
  by_cases hiter : ∀ role ∈ normalizedRoles env user, role ∉ objectPrototype
  · rw [and_iff_right hiter]
    refine forall₂_congr fun c hc => ?_
    rw [hasCapability, capabilitiesForUser, if_neg htype, roleAuthority_some hiter,
      Option.map_some, Option.map_some, Option.some.injEq, hc, ← Bool.coe_iff_coe,
      decide_eq_true_eq, List.mem_append, mem_granted]
    exact ⟨Iff.symm, Iff.symm⟩
  · refine iff_of_false (fun hagrees => ?_) fun h => hiter h.1
    -- the console throws, whatever it is asked for
    obtain ⟨role, hrole, hproto⟩ : ∃ role ∈ normalizedRoles env user, role ∈ objectPrototype := by
      simpa using hiter
    have hnone := hagrees "" rfl
    rw [hasCapability, capabilitiesForUser, if_neg htype, roleAuthority_none hrole hproto] at hnone
    cases hnone

/-- A human is no service to the console. -/
theorem principalType_of_human [LowersApart] {names : ClaimNames} {claims : Mapping}
    (hof : PrincipalOf claims names p) (hsame : SameClaims env names claims user)
    (hhuman : p.principalType = .human) : principalType env user ≠ "service" := by
  intro htype
  have hclaim := hof.principalType
  obtain ⟨text, htext, hvalue⟩ := Option.bind_eq_some_iff.1 hclaim
  have hstr : Value.get claims names.principalType = .str text := by
    revert htext
    cases Value.get claims names.principalType <;> simp [Value.text]
  rw [principalType, hsame.profile, hsame.principalType, hstr] at htype
  have hlower : Python.lower (strip text) = "service" := by
    have hread : Python.lower text = "service" := htype
    rw [LowersApart.lower_strip, hread]
    decide +kernel
  rw [hlower, hhuman] at hvalue
  exact absurd hvalue (by decide)

/-! ## The condition -/

theorem agreesOnHuman_iff (hhuman : p.principalType = .human) (hne : "" ∉ p.permissions)
    (htype : principalType env user ≠ "service") :
    Agrees env user p ↔ AgreesOnHuman env user p := by
  have hspelled : trim "asset:write" = strip "asset:write" := by decide +kernel
  have hlower : Python.lower (strip "asset:write") = "asset:write" := normal_of_known (by decide)
  rw [agrees_of_human htype]
  constructor
  · rintro ⟨hiter, hagrees⟩
    refine ⟨hiter, fun c hc hnot => ?_, ?_⟩
    · have hboth := hagrees c hc
      rw [hasCapability_human hhuman hne, and_iff_left hnot] at hboth
      exact hboth
    · have hboth := hagrees "asset:write" hspelled
      rw [hasCapability_human hhuman hne, hlower, assetWrite_mem_capabilitiesOf] at hboth
      simpa using hboth
  · rintro ⟨hiter, hauthority, hasset⟩
    refine ⟨hiter, fun c hc => ?_⟩
    rw [hasCapability_human hhuman hne]
    by_cases hnot : Python.lower (strip c) = "asset:write"
    · rw [hnot, assetWrite_mem_capabilitiesOf]
      simpa using hasset
    · rw [and_iff_left hnot]
      exact hauthority c hc hnot

theorem agreesOnService_iff (hservice : p.principalType = .service)
    (htype : principalType env user = "service") :
    Agrees env user p ↔
      ∀ c ∈ serviceScopeCapabilities, c ∈ p.scopes ↔ c ∈ normalizedScopes user := by
  have hspelled : ∀ c ∈ serviceScopeCapabilities, trim c = strip c ∧ strip c = c ∧
      IsAscii c.toList ∧ asciiLower c = c := by decide +kernel
  rw [agrees_of_service htype]
  constructor
  · intro hagrees c hc
    obtain ⟨htrim, hstrip, hascii, hlower⟩ := hspelled c hc
    have hboth := hagrees c htrim
    rw [hasCapability_service hservice, hstrip, lower_of_ascii hascii hlower] at hboth
    simpa [hc] using hboth
  · intro hscopes c hc
    rw [hasCapability_service hservice]
    exact and_congr_right fun hmem => hscopes _ hmem

omit [Python] in
/-- A role that gives anything to a human gives something that no scope gives to a service. -/
theorem exists_human_only {roles : List String} {role : String} (hrole : role ∈ roles)
    (htable : role ∈ ["viewer", "owner", "auditor", "risk_approver", "security_lead", "admin"]) :
    ∃ c ∈ knownCapabilities, c ∈ Principal.capabilitiesOf roles ∧ c ≠ "asset:write" ∧
      c ∉ serviceScopeCapabilities := by
  have hgives : ∀ {c}, c ∈ VulnOpsHub.roleCapabilities role → c ∈ Principal.capabilitiesOf roles := by
    intro c hc
    have hroles : c ∈ roles.flatMap VulnOpsHub.roleCapabilities :=
      List.mem_flatMap.2 ⟨role, hrole, hc⟩
    simp only [Principal.capabilitiesOf, List.mem_append, hroles, true_or]
  simp only [List.mem_cons, List.not_mem_nil, or_false] at htable
  rcases htable with rfl | rfl | rfl | rfl | rfl | rfl
  · exact ⟨"case:read", by decide, hgives (by decide), by decide, by decide⟩
  · exact ⟨"case:write", by decide, hgives (by decide), by decide, by decide⟩
  · exact ⟨"case:read", by decide, hgives (by decide), by decide, by decide⟩
  · exact ⟨"risk:approve", by decide, hgives (by decide), by decide, by decide⟩
  · -- a security lead has what a viewer has
    refine ⟨"case:read", by decide, ?_, by decide, by decide⟩
    have hviewer : "case:read" ∈ VulnOpsHub.roleCapabilities "viewer" := by decide
    simp [Principal.capabilitiesOf, hrole, hviewer]
  · exact ⟨"case:write", by decide, hgives (by decide), by decide, by decide⟩

theorem agreesOnSpaced_iff (hservice : p.principalType = .service)
    (htype : principalType env user ≠ "service") :
    Agrees env user p ↔ AgreesOnSpaced env user p := by
  rw [agrees_of_human htype]
  constructor
  · rintro ⟨hiter, hagrees⟩
    have hroles : ∀ role ∈ normalizedRoles env user,
        role ∉ ["viewer", "owner", "auditor", "risk_approver", "security_lead", "admin"] := by
      intro role hrole htable
      obtain ⟨c, hknown, hcapability, hne, hnot⟩ := exists_human_only hrole htable
      have hboth := hagrees c (trim_of_known hknown)
      rw [hasCapability_service hservice, normal_of_known hknown] at hboth
      exact hnot (hboth.2 (.inr ⟨hcapability, hne⟩)).1
    refine ⟨hiter, hroles, fun c hc => ?_⟩
    have hboth := hagrees c hc
    rw [hasCapability_service hservice] at hboth
    rw [hboth, capabilitiesOf_eq_nil hroles]
    simp
  · rintro ⟨hiter, hroles, hpermissions⟩
    refine ⟨hiter, fun c hc => ?_⟩
    rw [hasCapability_service hservice, ← hpermissions c hc, capabilitiesOf_eq_nil hroles]
    simp

/-- **Console and API on capabilities.** They agree on every capability exactly when `AgreesWhen`. -/
theorem agrees_iff [LowersApart] {names : ClaimNames} {claims : Mapping}
    (hp : principalFromClaims claims names = some p) (hsame : SameClaims env names claims user) :
    Agrees env user p ↔ AgreesWhen env user p := by
  have hof := principalOf hp
  have hne := ne_empty_of_mem_claimScopes hof.permissions
  by_cases hservice : p.principalType = .service
  · by_cases htype : principalType env user = "service"
    · rw [agreesOnService_iff hservice htype]
      constructor
      · intro h
        exact ⟨fun hhuman => by simp [hservice] at hhuman, fun _ _ => h, fun _ hnot => absurd htype hnot⟩
      · intro h
        exact h.service hservice htype
    · rw [agreesOnSpaced_iff hservice htype]
      constructor
      · intro h
        exact ⟨fun hhuman => by simp [hservice] at hhuman, fun _ heq => absurd heq htype, fun _ _ => h⟩
      · intro h
        exact h.spaced hservice htype
  · have hhuman : p.principalType = .human := by
      cases h : p.principalType with
      | human => rfl
      | service => exact absurd h hservice
    rw [agreesOnHuman_iff hhuman hne (principalType_of_human hof hsame hhuman)]
    constructor
    · intro h
      exact ⟨fun _ => h, fun heq => absurd heq hservice, fun heq => absurd heq hservice⟩
    · intro h
      exact h.human hhuman

end Agreement

/-! ## Plain claims -/

omit [Python] in
/-- No character of the text is white space for one side only. -/
def PlainText (s : String) : Prop := ∀ c ∈ s.toList, isSpace c = VulnOpsHub.isSpace c

/-- A claim that is absent, a plain text or a list of plain texts. -/
def PlainClaim : Value → Prop
  | .none => True
  | .str s => PlainText s
  | .list items => ∀ s, .str s ∈ items → PlainText s
  | _ => False

omit [Python] in
theorem trim_of_plain {s : String} (h : PlainText s) : trim s = strip s := trimBy_congr h

omit [Python] in
theorem filterMap_text {items : List Value} {texts : List String}
    (h : items.mapM Value.text = some texts) : items.filterMap Value.text = texts := by
  induction items generalizing texts with
  | nil => exact Option.some.inj h
  | cons item rest ih =>
      rw [List.mapM_cons] at h
      obtain ⟨text, htext, h⟩ := Option.bind_eq_some_iff.1 h
      obtain ⟨others, hothers, h⟩ := Option.bind_eq_some_iff.1 h
      rw [List.filterMap_cons_some htext, ih hothers]
      exact Option.some.inj h

omit [Python] in
theorem mem_texts {items : List Value} {text : String} (h : text ∈ items.filterMap Value.text) :
    .str text ∈ items := by
  obtain ⟨item, hitem, htext⟩ := List.mem_filterMap.1 h
  cases item <;> simp [Value.text] at htext
  rwa [htext] at hitem

omit [Python] in
/-- Both sides read the same words in a plain claim. -/
theorem claimValues_of_plain {value : Value} {values : List String} (h : PlainClaim value)
    (hvalues : VulnOpsHub.claimValues value = some values) : claimValues value = values := by
  obtain ⟨items, hitems, rfl⟩ := Option.map_eq_some_iff.1 hvalues
  cases value with
  | none =>
      obtain rfl : [] = items := Option.some.inj hitems
      rfl
  | str s =>
      obtain rfl : wordsBy VulnOpsHub.isSpace s = items := Option.some.inj hitems
      have hwords : wordsBy isSpace s = wordsBy VulnOpsHub.isSpace s := wordsBy_congr h
      rw [claimValues, hwords]
      congr 1
      refine List.map_congr_left fun w hw => ?_
      -- nothing is trimmed from a word
      have hstrip : strip w = w := trimBy_of_mem_wordsBy hw
      have htrim : trim w = w := trimBy_of_mem_wordsBy (hwords ▸ hw)
      rw [hstrip, htrim]
  | list texts =>
      have htexts := filterMap_text hitems
      rw [claimValues, htexts]
      congr 1
      refine List.map_congr_left fun w hw => trim_of_plain (h w (mem_texts ?_))
      rwa [htexts]
  | _ => exact absurd h id

omit [Python] in
theorem mapM_eq_map {α β : Type} {f : α → Option β} {g : α → β} {xs : List α} {ys : List β}
    (hf : ∀ x ∈ xs, ∀ y, f x = some y → y = g x) (h : xs.mapM f = some ys) : ys = xs.map g := by
  induction xs generalizing ys with
  | nil => exact (Option.some.inj h).symm
  | cons x rest ih =>
      rw [List.mapM_cons] at h
      obtain ⟨y, hy, h⟩ := Option.bind_eq_some_iff.1 h
      obtain ⟨others, hothers, h⟩ := Option.bind_eq_some_iff.1 h
      obtain rfl : y :: others = ys := Option.some.inj h
      rw [List.map_cons, hf x List.mem_cons_self y hy,
        ih (fun x' hx' => hf x' (List.mem_cons_of_mem _ hx')) hothers]

/-- What the API reads in a plain claim of scopes or permissions. -/
theorem claimScopes_of_plain {value : Value} {scopes : List String} (h : PlainClaim value)
    (hscopes : claimScopes value = some scopes) : scopes = (claimValues value).map Python.lower := by
  obtain ⟨values, hvalues, hscopes⟩ := Option.bind_eq_some_iff.1 hscopes
  rw [claimValues_of_plain h hvalues]
  refine mapM_eq_map (fun v hv scope hscope => ?_) hscopes
  obtain ⟨hlower, -⟩ := Option.filter_eq_some_iff.1 hscope
  rw [strip_of_mem_claimValues hvalues v hv] at hlower
  exact (Option.some.inj hlower).symm

/-- What the API reads in a plain claim of roles. -/
theorem claimRoles_of_plain {value : Value} {roles : List String} (h : PlainClaim value)
    (hroles : claimRoles .human value = some roles) :
    roles = (claimValues value).map fun role => underscored (Python.lower role) := by
  obtain ⟨values, hvalues, hroles⟩ := Option.bind_eq_some_iff.1 hroles
  rw [claimValues_of_plain h hvalues]
  refine mapM_eq_map (fun v hv role hrole => ?_) hroles
  obtain ⟨hlower, -⟩ := Option.filter_eq_some_iff.1 hrole
  rw [strip_of_mem_claimValues hvalues v hv] at hlower
  exact (Option.some.inj hlower).symm

section Plain

variable {env : Environment} {names : ClaimNames} {claims : Mapping} {user : User} {p : Principal}

/-- On plain claims the console agrees on a human unless it throws or hides the right to write assets. -/
theorem agreesOnHuman_of_plain (hof : PrincipalOf claims names p)
    (hsame : SameClaims env names claims user) (hhuman : p.principalType = .human)
    (hroles : PlainClaim (Value.get claims names.role))
    (hpermissions : PlainClaim (Value.get claims "permissions")) :
    AgreesOnHuman env user p ↔ (∀ role ∈ p.roles, role ∉ objectPrototype) ∧
      ("admin" ∈ p.roles → "asset:write" ∈ p.permissions) := by
  have hread : normalizedRoles env user = p.roles := by
    have hrolesOf := hof.roles
    rw [hhuman] at hrolesOf
    rw [claimRoles_of_plain hroles hrolesOf, normalizedRoles, hsame.profile, hsame.role]
  have hread' : normalizedPermissions env user = p.permissions := by
    rw [claimScopes_of_plain hpermissions hof.permissions, normalizedPermissions, hsame.profile,
      hsame.permission]
  constructor
  · intro h
    have hasset := h.assetWrite
    have hiter := h.iterable
    rw [hread] at hiter
    rw [hread'] at hasset
    exact ⟨hiter, fun hadmin => hasset.1 (.inr hadmin)⟩
  · rintro ⟨hiter, hasset⟩
    refine ⟨hread.symm ▸ hiter, fun c _ _ => ?_, ?_⟩
    · rw [hread, hread']
    · rw [hread']
      exact ⟨fun h => h.elim id hasset, .inl⟩

/-- On a plain scope claim the console reads the scopes of a service as the API does. -/
theorem normalizedScopes_of_plain (hof : PrincipalOf claims names p)
    (hsame : SameClaims env names claims user) (hscope : PlainClaim (Value.get claims "scope"))
    (c : String) : c ∈ p.scopes ↔ c ∈ normalizedScopes user := by
  have hscopes := hof.scopes
  rw [hsame.serviceScope] at hscopes
  have hfields := hsame.scope
  rw [hsame.profile] at hfields
  rw [claimScopes_of_plain hscope hscopes, normalizedScopes, hsame.profile, List.map_append,
    List.mem_append]
  constructor
  · exact .inl
  · rintro (h | h)
    · exact h
    · -- the scope of the response adds nothing to the claim
      obtain ⟨s, hs, rfl⟩ := List.mem_map.1 h
      exact List.mem_map.2 ⟨s, hfields s hs, rfl⟩

end Plain

end Console

/-! ## Samples -/

theorem isSpace_toLower (c : Char) : isSpace c.toLower = isSpace c := by
  by_cases hc : c.val ≥ 'A'.val ∧ c.val ≤ 'Z'.val
  · -- neither a capital nor its small letter is white space
    have hnat : 65 ≤ c.toNat ∧ c.toNat ≤ 90 := hc
    have hlower := toNat_toLower hc
    have hnot : ∀ n, 65 ≤ n → n ≤ 122 → n ∉ [0x09, 0x0a, 0x0b, 0x0c, 0x0d, 0x1c, 0x1d, 0x1e, 0x1f,
        0x20, 0x85, 0xa0, 0x1680, 0x2000, 0x2001, 0x2002, 0x2003, 0x2004, 0x2005, 0x2006, 0x2007,
        0x2008, 0x2009, 0x200a, 0x2028, 0x2029, 0x202f, 0x205f, 0x3000] := by
      intro n hlow hhigh hmem
      simp only [List.mem_cons, List.not_mem_nil, or_false] at hmem
      omega
    rw [isSpace, isSpace, hlower, decide_eq_false (hnot _ (by omega) (by omega)),
      decide_eq_false (hnot _ (by omega) (by omega))]
  · rw [toLower_eq_self hc]

theorem asciiLowersApart : @LowersApart asciiPython := by
  refine @LowersApart.mk asciiPython fun s => ?_
  show asciiLower (strip s) = strip (asciiLower s)
  have hspace : isSpace ∘ Char.toLower = isSpace := funext isSpace_toLower
  simp only [asciiLower, strip, String.toList_ofList, List.rdropWhile, List.dropWhile_map,
    ← List.map_reverse, hspace]

/-- The claims of an administrator. -/
def adminClaims : Mapping :=
  [("sub", .str "alice"), ("principal_type", .str "human"), ("organizations", .list [.str "acme"]),
    ("roles", .list [.str "admin"])]

/-- The console under the names of the claims by default. -/
def defaultEnvironment : Console.Environment where
  roleClaim := "roles"
  principalTypeClaim := "principal_type"
  permissionClaim := "permissions"

/-- The user with these claims. -/
def adminUser : Console.User := ⟨adminClaims, .none⟩

theorem sameClaims_admin :
    Console.SameClaims defaultEnvironment defaultClaimNames adminClaims adminUser :=
  ⟨rfl, rfl, rfl, rfl, rfl, fun s hs => by cases hs⟩

/-- The API lets an administrator write assets, and the console does not show it. -/
theorem admin_asset_write_hidden :
    ∃ p, @principalFromClaims asciiPython adminClaims defaultClaimNames = some p ∧
      Console.SameClaims defaultEnvironment defaultClaimNames adminClaims adminUser ∧
      @Principal.hasCapability asciiPython p "asset:write" = true ∧
      @Console.hasCapability asciiPython defaultEnvironment adminUser "asset:write" = some false := by
  refine ⟨_, rfl, sameClaims_admin, ?_, ?_⟩
  · decide +kernel
  · decide +kernel

/-- The condition on the claims of an administrator. -/
theorem agrees_iff_admin : ∃ p, @principalFromClaims asciiPython adminClaims defaultClaimNames = some p ∧
    (@Console.Agrees asciiPython defaultEnvironment adminUser p ↔
      @Console.AgreesWhen asciiPython defaultEnvironment adminUser p) :=
  ⟨_, rfl, @Console.agrees_iff asciiPython _ _ _ asciiLowersApart _ _ rfl sameClaims_admin⟩

end VulnOpsHub
