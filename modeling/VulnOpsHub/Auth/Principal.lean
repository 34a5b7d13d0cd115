import VulnOpsHub.Auth.Values
import VulnOpsHub.Lib.Words

set_option autoImplicit false

/-! # Principals

The identity that `principal_from_claims` makes of verified claims, its capabilities, and the checks
that routes make of it. Sets of strings are lists here: only membership counts. -/

namespace VulnOpsHub

inductive PrincipalType where
  | human
  | service
deriving DecidableEq, Repr

def PrincipalType.value : PrincipalType → String
  | .human => "human"
  | .service => "service"

/-- `PrincipalType(value)`. -/
def PrincipalType.ofText (value : String) : Option PrincipalType :=
  if value = "human" then some .human
  else if value = "service" then some .service
  else none

/-! ## Capabilities -/

/-- `_ROLE_CAPABILITIES.get(role, frozenset())`. -/
def roleCapabilities (role : String) : List String :=
  if role = "viewer" then ["case:read", "sbom:read"]
  else if role = "owner" then ["case:write", "risk:request", "verification:write"]
  else if role = "auditor" then
    ["audit:read", "case:read", "provenance:read", "risk:read", "verification:read"]
  else if role = "risk_approver" then ["risk:approve"]
  else if role = "security_lead" then []
  else if role = "admin" then
    ["asset:write", "case:write", "risk:approve", "risk:request", "sbom:write",
      "verification:write"]
  else []

/-- `_SERVICE_SCOPE_CAPABILITIES`. -/
def serviceScopeCapabilities : List String :=
  ["evidence:raw:read", "evidence:write", "sbom:read", "sbom:write"]

/-! ## Claims -/

/-- The string a claim item is; any other item is refused. -/
def Value.text : Value → Option String
  | .str s => some s
  | _ => Option.none

/-- What `iter` goes through for a claim: the words of a string, the items of a list, the keys of a
    mapping. -/
def claimItems : Value → Option (List String)
  | .none => some []
  | .str s => some (wordsBy isSpace s)
  | .list items => items.mapM Value.text
  | .dict members => some (members.map Prod.fst)
  | _ => none

/-- `_claim_values`; `none` stands for its `ValueError`. -/
def claimValues (value : Value) : Option (List String) :=
  (claimItems value).map fun items => (items.map strip).filter (· ≠ "")

section Claims

variable [Python]

/-- `text.replace("-", "_")`. -/
def underscored (text : String) : String :=
  String.ofList (text.toList.map fun c => if c = '-' then '_' else c)

/-- `normalize_role`. -/
def normalizeRole (role : String) : Option String :=
  (some (underscored (Python.lower (strip role)))).filter (· ≠ "")

/-- `normalize_scope`. -/
def normalizeScope (scope : String) : Option String :=
  (some (Python.lower (strip scope))).filter (· ≠ "")

theorem normalizeScope_of_empty {c : String} (h : Python.lower (strip c) = "") :
    normalizeScope c = none := by
  simp [normalizeScope, Option.filter_some, h]

theorem normalizeScope_of_ne {c : String} (h : Python.lower (strip c) ≠ "") :
    normalizeScope c = some (Python.lower (strip c)) := by
  simp [normalizeScope, Option.filter_some, h]

/-- `Principal`. -/
structure Principal where
  subject : String
  principalType : PrincipalType
  organizationIds : List String
  roles : List String
  scopes : List String
  permissions : List String
  organizations_stripped : ∀ o ∈ organizationIds, strip o = o

omit [Python] in
theorem strip_of_mem_claimValues {value : Value} {values : List String}
    (h : claimValues value = some values) : ∀ v ∈ values, strip v = v := by
  intro v hv
  obtain ⟨items, -, rfl⟩ := Option.map_eq_some_iff.1 h
  obtain ⟨item, -, rfl⟩ := List.mem_map.1 (List.mem_of_mem_filter hv)
  exact trimBy_trimBy

/-- The names of the claims, from the settings. -/
structure ClaimNames where
  principalType : String
  organization : String
  role : String
  serviceScope : String
deriving DecidableEq, Repr

/-- The names of the claims by default. -/
def defaultClaimNames : ClaimNames where
  principalType := "principal_type"
  organization := "organizations"
  role := "roles"
  serviceScope := "scope"

/-- `_claim_principal_type`. -/
def claimPrincipalType (claims : Mapping) (name : String) : Option PrincipalType :=
  (Value.get claims name).text.bind fun text => PrincipalType.ofText (Python.lower (strip text))

/-- The roles of a principal; a service has none. -/
def claimRoles (principalType : PrincipalType) (value : Value) : Option (List String) :=
  match principalType with
  | .human => (claimValues value).bind fun roles => roles.mapM normalizeRole
  | .service => some []

/-- The scopes or the permissions of a principal. -/
def claimScopes (value : Value) : Option (List String) :=
  (claimValues value).bind fun scopes => scopes.mapM normalizeScope

/-- `principal_from_claims`; `none` stands for `AuthenticationError("invalid_token")`. -/
def principalFromClaims (claims : Mapping) (names : ClaimNames) : Option Principal :=
  match claimPrincipalType claims names.principalType, (Value.get claims "sub").text,
      horganizations : claimValues (Value.get claims names.organization) with
  | some principalType, some subject, some organizationIds =>
      if strip subject = "" then none
      else
        match claimRoles principalType (Value.get claims names.role),
            claimScopes (Value.get claims names.serviceScope),
            claimScopes (Value.get claims "permissions") with
        | some roles, some scopes, some permissions => some
            { subject := strip subject
              principalType := principalType
              organizationIds := organizationIds
              roles := roles
              scopes := scopes
              permissions := permissions
              organizations_stripped := strip_of_mem_claimValues horganizations }
        | _, _, _ => none
  | _, _, _ => none

/-- What `principal_from_claims` has read for a principal. -/
structure PrincipalOf (claims : Mapping) (names : ClaimNames) (p : Principal) : Prop where
  principalType : claimPrincipalType claims names.principalType = some p.principalType
  organizations : claimValues (Value.get claims names.organization) = some p.organizationIds
  roles : claimRoles p.principalType (Value.get claims names.role) = some p.roles
  scopes : claimScopes (Value.get claims names.serviceScope) = some p.scopes
  permissions : claimScopes (Value.get claims "permissions") = some p.permissions

theorem principalOf {claims : Mapping} {names : ClaimNames} {p : Principal}
    (h : principalFromClaims claims names = some p) : PrincipalOf claims names p := by
  unfold principalFromClaims at h
  split at h
  · next principalType subject organizationIds htype hsubject horganizations =>
      split_ifs at h
      split at h
      · next roles scopes permissions hroles hscopes hpermissions =>
          obtain rfl := Option.some.inj h
          exact ⟨htype, horganizations, hroles, hscopes, hpermissions⟩
      · cases h
  · cases h

theorem ne_empty_of_mem_claimScopes {value : Value} {scopes : List String}
    (h : claimScopes value = some scopes) : "" ∉ scopes := by
  obtain ⟨values, -, hvalues⟩ := Option.bind_eq_some_iff.1 h
  clear h
  induction values generalizing scopes with
  | nil =>
      obtain rfl : [] = scopes := Option.some.inj hvalues
      simp
  | cons v rest ih =>
      rw [List.mapM_cons] at hvalues
      obtain ⟨scope, hscope, hvalues⟩ := Option.bind_eq_some_iff.1 hvalues
      obtain ⟨others, hothers, hvalues⟩ := Option.bind_eq_some_iff.1 hvalues
      obtain rfl : scope :: others = scopes := Option.some.inj hvalues
      have hne : scope ≠ "" := by
        have hfilter := Option.filter_eq_some_iff.1 hscope
        simpa using hfilter.2
      rw [List.mem_cons, not_or]
      exact ⟨hne.symm, ih hothers⟩

/-! ## Authority -/

namespace Principal

/-- `capabilities`, of the roles. -/
def capabilitiesOf (roles : List String) : List String :=
  roles.flatMap roleCapabilities
    ++ (if "owner" ∈ roles ∨ "risk_approver" ∈ roles ∨ "security_lead" ∈ roles ∨ "admin" ∈ roles then
        roleCapabilities "viewer"
      else [])
    ++ (if "risk_approver" ∈ roles ∨ "security_lead" ∈ roles ∨ "admin" ∈ roles then
        roleCapabilities "risk_approver"
      else [])
    ++ (if "security_lead" ∈ roles then roleCapabilities "owner" ++ roleCapabilities "viewer"
      else [])
    ++ (if "admin" ∈ roles then
        ["audit:read", "case:read", "provenance:read", "risk:read", "sbom:read",
          "verification:read"]
      else [])

/-- `capabilities`. -/
def capabilities (p : Principal) : List String :=
  match p.principalType with
  | .service => []
  | .human => capabilitiesOf p.roles

/-- `has_organization`. -/
def hasOrganization (p : Principal) (organizationId : String) : Bool :=
  strip organizationId ∈ p.organizationIds

/-- `has_capability`. -/
def hasCapability (p : Principal) (capability : String) : Bool :=
  match normalizeScope capability with
  | none => false
  | some normalized =>
      match p.principalType with
      | .service => normalized ∈ serviceScopeCapabilities ∧ normalized ∈ p.scopes
      | .human => normalized ∈ p.capabilities ∨ normalized ∈ p.permissions

end Principal

/-! ## Known capabilities -/

theorem lower_of_ascii {s : String} (hascii : IsAscii s.toList) (h : asciiLower s = s) :
    Python.lower s = s := by rw [Python.lower_ascii s hascii, h]

/-- The capabilities that roles give. -/
def knownCapabilities : List String :=
  ["asset:write", "audit:read", "case:read", "case:write", "provenance:read", "risk:approve",
    "risk:read", "risk:request", "sbom:read", "sbom:write", "verification:read",
    "verification:write"]

omit [Python] in
theorem roleCapabilities_known (role : String) : roleCapabilities role ⊆ knownCapabilities := by
  unfold roleCapabilities
  split_ifs <;> decide

omit [Python] in
theorem capabilitiesOf_known (roles : List String) :
    Principal.capabilitiesOf roles ⊆ knownCapabilities := by
  have hroles : roles.flatMap roleCapabilities ⊆ knownCapabilities := by
    intro c hc
    obtain ⟨role, -, hrole⟩ := List.mem_flatMap.1 hc
    exact roleCapabilities_known role hrole
  unfold Principal.capabilitiesOf
  refine List.append_subset.2 ⟨List.append_subset.2 ⟨List.append_subset.2
    ⟨List.append_subset.2 ⟨hroles, ?_⟩, ?_⟩, ?_⟩, ?_⟩
  all_goals split_ifs
  all_goals decide

/-- They are spelled as the gates spell them. -/
theorem normal_of_known {c : String} (h : c ∈ knownCapabilities) : Python.lower (strip c) = c := by
  have hspelled : ∀ c ∈ knownCapabilities, strip c = c ∧ IsAscii c.toList ∧ asciiLower c = c := by
    decide +kernel
  obtain ⟨hstrip, hascii, hlower⟩ := hspelled c h
  rw [hstrip, lower_of_ascii hascii hlower]

omit [Python] in
theorem mem_ite_nil {c : String} {p : Prop} [Decidable p] {cs : List String} :
    c ∈ (if p then cs else []) ↔ p ∧ c ∈ cs := by
  by_cases h : p <;> simp [h]

/-! ## Routes -/

/-- `AuthorizationError(code)`. -/
inductive AuthorizationError where
  | insufficientPermission
  | resourceNotFound
deriving DecidableEq, Repr

/-- `require_organization`, without the test bypass. -/
def requireOrganization (organizationId : String) (p : Principal) :
    Except AuthorizationError Principal :=
  if strip organizationId = "*" ∨ "*" ∈ p.organizationIds then .error .resourceNotFound
  else if p.hasOrganization organizationId then .ok p
  else .error .resourceNotFound

/-- `authorize_capability`, without the test bypass, for a capability that is not blank. -/
def authorizeCapability (p : Principal) (capability : String) :
    Except AuthorizationError Principal :=
  if p.hasCapability (Python.lower (strip capability)) then .ok p
  else .error .insufficientPermission

end Claims

end VulnOpsHub
