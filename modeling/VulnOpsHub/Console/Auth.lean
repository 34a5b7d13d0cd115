import VulnOpsHub.Auth.Principal

set_option autoImplicit false

/-! # The capabilities of the console's user

`stores/auth.ts` computes the capabilities of the signed-in user from the claims of the ID token, apart
from the API. JavaScript lowers letters as Python does, by the Unicode mapping; its white space is not
the same. Sets of strings are lists here too. -/

namespace VulnOpsHub.Console

/-! ## Text -/

/-- `\s`, and what `trim` removes. -/
def isSpace (c : Char) : Bool :=
  c.toNat ∈ [0x09, 0x0a, 0x0b, 0x0c, 0x0d, 0x20, 0xa0, 0x1680, 0x2000, 0x2001, 0x2002, 0x2003,
    0x2004, 0x2005, 0x2006, 0x2007, 0x2008, 0x2009, 0x200a, 0x2028, 0x2029, 0x202f, 0x205f, 0x3000,
    0xfeff]

/-- `text.trim()`. -/
def trim (text : String) : String := trimBy isSpace text

/-! ## Tables -/

/-- `ROLE_CAPABILITIES`, by its own keys. -/
def ownRoleCapabilities (role : String) : List String :=
  if role = "viewer" then ["case:read", "sbom:read"]
  else if role = "owner" then ["case:write", "risk:request", "verification:write"]
  else if role = "auditor" then
    ["audit:read", "case:read", "provenance:read", "risk:read", "verification:read"]
  else if role = "risk_approver" then ["risk:approve"]
  else if role = "security_lead" then []
  else if role = "admin" then
    ["case:write", "risk:approve", "risk:request", "sbom:write", "verification:write"]
  else []

/-- The members of `Object.prototype`, which every object literal inherits. None of them can be
    iterated. -/
def objectPrototype : List String :=
  ["__defineGetter__", "__defineSetter__", "__lookupGetter__", "__lookupSetter__", "__proto__",
    "constructor", "hasOwnProperty", "isPrototypeOf", "propertyIsEnumerable", "toLocaleString",
    "toString", "valueOf"]

/-- What `for (… of ROLE_CAPABILITIES[role] ?? [])` goes through; `none` stands for a `TypeError`. -/
def roleCapabilities (role : String) : Option (List String) :=
  if role ∈ objectPrototype then none else some (ownRoleCapabilities role)

/-- `HUMAN_ROLE_CAPABILITIES`. -/
def humanRoleCapabilities : List String :=
  ["viewer", "owner", "auditor", "risk_approver", "security_lead", "admin"].flatMap
      ownRoleCapabilities
    ++ ["case:read", "sbom:read", "audit:read", "provenance:read", "risk:read",
      "verification:read"]

/-- `SERVICE_SCOPE_CAPABILITIES`. -/
def serviceScopeCapabilities : List String :=
  ["evidence:raw:read", "evidence:write", "sbom:read", "sbom:write"]

/-! ## Claims -/

/-- The names of the claims, from the build environment. -/
structure Environment where
  roleClaim : String
  principalTypeClaim : String
  permissionClaim : String
deriving DecidableEq, Repr

/-- The user of the OIDC client: the claims of the ID token, and the scope of the token response. -/
structure User where
  profile : Mapping
  scope : Value

/-- `claimValues`. -/
def claimValues : Value → List String
  | .str s => ((wordsBy isSpace s).map trim).filter (· ≠ "")
  | .list items => ((items.filterMap Value.text).map trim).filter (· ≠ "")
  | _ => []

section Users

variable [Python] (env : Environment)

/-- `normalizedRoles`. -/
def normalizedRoles (user : User) : List String :=
  (claimValues (Value.get user.profile env.roleClaim)).map fun role =>
    underscored (Python.lower role)

/-- `normalizedScopes`. -/
def normalizedScopes (user : User) : List String :=
  (claimValues (Value.get user.profile "scope") ++ claimValues user.scope).map Python.lower

/-- `normalizedPermissions`. -/
def normalizedPermissions (user : User) : List String :=
  (claimValues (Value.get user.profile env.permissionClaim)).map Python.lower

/-- The principal type as `capabilitiesForUser` reads it. -/
def principalType (user : User) : String :=
  match Value.get user.profile env.principalTypeClaim with
  | .str s => Python.lower s
  | _ => "human"

/-! ## Capabilities -/

/-- What the roles of a human add to the permissions. -/
def roleAuthority (roles : List String) : Option (List String) :=
  (roles.mapM roleCapabilities).map fun granted =>
    granted.flatten
      ++ (if "owner" ∈ roles ∨ "risk_approver" ∈ roles ∨ "security_lead" ∈ roles ∨ "admin" ∈ roles
        then ["case:read", "sbom:read"] else [])
      ++ (if "risk_approver" ∈ roles ∨ "security_lead" ∈ roles ∨ "admin" ∈ roles
        then ["risk:approve"] else [])
      ++ (if "security_lead" ∈ roles then ownRoleCapabilities "owner" else [])
      ++ (if "admin" ∈ roles then humanRoleCapabilities else [])

/-- `capabilitiesForUser`, of a user; `none` stands for a `TypeError`. -/
def capabilitiesForUser (user : User) : Option (List String) :=
  if principalType env user = "service" then
    some ((normalizedScopes user).filter (· ∈ serviceScopeCapabilities))
  else
    (roleAuthority (normalizedRoles env user)).map fun granted =>
      normalizedPermissions env user ++ granted

/-- The getter `hasCapability` of the store. -/
def hasCapability (user : User) (capability : String) : Option Bool :=
  (capabilitiesForUser env user).map fun capabilities => Python.lower (trim capability) ∈ capabilities

end Users

end VulnOpsHub.Console
