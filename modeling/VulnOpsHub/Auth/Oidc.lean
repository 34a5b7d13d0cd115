import VulnOpsHub.Auth.Values
import VulnOpsHub.Lib.Raising
import Mathlib.Logic.Function.Basic
import Mathlib.Tactic.NormNum

set_option autoImplicit false

/-! # Verifying access tokens

`OIDCVerifier`: provider metadata and keys are cached, and a token with an unknown key id may force
one refresh of the keys. The provider's responses and the readings of the clock are given by their
numbers; PyJWT is left open in the class `Pyjwt`. -/

namespace VulnOpsHub

namespace Oidc

/-! ## Exceptions -/

/-- What the libraries and the verifier raise. -/
inductive Raised where
  /-- `OIDCVerificationError`. -/
  | oidc (category code : String)
  | missingRequiredClaim
  | invalidIssuer
  | invalidAudience
  | expiredSignature
  | invalidSignature
  | decodeError
  | invalidSubject
  | invalidJti
  | invalidIssuedAt
  | immatureSignature
  | other (name : String)
deriving DecidableEq, Repr

/-- `OIDCVerificationError(category)`. -/
def invalid (category : String) : Raised := .oidc category "invalid_token"

def configurationError : Raised := .oidc "configuration" "oidc_configuration_error"

def clockError : Raised := .oidc "configuration" "oidc_clock_error"

/-- `OIDCVerificationError(category, code=f"oidc_{category}_error")`. -/
def providerError (category : String) : Raised :=
  .oidc category ("oidc_" ++ category ++ "_error")

/-! ## Configuration -/

def canonicalAlgorithms : List (String × String) :=
  [("RS256", "RS256"), ("RS384", "RS384"), ("RS512", "RS512"), ("PS256", "PS256"),
    ("PS384", "PS384"), ("PS512", "PS512"), ("ES256", "ES256"), ("ES256K", "ES256K"),
    ("ES384", "ES384"), ("ES512", "ES512"), ("EDDSA", "EdDSA")]

def asymmetricAlgorithms : List String :=
  ["RS256", "RS384", "RS512", "PS256", "PS384", "PS512", "ES256", "ES256K", "ES384", "ES512",
    "EDDSA"]

section Configuration

variable [Python]

/-- `value.strip().upper()`. -/
def normalAlgorithm (value : String) : String := Python.upper (strip value)

/-- `_canonical_algorithm`. -/
def canonicalAlgorithm (value : String) : Option String :=
  canonicalAlgorithms.lookup (normalAlgorithm value)

variable [Doubles] [Urls]

/-- What `__init__` has checked. -/
structure Config where
  issuerUrl : String
  audience : String
  allowedAlgorithms : List String
  allowInsecureLoopback : Bool
  timeout : ℚ
  discoveryCacheAge : ℚ
  jwksCacheAge : ℚ
  issuer_valid : validHttpUrl issuerUrl allowInsecureLoopback = true
  algorithms_asymmetric : ∀ a ∈ allowedAlgorithms, a ∈ asymmetricAlgorithms
  jwksCacheAge_double : Doubles.round jwksCacheAge = some jwksCacheAge
  jwksCacheAge_nonneg : 0 ≤ jwksCacheAge

/-- `_bounded_timeout`; numbers too large for a double raise what is not caught here. -/
def boundedTimeout (value : Value) : Except Raised ℚ :=
  match value, floatOf value with
  | .int _, none => .error (.other "OverflowError")
  | _, none => .error configurationError
  | _, some timeout => if timeout ≤ 0 then .error configurationError else .ok (min timeout 30)

/-- `_bounded_cache_age`. -/
def boundedCacheAge (value : Value) : Except Raised ℚ :=
  match value, floatOf value with
  | .int _, none => .error (.other "OverflowError")
  | _, none => .error configurationError
  | _, some age => if age < 0 then .error configurationError else .ok (min age 3600)

/-- The normalized algorithms, each once. -/
def normalAlgorithms (algorithms : List String) : Except Raised (List String) :=
  let normalized := algorithms.map normalAlgorithm
  if normalized.all (· ∈ asymmetricAlgorithms) && !normalized.isEmpty then
    .ok normalized.reverse.dedup.reverse
  else .error configurationError

omit [Doubles] [Urls] in
theorem normalAlgorithms_asymmetric {algorithms normalized : List String}
    (h : normalAlgorithms algorithms = .ok normalized) : ∀ a ∈ normalized, a ∈ asymmetricAlgorithms := by
  unfold normalAlgorithms at h
  dsimp only at h
  split_ifs at h with hall
  rw [Bool.and_eq_true, List.all_eq_true] at hall
  obtain rfl := Except.ok.inj h
  intro a ha
  have hmem : a ∈ algorithms.map normalAlgorithm := by
    simpa using List.dedup_subset _ (List.mem_reverse.1 ha)
  simpa using hall.1 a hmem

omit [Python] [Urls] in
theorem boundedCacheAge_eq_ok {value : Value} {age : ℚ} (h : boundedCacheAge value = .ok age) :
    Doubles.round age = some age ∧ 0 ≤ age := by
  have hlimit : Doubles.round 3600 = some 3600 := by
    simpa using Doubles.round_int 3600 (by norm_num)
  have hfloat : ∀ {v : Value} {q : ℚ}, floatOf v = some q → Doubles.round q = some q := by
    intro v q hq
    cases v with
    | bool b =>
        obtain rfl := Option.some.inj hq
        cases b
        · simpa using Doubles.round_int 0 (by norm_num)
        · simpa using Doubles.round_int 1 (by norm_num)
    | int n => exact Doubles.round_round hq
    | float r => exact Doubles.round_round hq
    | none | nonFinite | str | list | dict => cases hq
  unfold boundedCacheAge at h
  split at h
  · cases h
  · cases h
  · next hq =>
      split_ifs at h with hneg
      obtain rfl := Except.ok.inj h
      refine ⟨?_, le_min (not_lt.1 hneg) (by norm_num)⟩
      rcases min_choice _ (3600 : ℚ) with hmin | hmin
      · rw [hmin]
        exact hfloat hq
      · rw [hmin]
        exact hlimit

/-- The arguments of `__init__`, but for the HTTP client and the clock. -/
structure VerifierArgs where
  issuerUrl : String
  audience : String
  allowedAlgorithms : List String
  timeout : Value
  cacheAge : Value
  discoveryCacheAge : Option Value
  jwksCacheAge : Option Value
  allowInsecureLoopback : Bool

/-- `__init__`. -/
def VerifierArgs.init (args : VerifierArgs) : Except Raised Config :=
  let issuerUrl := strip args.issuerUrl
  if issuerUrl = "" then .error configurationError
  else if hissuer : validHttpUrl issuerUrl args.allowInsecureLoopback = true then
    if strip args.audience = "" then .error configurationError
    else
      match halgorithms : normalAlgorithms args.allowedAlgorithms, boundedTimeout args.timeout,
          boundedCacheAge args.cacheAge,
          boundedCacheAge (args.discoveryCacheAge.getD args.cacheAge),
          hjwks : boundedCacheAge (args.jwksCacheAge.getD args.cacheAge) with
      | .ok algorithms, .ok timeout, .ok _, .ok discoveryCacheAge, .ok jwksCacheAge =>
          .ok
            { issuerUrl := issuerUrl
              audience := strip args.audience
              allowedAlgorithms := algorithms
              allowInsecureLoopback := args.allowInsecureLoopback
              timeout := timeout
              discoveryCacheAge := discoveryCacheAge
              jwksCacheAge := jwksCacheAge
              issuer_valid := hissuer
              algorithms_asymmetric := normalAlgorithms_asymmetric halgorithms
              jwksCacheAge_double := (boundedCacheAge_eq_ok hjwks).1
              jwksCacheAge_nonneg := (boundedCacheAge_eq_ok hjwks).2 }
      | .error e, _, _, _, _ => .error e
      | _, .error e, _, _, _ => .error e
      | _, _, .error e, _, _ => .error e
      | _, _, _, .error e, _ => .error e
      | _, _, _, _, .error e => .error e
  else .error configurationError

end Configuration

/-! ## The library and the provider -/

/-- Whether the `aud` claim names the audience, as PyJWT reads it. -/
def audienceMatches (audience : String) : Value → Bool
  | .str s => s = audience
  | .list items => items.any (·.isText audience)
  | _ => false

/-- PyJWT; `decode` is handed the required claims and leaves the dates to the caller. -/
class Pyjwt (Key : Type) where
  getUnverifiedHeader : String → Except Raised Value
  /-- `jwt.PyJWK(jwk, algorithm=algorithm).key`. -/
  pyJwk : Mapping → String → Except Raised (Option Key)
  decode : (token : String) → Key → (algorithms : List String) → (issuer audience : String) →
    Except Raised Value
  /-- The claims it returns are for the audience. -/
  decode_audience : ∀ {token : String} {key : Key} {algorithms : List String}
    {issuer audience : String} {claims : Mapping},
    decode token key algorithms issuer audience = .ok (.dict claims) →
      audienceMatches audience (Value.get claims "aud") = true

/-- What the HTTP client makes of a request: it raises, or there is a status, if it is an `int`, and
    a body, if it is JSON. -/
inductive Response where
  | raises
  | answer (status : Option ℤ) (body : Option Value)

/-- The readings of the clock, where they are numbers, and the responses, in their order. -/
structure World where
  clock : ℕ → Option ℚ
  responses : ℕ → Response

/-- A request, after so many readings of the clock. -/
structure Request where
  url : String
  category : String
  readings : ℕ
deriving DecidableEq, Repr

/-! ## State -/

/-- `_DiscoveryDocument`. -/
structure Discovery where
  issuer : String
  jwksUri : String
deriving DecidableEq, Repr

/-- The fields of the verifier. -/
structure Cache where
  discovery : Option Discovery
  discoveryFetchedAt : Option ℚ
  jwks : Option (List Mapping)
  jwksFetchedAt : Option ℚ
  jwksGeneration : ℕ
  kidRefreshGenerations : String × String → Option ℕ
  kidRefreshFailures : String × String → Option (ℕ × String × String)

/-- The verifier, and what it has used of the world. -/
structure State extends Cache where
  readings : ℕ
  requests : List Request

/-- The verifier as `__init__` leaves it. -/
def State.start : State where
  discovery := none
  discoveryFetchedAt := none
  jwks := none
  jwksFetchedAt := none
  jwksGeneration := 0
  kidRefreshGenerations := fun _ => none
  kidRefreshFailures := fun _ => none
  readings := 0
  requests := []

/-- A call of one of its methods. -/
abbrev Method (α : Type) : Type := Raising State Raised α

open Raising (raise ofExcept attempt)

/-! ## Clock and provider -/

section Verifier

variable [Doubles]

/-- `float(self._clock())`, where it is finite. -/
def readingOf (reading : Option ℚ) : Except Raised ℚ :=
  (reading.bind Doubles.round).elim (.error clockError) .ok

/-- `_now`. -/
def now (w : World) : Method ℚ := do
  let s ← Raising.get
  Raising.modify fun s => { s with readings := s.readings + 1 }
  ofExcept (readingOf (w.clock s.readings))

/-- `_cache_fresh`. -/
def cacheFresh (w : World) (fetchedAt : Option ℚ) (maxAge : ℚ) : Method Bool :=
  match fetchedAt with
  | none => pure false
  | some t => do
      let n ← now w
      pure (elapsedBelow n t maxAge)

/-- What `_fetch_json` makes of a response. -/
def readResponse (category : String) : Response → Except Raised Mapping
  | .answer (some status) (some (.dict payload)) =>
      if 200 ≤ status ∧ status < 300 then .ok payload else .error (providerError category)
  | _ => .error (providerError category)

/-- `_fetch_json`. -/
def fetchJson (w : World) (url category : String) : Method Mapping := do
  let s ← Raising.get
  Raising.modify fun s =>
    { s with requests := s.requests ++ [⟨url, category, s.readings⟩] }
  ofExcept (readResponse category (w.responses s.requests.length))

/-! ## Discovery -/

variable [Urls]

section Cached

variable [Python] (cfg : Config) (w : World)

/-- `discovery_url`. -/
def discoveryUrl : String :=
  String.ofList (cfg.issuerUrl.toList.rdropWhile (· = '/')) ++ "/.well-known/openid-configuration"

/-- Whether the keys may come from a loopback address without TLS. -/
def allowInsecureJwks (issuer : ParsedUrl) : Bool :=
  cfg.allowInsecureLoopback && issuer.scheme = "http" && isLoopbackHostname issuer.hostname

/-- What `_get_discovery` makes of a payload. -/
def readDiscovery (payload : Mapping) : Except Raised Discovery :=
  if (Value.get payload "issuer").isText cfg.issuerUrl then
    match Urls.urlparse cfg.issuerUrl with
    | none => .error (.other "ValueError")
    | some issuer =>
        match Value.get payload "jwks_uri" with
        | .str jwksUri =>
            if validHttpUrl jwksUri (allowInsecureJwks cfg issuer) then
              .ok ⟨cfg.issuerUrl, jwksUri⟩
            else .error (.oidc "discovery" "oidc_discovery_error")
        | _ => .error (.oidc "discovery" "oidc_discovery_error")
  else .error (.oidc "issuer" "oidc_discovery_error")

/-- The part of `_get_discovery` that asks the provider. -/
def refreshDiscovery : Method Discovery := do
  let payload ← fetchJson w (discoveryUrl cfg) "discovery"
  let document ← ofExcept (readDiscovery cfg payload)
  Raising.modify fun s => { s with discovery := some document }
  let t ← now w
  Raising.modify fun s => { s with discoveryFetchedAt := some t }
  pure document

/-- `_get_discovery`. -/
def getDiscovery (force : Bool) : Method Discovery := do
  let s ← Raising.get
  (s.discovery.filter fun _ => !force).elim (refreshDiscovery cfg w) fun document => do
    let fresh ← cacheFresh w s.discoveryFetchedAt cfg.discoveryCacheAge
    (if fresh then pure document else refreshDiscovery cfg w)

/-! ## Keys -/

/-- The keys of a payload that are mappings. -/
def readKeys (payload : Mapping) : Except Raised (List Mapping) :=
  match Value.get payload "keys" with
  | .list rawKeys => .ok (rawKeys.filterMap fun rawKey =>
      match rawKey with
      | .dict jwk => some jwk
      | _ => none)
  | _ => .error (.oidc "jwks" "oidc_jwks_error")

/-- The part of `_get_jwks` that asks the provider. -/
def refreshJwks : Method (List Mapping) := do
  let discovery ← getDiscovery cfg w false
  let payload ← fetchJson w discovery.jwksUri "jwks"
  let keys ← ofExcept (readKeys payload)
  Raising.modify fun s => { s with jwks := some keys }
  let t ← now w
  Raising.modify fun s =>
    { s with
      jwksFetchedAt := some t
      jwksGeneration := s.jwksGeneration + 1
      kidRefreshGenerations := fun _ => none
      kidRefreshFailures := fun _ => none }
  pure keys

/-- `_get_jwks(force=True, observed_generation=observedGeneration)`. -/
def forceJwks (observedGeneration : ℕ) : Method (List Mapping) := do
  let s ← Raising.get
  (s.jwks.filter fun _ => s.jwksGeneration ≠ observedGeneration).elim (refreshJwks cfg w) pure

/-- `_get_jwks()`. -/
def getJwks : Method (List Mapping) := do
  let s ← Raising.get
  s.jwks.elim (refreshJwks cfg w) fun keys => do
    let fresh ← cacheFresh w s.jwksFetchedAt cfg.jwksCacheAge
    (if fresh then pure keys else refreshJwks cfg w)

/-! ## Tokens -/

variable {Key : Type} [Pyjwt Key]

def jwkKeyOperations : List String :=
  ["sign", "verify", "encrypt", "decrypt", "wrapKey", "unwrapKey", "deriveKey", "deriveBits"]

/-- Whether `key_ops` allows to verify. -/
def verifies : Value → Bool
  | .list keyOps =>
      keyOps.all (fun operation => jwkKeyOperations.any (operation.isText ·))
        && keyOps.any (·.isText "verify")
  | _ => false

/-- Whether a key is for the token's algorithm. -/
def forAlgorithm (algorithm : String) : Value → Bool
  | .str s => canonicalAlgorithm s = some algorithm
  | _ => false

/-- The checks of `_key_for_token` on the members of a key. -/
def suits (kid algorithm : String) (jwk : Mapping) : Bool :=
  (Value.get jwk "kid").isText kid && (jwk.lookup "use").all (·.isText "sig")
    && (jwk.lookup "key_ops").all verifies && (jwk.lookup "alg").all (forAlgorithm algorithm)

/-- `_key_for_token`. -/
def keyForToken (Key : Type) [Pyjwt Key] (keys : List Mapping) (kid algorithm : String) :
    Option Key :=
  keys.findSome? fun jwk =>
    if suits kid algorithm jwk then
      match Pyjwt.pyJwk jwk algorithm with
      | .ok key => key
      | .error _ => none
    else none

/-- The algorithm of a header, if it is configured. -/
def headerAlgorithm (cfg : Config) (header : Mapping) : Except Raised String :=
  match Value.get header "alg" with
  | .str s =>
      if normalAlgorithm s ∈ cfg.allowedAlgorithms ∧ normalAlgorithm s ∈ asymmetricAlgorithms then
        (canonicalAlgorithm (normalAlgorithm s)).elim (.error (invalid "unsupported_algorithm")) .ok
      else .error (invalid "unsupported_algorithm")
  | _ => .error (invalid "unsupported_algorithm")

/-- The key id of a header. -/
def headerKid (header : Mapping) : Except Raised String :=
  match Value.get header "kid" with
  | .str s => if strip s = "" then .error (invalid "missing_key_id") else .ok (strip s)
  | _ => .error (invalid "missing_key_id")

/-- The header, before anything is verified. -/
def readHeader (Key : Type) [Pyjwt Key] (token : String) : Except Raised Mapping :=
  if strip token = "" then .error (invalid "malformed_token")
  else match Pyjwt.getUnverifiedHeader Key token with
    | .ok (.dict header) => .ok header
    | _ => .error (invalid "malformed_token")

/-- `OIDCVerificationError` for what `jwt.decode` raises. -/
def decodeFailure : Raised → Raised
  | .missingRequiredClaim => invalid "missing_claim"
  | .invalidIssuer => invalid "issuer"
  | .invalidAudience => invalid "audience"
  | .expiredSignature => invalid "expired"
  | .invalidSignature => invalid "signature"
  | .decodeError | .invalidSubject | .invalidJti | .invalidIssuedAt => invalid "invalid_claim"
  | .immatureSignature => invalid "not_before"
  | _ => invalid "invalid_token"

/-- The claims of a token whose signature is verified. -/
def decodeClaims (cfg : Config) (token : String) (key : Key) (algorithm : String) :
    Except Raised Mapping :=
  match Pyjwt.decode token key [algorithm] cfg.issuerUrl cfg.audience with
  | .ok (.dict claims) => .ok claims
  | .ok _ => .error (invalid "invalid_claim")
  | .error e => .error (decodeFailure e)

/-- `_numeric_date`. -/
def numericDate : Value → Except Raised ℚ
  | .int n => (floatOf (.int n)).elim (.error (invalid "invalid_claim")) .ok
  | .float q => (floatOf (.float q)).elim (.error (invalid "invalid_claim")) .ok
  | _ => .error (invalid "invalid_claim")

/-- A date that must not be later than `n`, if it is there. -/
def checkNotLater (claims : Mapping) (claim category : String) (n : ℚ) : Except Raised Unit :=
  match claims.lookup claim with
  | none => .ok ()
  | some value => do
      let t ← numericDate value
      (if n < t then .error (invalid category) else .ok ())

/-- The checks of `_validate_claim_types_and_time` before it reads the clock. -/
def checkSubject (cfg : Config) (claims : Mapping) : Except Raised ℚ :=
  match Value.get claims "sub" with
  | .str s =>
      if strip s = "" then .error (invalid "invalid_claim")
      else if (Value.get claims "iss").isText cfg.issuerUrl then
        numericDate (Value.get claims "exp")
      else .error (invalid "issuer")
  | _ => .error (invalid "invalid_claim")

/-- Its checks of the dates. -/
def checkDates (claims : Mapping) (expiration n : ℚ) : Except Raised Unit := do
  (if expiration ≤ n then .error (invalid "expired") else .ok ())
  checkNotLater claims "nbf" "not_before" n
  checkNotLater claims "iat" "invalid_claim" n

/-- `_validate_claim_types_and_time`. -/
def validateClaims (claims : Mapping) : Method Unit := do
  let expiration ← ofExcept (checkSubject cfg claims)
  let n ← now w
  ofExcept (checkDates claims expiration n)

/-- A forced refresh failed: the generation and the category are remembered. -/
def rememberFailure (refreshKey : String × String) : Raised → Method (List Mapping)
  | .oidc category code => do
      Raising.modify fun s =>
        { s with
          kidRefreshGenerations :=
            Function.update s.kidRefreshGenerations refreshKey (some s.jwksGeneration)
          kidRefreshFailures := Function.update s.kidRefreshFailures refreshKey
            (some (s.jwksGeneration, category, code)) }
      raise (.oidc category code)
  | e => raise e

/-- A forced refresh succeeded. -/
def rememberSuccess (refreshKey : String × String) : Method Unit :=
  Raising.modify fun s =>
    { s with
      kidRefreshGenerations :=
        Function.update s.kidRefreshGenerations refreshKey (some s.jwksGeneration)
      kidRefreshFailures := Function.update s.kidRefreshFailures refreshKey none }

/-- The keys for a token whose key is not among those cached: they are refreshed at most once. -/
def keysAfterMiss (refreshKey : String × String) (observedGeneration : ℕ) (keys : List Mapping) :
    Method (List Mapping) := do
  let s ← Raising.get
  (if s.kidRefreshGenerations refreshKey = some s.jwksGeneration then
    (s.kidRefreshFailures refreshKey).elim
      (pure ((s.jwks.filter fun jwks => !jwks.isEmpty).getD keys))
      fun failure => raise (.oidc failure.2.1 failure.2.2)
  else do
    let keys ← attempt (forceJwks cfg w observedGeneration) (rememberFailure refreshKey)
    rememberSuccess refreshKey
    pure keys)

/-- The key of a token. -/
def findKey (Key : Type) [Pyjwt Key] (kid algorithm : String) : Method (Option Key) := do
  let keys ← getJwks cfg w
  let s ← Raising.get
  (keyForToken Key keys kid algorithm).elim
    (do
      let keys ← keysAfterMiss cfg w (kid, algorithm) s.jwksGeneration keys
      pure (keyForToken Key keys kid algorithm))
    fun key => pure (some key)

/-- `verify_token`. -/
def verifyToken (Key : Type) [Pyjwt Key] (token : String) : Method Mapping := do
  let header ← ofExcept (readHeader Key token)
  let algorithm ← ofExcept (headerAlgorithm cfg header)
  let kid ← ofExcept (headerKid header)
  let key ← findKey cfg w Key kid algorithm
  let key ← ofExcept (key.elim (.error (invalid "key_not_found")) .ok)
  let claims ← ofExcept (decodeClaims cfg token key algorithm)
  validateClaims cfg w claims
  pure claims

end Cached

end Verifier

end Oidc

end VulnOpsHub
