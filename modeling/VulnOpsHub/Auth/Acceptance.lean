import VulnOpsHub.Auth.Soundness

set_option autoImplicit false

/-! # Every call of the verifier

Whatever calls came before, a call of `verify_token` either raises `OIDCVerificationError` or
returns the claims of an accepted token. -/

namespace VulnOpsHub

namespace Oidc

open Raising (raise ofExcept attempt Wp)

section Acceptance

variable [Doubles] [Urls] [Python]

/-- What a call started in `s` knows of a token whose claims it returns in `t`. -/
def IsAccepted (cfg : Config) (w : World) (Key : Type) [Pyjwt Key] (s t : State) (token : String)
    (claims : Mapping) : Prop :=
  ∃ header name algorithm kid jwk key n,
    Accepted cfg w Key s t token claims header name algorithm kid jwk key n

variable {cfg : Config} {w : World} {Key : Type} [Pyjwt Key] {s t u : State}

theorem IsAccepted.mk {token : String} {claims header : Mapping} {algorithm kid : String}
    {keys : List Mapping} {key : Key} {n expiration : ℚ}
    (hheader : readHeader Key token = .ok header)
    (halgorithm : headerAlgorithm cfg header = .ok algorithm) (hkid : headerKid header = .ok kid)
    (hkeys : Timely cfg w s u keys) (hkey : keyForToken Key keys kid algorithm = some key)
    (hclaims : decodeClaims cfg token key algorithm = .ok claims)
    (hm : s.readings ≤ t.readings) (hm' : t.readings < u.readings)
    (hreading : readingOf (w.clock t.readings) = .ok n)
    (hsubject : checkSubject cfg claims = .ok expiration) (hexp : n < expiration)
    (hnbf : checkNotLater claims "nbf" "not_before" n = .ok ())
    (hiat : checkNotLater claims "iat" "invalid_claim" n = .ok ()) :
    IsAccepted cfg w Key s u token claims := by
  obtain ⟨name, hname, hallowed, hasymmetric, hcanonical⟩ := headerAlgorithm_eq_ok halgorithm
  obtain ⟨spaced, hspaced, hpresent, rfl⟩ := headerKid_eq_ok hkid
  obtain ⟨jwk, hjwk, hjwkKid, hjwkKey⟩ := keyForToken_eq_some hkey
  obtain ⟨hsub, hissuer, hdate⟩ := checkSubject_eq_ok hsubject
  have hdecoded := decodeClaims_eq_ok hclaims
  obtain ⟨q, hq, hround⟩ := numericDate_eq_ok hdate
  exact ⟨header, name, algorithm, spaced, jwk, key, n,
    { header_read := readHeader_eq_ok hheader
      header_alg := hname
      configured := hallowed
      asymmetric := hasymmetric
      canonical := hcanonical
      header_kid := hspaced
      kid_present := hpresent
      jwk_kid := hjwkKid
      jwk_key := hjwkKey
      fetched := ⟨keys, hjwk, hkeys⟩
      decoded := hdecoded
      audience := Pyjwt.decode_audience hdecoded
      issuer := hissuer
      subject := hsub
      reading := ⟨t.readings, hm, hm', hreading⟩
      notExpired := ⟨q, hq, lt_of_lt_round hround (round_of_readingOf hreading) hexp⟩
      notBefore := fun _ hvalue => checkNotLater_eq_ok hnbf hvalue
      issued := fun _ hvalue => checkNotLater_eq_ok hiat hvalue }⟩

/-- One call keeps the invariant, and returns only the claims of an accepted token. -/
theorem verifyToken_wp (hinv : Inv cfg w s) (token : String) :
    (verifyToken cfg w Key token).Wp
      (Sound cfg w s fun claims t => IsAccepted cfg w Key s t token claims) s := by
  refine Sound.bind (Sound.ofExcept hinv (readHeader_onlyOidc token)) ?_
  rintro header s - - ⟨hheader, rfl⟩
  refine Sound.bind (Sound.ofExcept hinv (headerAlgorithm_onlyOidc header)) ?_
  rintro algorithm s - - ⟨halgorithm, rfl⟩
  refine Sound.bind (Sound.ofExcept hinv (headerKid_onlyOidc header)) ?_
  rintro kid s - - ⟨hkid, rfl⟩
  refine Sound.bind (findKey_sound hinv kid algorithm) ?_
  rintro found t ht hst hfound
  refine Sound.bind (Sound.ofExcept ht (OnlyOidc.elim _ _)) ?_
  rintro key t - - ⟨hkey, rfl⟩
  refine Sound.bind (Sound.ofExcept ht (decodeClaims_onlyOidc token key algorithm)) ?_
  rintro claims t - - ⟨hclaims, rfl⟩
  refine Sound.bind (validateClaims_sound ht claims) ?_
  rintro - u hu htu ⟨n, expiration, hreading, hlater, hsubject, hexp, hnbf, hiat⟩
  refine Sound.pure hu ?_
  have hsome : found = some key := by
    cases found with
    | none => cases hkey
    | some found => rw [Except.ok.inj hkey]
  obtain ⟨keys, hkeys, hchosen⟩ := hfound key hsome
  exact IsAccepted.mk hheader halgorithm hkid (hkeys.mono htu) hchosen hclaims hst.readings hlater
    hreading hsubject hexp hnbf hiat

/-! ## Runs -/

/-- The states of a verifier that is called with one token after the other. -/
inductive Reachable (cfg : Config) (w : World) (Key : Type) [Pyjwt Key] : State → Prop
  | start : Reachable cfg w Key State.start
  | verify {s : State} (token : String) :
      Reachable cfg w Key s → Reachable cfg w Key (verifyToken cfg w Key token s).2

omit [Python] in
theorem Inv.start : Inv cfg w State.start :=
  ⟨fun _ h => by simp [State.start] at h, fun _ h => by simp [State.start] at h,
    fun _ h => by simp [State.start] at h⟩

omit [Python] in
theorem Sound.inv {α : Type} {r : Except Raised α} {P : α → State → Prop}
    (h : Sound cfg w s P r t) : Inv cfg w t := by
  cases r with
  | error e => exact h.1
  | ok a => exact h.1

theorem Reachable.inv (hs : Reachable cfg w Key s) : Inv cfg w s := by
  induction hs with
  | start => exact Inv.start
  | verify token _ ih => exact Sound.inv (verifyToken_wp ih token)

/-- Nothing but `OIDCVerificationError` is raised, and the claims that are returned are those of an
    accepted token. -/
theorem verifyToken_sound (hs : Reachable cfg w Key s) (token : String) :
    (∀ e, (verifyToken cfg w Key token s).1 = .error e → e.IsOidc) ∧
      ∀ claims, (verifyToken cfg w Key token s).1 = .ok claims →
        IsAccepted cfg w Key s (verifyToken cfg w Key token s).2 token claims := by
  have hsound : Sound cfg w s _ (verifyToken cfg w Key token s).1 _ :=
    verifyToken_wp hs.inv token
  refine ⟨fun e he => ?_, fun claims hclaims => ?_⟩
  · rw [he] at hsound
    exact hsound.2.2
  · rw [hclaims] at hsound
    exact hsound.2.2

end Acceptance

/-! ## A token with a spaced key id -/

/-- URLs without user information, ports or brackets. -/
@[reducible]
def plainUrls : Urls where
  urlparse value :=
    let scheme := value.toList.takeWhile (· ≠ ':')
    let rest := value.toList.drop (scheme.length + 3)
    let netloc := String.ofList (rest.takeWhile (· ≠ '/'))
    some ⟨String.ofList scheme, netloc, some netloc⟩
  isLoopback hostname := some (hostname = "127.0.0.1")

/-- The header `{"alg": "RS256", "kid": " k1 "}`. -/
def spacedHeader : Mapping := [("alg", .str "RS256"), ("kid", .str " k1 ")]

def spacedToken : String :=
  "eyJhbGciOiAiUlMyNTYiLCAia2lkIjogIiBrMSAifQ" ++
    ".eyJpc3MiOiAiaHR0cHM6Ly9pZC5leGFtcGxlIiwgImF1ZCI6ICJ2dWxub3BzIiwgInN1YiI6" ++
    "ICJhbGljZSIsICJleHAiOiAyMDB9.c2lnbmF0dXJl"

/-- Its claims. -/
def spacedClaims : Mapping :=
  [("iss", .str "https://id.example"), ("aud", .str "vulnops"), ("sub", .str "alice"),
    ("exp", .int 200)]

/-- The key it is signed with, without its modulus. -/
def sampleJwk : Mapping := [("kty", .str "RSA"), ("kid", .str "k1"), ("use", .str "sig")]

/-- PyJWT where every token is this one, and is signed with the only key. -/
@[reducible]
def onePyjwt : Pyjwt String where
  getUnverifiedHeader _ := .ok (.dict spacedHeader)
  pyJwk _ _ := .ok (some "k1")
  decode _ _ _ _ audience :=
    if audience = "vulnops" then .ok (.dict spacedClaims) else .error .invalidAudience
  decode_audience := by
    intro token key algorithms issuer audience claims h
    split_ifs at h with haudience
    obtain rfl : spacedClaims = claims := by simpa using h
    rw [haudience]
    rfl

def sampleConfig : @Config exactDoubles plainUrls :=
  @Config.mk exactDoubles plainUrls "https://id.example" "vulnops" ["RS256"] false 5 300 300
    (by decide +kernel) (by decide) rfl (by norm_num)

/-- The provider answers with its discovery document and then with its keys. -/
def sampleWorld : World where
  clock _ := some 100
  responses
    | 0 => .answer (some 200) (some (.dict
        [("issuer", .str "https://id.example"), ("jwks_uri", .str "https://id.example/keys")]))
    | 1 => .answer (some 200) (some (.dict [("keys", .list [.dict sampleJwk])]))
    | _ => .raises

/-- The first call of the verifier. -/
def sampleCall : Except Raised Mapping × State :=
  @verifyToken exactDoubles plainUrls asciiPython sampleConfig sampleWorld String onePyjwt
    spacedToken State.start

theorem exists_claims {answer : Except Raised Mapping} (h : answer.toBool = true) :
    ∃ claims, answer = .ok claims := by
  cases answer with
  | error e => cases h
  | ok claims => exact ⟨claims, rfl⟩

theorem sampleCall_returns : ∃ claims, sampleCall.1 = .ok claims := exists_claims (by decide +kernel)

/-- A response with keys is the second one. -/
theorem sampleKeys_eq {requests : List Request} {i : ℕ} {keys : List Mapping}
    (h : @FetchedKeys exactDoubles plainUrls sampleConfig sampleWorld requests i keys) :
    keys = [sampleJwk] := by
  let _ := exactDoubles
  let _ := plainUrls
  obtain ⟨j, hj, d, -, payload, hanswered, hkeys⟩ := h.discovered
  have hresponse := hanswered.response
  match i with
  | 0 => exact absurd hj (Nat.not_lt_zero j)
  | 1 =>
      obtain rfl := Except.ok.inj hresponse
      exact (Except.ok.inj hkeys).symm
  | i + 2 => cases hresponse

/-- The token is accepted, though no key that the provider sends has its key id. -/
theorem spaced_kid_accepted :
    (∃ claims, sampleCall.1 = .ok claims) ∧
      onePyjwt.getUnverifiedHeader spacedToken = .ok (.dict spacedHeader) ∧
      ∀ i keys, @FetchedKeys exactDoubles plainUrls sampleConfig sampleWorld
        sampleCall.2.requests i keys →
          ∀ jwk ∈ keys, Value.get jwk "kid" ≠ Value.get spacedHeader "kid" := by
  refine ⟨sampleCall_returns, rfl, fun i keys hkeys jwk hjwk hkid => ?_⟩
  rw [sampleKeys_eq hkeys, List.mem_singleton] at hjwk
  have hname : "k1" = " k1 " := by
    rw [hjwk] at hkid
    exact Value.str.inj hkid
  exact absurd hname (by decide)

/-- The second call, with the same token: the verifier still has its keys. -/
def sampleNextCall : Except Raised Mapping × State :=
  @verifyToken exactDoubles plainUrls asciiPython sampleConfig sampleWorld String onePyjwt
    spacedToken sampleCall.2

/-- After the first call the token is accepted again. -/
theorem verifyToken_sound_next :
    ∃ claims, @IsAccepted exactDoubles plainUrls asciiPython sampleConfig sampleWorld String
      onePyjwt sampleCall.2 sampleNextCall.2 spacedToken claims := by
  obtain ⟨claims, hclaims⟩ : ∃ claims, sampleNextCall.1 = .ok claims :=
    exists_claims (by decide +kernel)
  have hreachable := @Reachable.verify exactDoubles plainUrls asciiPython sampleConfig sampleWorld
    String onePyjwt _ spacedToken (@Reachable.start exactDoubles plainUrls asciiPython sampleConfig
      sampleWorld String onePyjwt)
  exact ⟨claims, (@verifyToken_sound exactDoubles plainUrls asciiPython sampleConfig sampleWorld
    String onePyjwt sampleCall.2 hreachable spacedToken).2 claims hclaims⟩

end Oidc

end VulnOpsHub
