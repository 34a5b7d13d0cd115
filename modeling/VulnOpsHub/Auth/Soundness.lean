import VulnOpsHub.Auth.Provenance

set_option autoImplicit false

/-! # Accepted tokens

A token whose claims are returned has been decoded with a key of its id and a configured algorithm; the
key comes from keys that the provider has just sent, or has sent less than the cache age before. -/

namespace VulnOpsHub

namespace Oidc

open Raising (raise ofExcept attempt Wp)

section Soundness

variable [Doubles] [Urls]

/-! ## Keys -/

/-- Keys for a call that was started in `s` and has come to `t`: they were fetched in the call, or less
    than the cache age before a reading of the clock in it. -/
structure Timely (cfg : Config) (w : World) (s t : State) (keys : List Mapping) : Prop where
  fetched : ∃ i, FetchedKeys cfg w t.requests i keys ∧ (s.requests.length ≤ i ∨
    ∃ stamp m n, Dated w t.requests i stamp ∧ s.readings ≤ m ∧ m < t.readings ∧
      readingOf (w.clock m) = .ok n ∧ n - stamp < cfg.jwksCacheAge)

variable {cfg : Config} {w : World} {s s₀ : State}

theorem Timely.mono {t t' : State} {keys : List Mapping} (h : Later t t')
    (hkeys : Timely cfg w s t keys) : Timely cfg w s t' keys := by
  obtain ⟨i, hfetched, htime⟩ := hkeys.fetched
  refine ⟨i, hfetched.mono h.requests, ?_⟩
  rcases htime with hi | ⟨stamp, m, n, hdated, hm, hm', hrest⟩
  · exact Or.inl hi
  · exact Or.inr ⟨stamp, m, n, hdated.mono h.requests, hm, hm'.trans_le h.readings, hrest⟩

theorem getJwks_sound (hinv : Inv cfg w s) :
    (getJwks cfg w).Wp (Sound cfg w s fun keys t =>
      t.jwks = some keys ∧ Timely cfg w s t keys) s := by
  have hrefresh : ∀ t, Inv cfg w t → Later s t → (refreshJwks cfg w).Wp (Sound cfg w t
      fun keys u => u.jwks = some keys ∧ Timely cfg w s u keys) t := by
    intro t ht hst
    refine Sound.mono (refreshJwks_sound ht) ?_
    rintro keys u - - ⟨hcached, i, hi, hfetched⟩
    exact ⟨hcached, ⟨i, hfetched, Or.inl (hst.requests.length_le.trans hi)⟩⟩
  show (s.jwks.elim (refreshJwks cfg w) fun keys => do
    let fresh ← cacheFresh w s.jwksFetchedAt cfg.jwksCacheAge
    (if fresh then Pure.pure keys else refreshJwks cfg w)).Wp _ s
  cases hjwks : s.jwks with
  | none => exact hrefresh s hinv (Later.refl s)
  | some keys =>
      refine Sound.bind (cacheFresh_sound hinv _ _) ?_
      rintro fresh t ht hst ⟨hcache, hrequests, hfresh⟩
      cases fresh with
      | false => exact hrefresh t ht hst
      | true =>
          obtain ⟨stamp, hstamp, m, n, hm, hm', hreading, helapsed⟩ := (hfresh rfl).recent
          obtain ⟨i, hfetched, hdated⟩ := hinv.jwks keys hjwks
          have hjwks' : t.jwks = some keys := (congrArg Cache.jwks hcache).trans hjwks
          refine Sound.pure ht ⟨hjwks', i, ?_⟩
          rw [hrequests]
          exact ⟨hfetched, Or.inr ⟨stamp, m, n, hdated stamp hstamp, hm, hm', hreading,
            elapsed_lt cfg.jwksCacheAge_double cfg.jwksCacheAge_nonneg helapsed⟩⟩

/-- What is remembered of a refresh is no part of the invariant. -/
theorem Inv.remember (hinv : Inv cfg w s) (generations : String × String → Option ℕ)
    (failures : String × String → Option (ℕ × String × String)) :
    Inv cfg w { s with kidRefreshGenerations := generations, kidRefreshFailures := failures } :=
  ⟨hinv.discovery, hinv.jwks, hinv.stamp⟩

/-- The keys after a miss are those that were there, or newly fetched ones. -/
theorem keysAfterMiss_sound (hinv : Inv cfg w s) (hlater : Later s₀ s) {keys : List Mapping}
    (hjwks : s.jwks = some keys) (hkeys : Timely cfg w s₀ s keys)
    (refreshKey : String × String) :
    (keysAfterMiss cfg w refreshKey s.jwksGeneration keys).Wp (Sound cfg w s fun keys t =>
      Timely cfg w s₀ t keys) s := by
  show (if s.kidRefreshGenerations refreshKey = some s.jwksGeneration then _ else _ :
    Method (List Mapping)).Wp _ s
  split_ifs with hremembered
  · cases s.kidRefreshFailures refreshKey with
    | some failure => exact ⟨hinv, Later.refl s, _, _, rfl⟩
    | none =>
        have hsame : (s.jwks.filter fun jwks => !jwks.isEmpty).getD keys = keys := by
          rw [hjwks]
          by_cases hempty : keys.isEmpty <;> simp [Option.filter, hempty]
        exact Sound.pure hinv (hsame.symm ▸ hkeys)
  · have hforce : forceJwks cfg w s.jwksGeneration s = refreshJwks cfg w s := by
      show (s.jwks.filter fun _ => s.jwksGeneration ≠ s.jwksGeneration).elim (refreshJwks cfg w)
        Pure.pure s = _
      simp
    have hrefresh : (forceJwks cfg w s.jwksGeneration).Wp (Sound cfg w s fun keys t =>
        Timely cfg w s₀ t keys) s := by
      unfold Raising.Wp
      rw [hforce]
      refine Sound.mono (refreshJwks_sound hinv) ?_
      rintro keys u - - ⟨-, i, hi, hfetched⟩
      exact ⟨i, hfetched, Or.inl (hlater.requests.length_le.trans hi)⟩
    refine Sound.bind (P := fun keys t => Timely cfg w s₀ t keys) ?_ ?_
    · refine Raising.wp_attempt.2 (Raising.wp_mono hrefresh ?_)
      rintro (e | keys) t ⟨ht, hst, h⟩
      · obtain ⟨category, code, rfl⟩ := h
        exact ⟨ht.remember _ _, ⟨hst.requests, hst.readings⟩, _, _, rfl⟩
      · exact ⟨ht, hst, h⟩
    · intro keys t ht hst hkeys
      refine Sound.bind (Sound.modify (ht.remember _ _) ⟨List.prefix_refl _, le_rfl⟩) ?_
      rintro - u hu htu rfl
      exact Sound.pure hu (hkeys.mono htu)

variable [Python] {Key : Type} [Pyjwt Key]

theorem findKey_sound (hinv : Inv cfg w s) (kid algorithm : String) :
    (findKey cfg w Key kid algorithm).Wp (Sound cfg w s fun key t => ∀ k, key = some k →
      ∃ keys, Timely cfg w s t keys ∧ keyForToken Key keys kid algorithm = some k) s := by
  refine Sound.bind (getJwks_sound hinv) ?_
  rintro keys t ht hst ⟨hjwks, hkeys⟩
  show ((keyForToken Key keys kid algorithm).elim _ _ : Method (Option Key)).Wp _ t
  cases hkey : keyForToken Key keys kid algorithm with
  | some key =>
      refine Sound.pure ht ?_
      rintro k ⟨⟩
      exact ⟨keys, hkeys, hkey⟩
  | none =>
      refine Sound.bind (keysAfterMiss_sound ht hst hjwks hkeys (kid, algorithm)) ?_
      rintro keys' u hu - hkeys'
      refine Sound.pure hu ?_
      intro k hk
      exact ⟨keys', hkeys', hk⟩

omit [Doubles] [Urls] in
/-- The key that is chosen suits the token. -/
theorem keyForToken_eq_some {keys : List Mapping} {kid algorithm : String} {key : Key}
    (h : keyForToken Key keys kid algorithm = some key) :
    ∃ jwk ∈ keys, Value.get jwk "kid" = .str kid ∧
      Pyjwt.pyJwk jwk algorithm = .ok (some key) := by
  obtain ⟨jwk, hjwk, hsome⟩ := List.exists_of_findSome?_eq_some h
  split_ifs at hsome with hsuits
  refine ⟨jwk, hjwk, ?_, ?_⟩
  · simp only [suits, Bool.and_eq_true] at hsuits
    exact Value.isText_eq_true.1 hsuits.1.1.1
  · split at hsome
    · next hpyJwk =>
        rw [hpyJwk, hsome]
    · cases hsome

/-! ## Tokens -/

/-- The number a date claim stands for. -/
def dateNumber : Value → Option ℚ
  | .int n => some n
  | .float q => some q
  | _ => none

/-- What is known of a token whose claims are returned. -/
structure Accepted (cfg : Config) (w : World) (Key : Type) [Pyjwt Key] (s t : State)
    (token : String) (claims header : Mapping) (name algorithm kid : String) (jwk : Mapping)
    (key : Key) (n : ℚ) : Prop where
  header_read : Pyjwt.getUnverifiedHeader Key token = .ok (.dict header)
  header_alg : Value.get header "alg" = .str name
  configured : normalAlgorithm name ∈ cfg.allowedAlgorithms
  asymmetric : normalAlgorithm name ∈ asymmetricAlgorithms
  canonical : canonicalAlgorithm (normalAlgorithm name) = some algorithm
  header_kid : Value.get header "kid" = .str kid
  kid_present : strip kid ≠ ""
  jwk_kid : Value.get jwk "kid" = .str (strip kid)
  jwk_key : Pyjwt.pyJwk jwk algorithm = .ok (some key)
  fetched : ∃ keys, jwk ∈ keys ∧ Timely cfg w s t keys
  decoded : Pyjwt.decode token key [algorithm] cfg.issuerUrl cfg.audience = .ok (.dict claims)
  audience : audienceMatches cfg.audience (Value.get claims "aud") = true
  issuer : Value.get claims "iss" = .str cfg.issuerUrl
  subject : ∃ sub, Value.get claims "sub" = .str sub ∧ strip sub ≠ ""
  reading : ∃ m, s.readings ≤ m ∧ m < t.readings ∧ readingOf (w.clock m) = .ok n
  notExpired : ∃ q, dateNumber (Value.get claims "exp") = some q ∧ n < q
  notBefore : ∀ value, claims.lookup "nbf" = some value →
    ∃ date, numericDate value = .ok date ∧ date ≤ n
  issued : ∀ value, claims.lookup "iat" = some value →
    ∃ date, numericDate value = .ok date ∧ date ≤ n

omit [Urls] [Python] in
theorem numericDate_eq_ok {value : Value} {date : ℚ} (h : numericDate value = .ok date) :
    ∃ q, dateNumber value = some q ∧ Doubles.round q = some date := by
  have hround : ∀ {x : Option ℚ}, x.elim (.error (invalid "invalid_claim")) Except.ok = .ok date →
      x = some date := by
    intro x hx
    cases x with
    | none => cases hx
    | some q => rw [Except.ok.inj hx]
  cases value with
  | int n => exact ⟨n, rfl, hround h⟩
  | float q => exact ⟨q, rfl, hround h⟩
  | none | bool | nonFinite | str | list | dict => cases h

omit [Urls] [Python] in
theorem numericDate_onlyOidc (value : Value) : OnlyOidc (numericDate value) := by
  unfold numericDate
  split
  · exact OnlyOidc.elim _ _
  · exact OnlyOidc.elim _ _
  · exact OnlyOidc.error _ _

omit [Urls] [Python] in
theorem checkNotLater_onlyOidc (claims : Mapping) (claim category : String) (n : ℚ) :
    OnlyOidc (checkNotLater claims claim category n) := by
  unfold checkNotLater
  split
  · exact OnlyOidc.ok _
  · refine OnlyOidc.bind (numericDate_onlyOidc _) fun date => ?_
    split_ifs
    · exact OnlyOidc.error _ _
    · exact OnlyOidc.ok _

omit [Urls] [Python] in
theorem checkNotLater_eq_ok {claims : Mapping} {claim category : String} {n : ℚ} {u : Unit}
    (h : checkNotLater claims claim category n = .ok u) {value : Value}
    (hvalue : claims.lookup claim = some value) : ∃ date, numericDate value = .ok date ∧ date ≤ n := by
  simp only [checkNotLater, hvalue, Raising.except_bind_eq_ok] at h
  obtain ⟨date, hdate, h⟩ := h
  split_ifs at h with hlater
  exact ⟨date, hdate, not_lt.1 hlater⟩

omit [Python] [Urls] [Doubles] in
theorem readHeader_onlyOidc (token : String) : OnlyOidc (readHeader Key token) := by
  unfold readHeader
  split_ifs
  · exact OnlyOidc.error _ _
  · split
    · exact OnlyOidc.ok _
    · exact OnlyOidc.error _ _

omit [Python] [Urls] [Doubles] in
theorem readHeader_eq_ok {token : String} {header : Mapping}
    (h : readHeader Key token = .ok header) :
    Pyjwt.getUnverifiedHeader Key token = .ok (.dict header) := by
  unfold readHeader at h
  split_ifs at h
  split at h
  · next hheader =>
      obtain rfl := Except.ok.inj h
      exact hheader
  · cases h

theorem headerAlgorithm_onlyOidc (header : Mapping) : OnlyOidc (headerAlgorithm cfg header) := by
  unfold headerAlgorithm
  split
  · split_ifs
    · exact OnlyOidc.elim _ _
    · exact OnlyOidc.error _ _
  · exact OnlyOidc.error _ _

theorem headerAlgorithm_eq_ok {header : Mapping} {algorithm : String}
    (h : headerAlgorithm cfg header = .ok algorithm) :
    ∃ name, Value.get header "alg" = .str name ∧ normalAlgorithm name ∈ cfg.allowedAlgorithms ∧
      normalAlgorithm name ∈ asymmetricAlgorithms ∧
      canonicalAlgorithm (normalAlgorithm name) = some algorithm := by
  unfold headerAlgorithm at h
  split at h
  · next name hname =>
      split_ifs at h with hallowed
      refine ⟨name, hname, hallowed.1, hallowed.2, ?_⟩
      cases hcanonical : canonicalAlgorithm (normalAlgorithm name) with
      | none =>
          rw [hcanonical] at h
          cases h
      | some canonical =>
          rw [hcanonical] at h
          rw [Except.ok.inj h]
  · cases h

omit [Python] [Urls] [Doubles] in
theorem headerKid_onlyOidc (header : Mapping) : OnlyOidc (headerKid header) := by
  unfold headerKid
  split
  · split_ifs
    · exact OnlyOidc.error _ _
    · exact OnlyOidc.ok _
  · exact OnlyOidc.error _ _

omit [Python] [Urls] [Doubles] in
theorem headerKid_eq_ok {header : Mapping} {kid : String} (h : headerKid header = .ok kid) :
    ∃ s, Value.get header "kid" = .str s ∧ strip s ≠ "" ∧ strip s = kid := by
  unfold headerKid at h
  split at h
  · next s hs =>
      split_ifs at h with hempty
      exact ⟨s, hs, hempty, Except.ok.inj h⟩
  · cases h

omit [Urls] [Python] [Doubles] in
/-- Whatever `jwt.decode` raises, the caller sees `OIDCVerificationError`. -/
theorem decodeFailure_isOidc (e : Raised) : (decodeFailure e).IsOidc := by
  cases e <;> exact ⟨_, _, rfl⟩

omit [Python] in
theorem decodeClaims_onlyOidc (token : String) (key : Key) (algorithm : String) :
    OnlyOidc (decodeClaims cfg token key algorithm) := by
  intro e he
  unfold decodeClaims at he
  split at he
  · cases he
  · obtain rfl := Except.error.inj he
    exact ⟨_, _, rfl⟩
  · obtain rfl := Except.error.inj he
    exact decodeFailure_isOidc _

omit [Python] in
theorem decodeClaims_eq_ok {token : String} {key : Key} {algorithm : String} {claims : Mapping}
    (h : decodeClaims cfg token key algorithm = .ok claims) :
    Pyjwt.decode token key [algorithm] cfg.issuerUrl cfg.audience = .ok (.dict claims) := by
  unfold decodeClaims at h
  split at h
  · next hdecode =>
      obtain rfl := Except.ok.inj h
      exact hdecode
  · cases h
  · cases h

omit [Python] in
theorem checkSubject_onlyOidc (claims : Mapping) : OnlyOidc (checkSubject cfg claims) := by
  unfold checkSubject
  split
  · split_ifs
    · exact OnlyOidc.error _ _
    · exact numericDate_onlyOidc _
    · exact OnlyOidc.error _ _
  · exact OnlyOidc.error _ _

omit [Python] in
theorem checkSubject_eq_ok {claims : Mapping} {expiration : ℚ}
    (h : checkSubject cfg claims = .ok expiration) :
    (∃ sub, Value.get claims "sub" = .str sub ∧ strip sub ≠ "") ∧
      Value.get claims "iss" = .str cfg.issuerUrl ∧
      numericDate (Value.get claims "exp") = .ok expiration := by
  unfold checkSubject at h
  split at h
  · next sub hsub =>
      split_ifs at h with hblank hissuer
      exact ⟨⟨sub, hsub, hblank⟩, Value.isText_eq_true.1 hissuer, h⟩
  · cases h

omit [Urls] [Python] in
theorem checkDates_onlyOidc (claims : Mapping) (expiration n : ℚ) :
    OnlyOidc (checkDates claims expiration n) := by
  have hexpired : OnlyOidc
      (if expiration ≤ n then .error (invalid "expired") else .ok () : Except Raised Unit) := by
    split_ifs
    · exact OnlyOidc.error _ _
    · exact OnlyOidc.ok _
  exact OnlyOidc.bind hexpired fun _ => OnlyOidc.bind (checkNotLater_onlyOidc _ _ _ _) fun _ =>
    checkNotLater_onlyOidc _ _ _ _

omit [Urls] [Python] in
theorem checkDates_eq_ok {claims : Mapping} {expiration n : ℚ} {u : Unit}
    (h : checkDates claims expiration n = .ok u) :
    n < expiration ∧ checkNotLater claims "nbf" "not_before" n = .ok () ∧
      checkNotLater claims "iat" "invalid_claim" n = .ok () := by
  simp only [checkDates, Raising.except_bind_eq_ok] at h
  obtain ⟨_, hexpired, _, hnbf, hiat⟩ := h
  split_ifs at hexpired with hlater
  exact ⟨not_le.1 hlater, hnbf, hiat⟩

omit [Urls] [Python] in
/-- A reading of the clock is a double. -/
theorem round_of_readingOf {reading : Option ℚ} {n : ℚ} (h : readingOf reading = .ok n) :
    Doubles.round n = some n := by
  unfold readingOf at h
  cases hround : reading.bind Doubles.round with
  | none =>
      rw [hround] at h
      cases h
  | some a =>
      rw [hround] at h
      obtain rfl := Except.ok.inj h
      obtain ⟨q, -, hq⟩ := Option.bind_eq_some_iff.1 hround
      exact Doubles.round_round hq

omit [Python] in
/-- What is known of the claims once they are validated. -/
theorem validateClaims_sound (hinv : Inv cfg w s) (claims : Mapping) :
    (validateClaims cfg w claims).Wp (Sound cfg w s fun _ t =>
      ∃ n expiration, readingOf (w.clock s.readings) = .ok n ∧ s.readings < t.readings ∧
        checkSubject cfg claims = .ok expiration ∧ n < expiration ∧
        checkNotLater claims "nbf" "not_before" n = .ok () ∧
        checkNotLater claims "iat" "invalid_claim" n = .ok ()) s := by
  refine Sound.bind (Sound.ofExcept hinv (checkSubject_onlyOidc claims)) ?_
  rintro expiration s hs - ⟨hsubject, rfl⟩
  refine Sound.bind (now_sound hs) ?_
  rintro n t ht - ⟨hreading, rfl⟩
  refine Sound.mono (Sound.ofExcept ht (checkDates_onlyOidc claims expiration n)) ?_
  rintro u t - - ⟨hdates, rfl⟩
  obtain ⟨hexp, hnbf, hiat⟩ := checkDates_eq_ok hdates
  exact ⟨n, expiration, hreading, Nat.lt_succ_self _, hsubject, hexp, hnbf, hiat⟩

end Soundness

end Oidc

end VulnOpsHub
