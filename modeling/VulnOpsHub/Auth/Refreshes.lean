import VulnOpsHub.Auth.Acceptance
import Mathlib.Data.Finset.Card

set_option autoImplicit false

/-! # Requests for keys

How often the verifier asks its provider for keys while those it has are fresh. A call whose key id is
unknown asks once, unless its refresh is remembered; a refresh that succeeds forgets all others, so
two unknown key ids in turn make every call ask again. -/

namespace VulnOpsHub

namespace Oidc

open Raising (raise ofExcept attempt Wp)

section Refreshes

variable [Doubles]

/-! ## Counting -/

/-- The number of requests for keys so far. -/
def jwksRequests (s : State) : ℕ := s.requests.countP (·.category = "jwks")

/-- The clock does not go back. -/
def NonDecreasing (w : World) : Prop :=
  ∀ m m' q q', m ≤ m' → w.clock m = some q → w.clock m' = some q' → q ≤ q'

/-- Keys are cached, and are dated no earlier than `stamp`. -/
structure CachedSince (w : World) (stamp : ℚ) (s : State) : Prop where
  jwks : ∃ keys, s.jwks = some keys
  dated : ∃ t m, s.jwksFetchedAt = some t ∧ stamp ≤ t ∧ m < s.readings ∧
    readingOf (w.clock m) = .ok t

/-- At most `n` requests for keys are between two states, and keys that were cached still are. -/
structure Bounded (w : World) (stamp : ℚ) (n : ℕ) (s t : State) : Prop where
  requests : jwksRequests t ≤ jwksRequests s + n
  readings : s.readings ≤ t.readings
  cached : CachedSince w stamp s → CachedSince w stamp t

variable {w : World} {stamp : ℚ} {m n : ℕ} {s t u : State} {α β : Type}

theorem Bounded.refl (s : State) : Bounded w stamp 0 s s :=
  ⟨le_rfl, le_rfl, id⟩

theorem Bounded.trans (hst : Bounded w stamp m s t) (htu : Bounded w stamp n t u) :
    Bounded w stamp (m + n) s u := by
  refine ⟨?_, hst.readings.trans htu.readings, fun h => htu.cached (hst.cached h)⟩
  have hst' := hst.requests
  have htu' := htu.requests
  omega

theorem Bounded.mono (h : Bounded w stamp m s t) (hmn : m ≤ n) : Bounded w stamp n s t :=
  ⟨h.requests.trans (Nat.add_le_add_left hmn _), h.readings, h.cached⟩

/-- A step that leaves the keys and the requests alone. -/
theorem Bounded.quiet (hrequests : t.requests = s.requests) (hjwks : t.jwks = s.jwks)
    (hfetchedAt : t.jwksFetchedAt = s.jwksFetchedAt) (hreadings : s.readings ≤ t.readings) :
    Bounded w stamp 0 s t := by
  refine ⟨by simp [jwksRequests, hrequests], hreadings, fun h => ?_⟩
  obtain ⟨fetched, i, hfetched, hstamp, hi, hreading⟩ := h.dated
  exact ⟨hjwks ▸ h.jwks, fetched, i, hfetchedAt ▸ hfetched, hstamp, hi.trans_le hreadings, hreading⟩

/-- A call asks at most `n` times when it is started in `s`. -/
def Asks (w : World) (stamp : ℚ) (n : ℕ) (x : Method α) (s : State) : Prop :=
  x.Wp (fun _ t => Bounded w stamp n s t) s

theorem Asks.mono {x : Method α} (hx : Asks w stamp m x s) (hmn : m ≤ n) : Asks w stamp n x s :=
  Bounded.mono hx hmn

theorem Asks.bind {x : Method α} {f : α → Method β} (hx : Asks w stamp m x s)
    (hf : ∀ a t, x s = (.ok a, t) → Asks w stamp n (f a) t) : Asks w stamp (m + n) (x >>= f) s := by
  refine Raising.wp_bind.2 ?_
  unfold Asks Raising.Wp at hx hf
  unfold Raising.Wp
  cases hresult : x s with
  | mk r t =>
      rw [hresult] at hx
      cases r with
      | error e => exact hx.mono (Nat.le_add_right m n)
      | ok a => exact hx.trans (hf a t hresult)

theorem Asks.pure (a : α) : Asks w stamp 0 (Pure.pure a : Method α) s := Bounded.refl s

theorem Asks.raise (e : Raised) : Asks w stamp 0 (Raising.raise e : Method α) s := Bounded.refl s

theorem Asks.ofExcept (x : Except Raised α) : Asks w stamp 0 (ofExcept x : Method α) s :=
  Bounded.refl s

/-- What a call asks after its first part. -/
theorem Bounded.afterBind {x : Method α} {f : α → Method β} {r : Except Raised α}
    (hx : x s = (r, t)) (hf : ∀ a, r = .ok a → Asks w stamp n (f a) t) :
    Bounded w stamp n t ((x >>= f) s).2 := by
  cases r with
  | error e =>
      rw [Raising.bind_of_error hx]
      exact (Bounded.refl t).mono (Nat.zero_le n)
  | ok a =>
      rw [Raising.bind_of_ok hx]
      exact hf a rfl

/-! ## Clock and provider -/

theorem now_asks : Asks w stamp 0 (now w) s :=
  Bounded.quiet rfl rfl rfl (Nat.le_succ _)

theorem cacheFresh_asks (fetchedAt : Option ℚ) (maxAge : ℚ) :
    Asks w stamp 0 (cacheFresh w fetchedAt maxAge) s := by
  cases fetchedAt with
  | none => exact Asks.pure false
  | some fetched => exact Asks.bind now_asks fun n t _ => Asks.pure _

theorem fetchJson_asks (url category : String) :
    Asks w stamp (if category = "jwks" then 1 else 0) (fetchJson w url category) s := by
  refine ⟨?_, le_rfl, fun h => ⟨h.jwks, h.dated⟩⟩
  show (s.requests ++ [(⟨url, category, s.readings⟩ : Request)]).countP _ ≤ _
  by_cases hjwks : category = "jwks" <;> simp [jwksRequests, List.countP_append, hjwks]

variable [Urls] {cfg : Config}

theorem refreshDiscovery_asks : Asks w stamp 0 (refreshDiscovery cfg w) s := by
  refine Asks.bind (m := 0) (n := 0) (fetchJson_asks _ _) fun payload t _ => ?_
  refine Asks.bind (m := 0) (n := 0) (Asks.ofExcept _) fun document t _ => ?_
  refine Asks.bind (m := 0) (n := 0) (Bounded.quiet rfl rfl rfl le_rfl) fun _ t _ => ?_
  refine Asks.bind (m := 0) (n := 0) now_asks fun n t _ => ?_
  exact Asks.bind (m := 0) (n := 0) (Bounded.quiet rfl rfl rfl le_rfl) fun _ t _ => Asks.pure _

theorem getDiscovery_asks (force : Bool) : Asks w stamp 0 (getDiscovery cfg w force) s := by
  show Asks w stamp 0 ((s.discovery.filter fun _ => !force).elim (refreshDiscovery cfg w)
    fun document => do
      let fresh ← cacheFresh w s.discoveryFetchedAt cfg.discoveryCacheAge
      (if fresh then Pure.pure document else refreshDiscovery cfg w)) s
  cases s.discovery.filter fun _ => !force with
  | none => exact refreshDiscovery_asks
  | some document =>
      refine Asks.bind (m := 0) (n := 0) (cacheFresh_asks _ _) fun fresh t _ => ?_
      cases fresh with
      | false => exact refreshDiscovery_asks
      | true => exact Asks.pure document

/-! ## Keys -/

omit [Urls] in
/-- What has been read from the clock does not go back either. -/
theorem NonDecreasing.readingOf_le (hclock : NonDecreasing w) {i j : ℕ} {q r : ℚ} (hij : i ≤ j)
    (hi : readingOf (w.clock i) = .ok q) (hj : readingOf (w.clock j) = .ok r) : q ≤ r := by
  have hread : ∀ {k : ℕ} {a : ℚ}, readingOf (w.clock k) = .ok a →
      ∃ b, w.clock k = some b ∧ Doubles.round b = some a := by
    intro k a h
    unfold readingOf at h
    cases hround : (w.clock k).bind Doubles.round with
    | none =>
        rw [hround] at h
        cases h
    | some c =>
        rw [hround] at h
        obtain rfl := Except.ok.inj h
        exact Option.bind_eq_some_iff.1 hround
  obtain ⟨b, hb, hq⟩ := hread hi
  obtain ⟨c, hc, hr⟩ := hread hj
  exact Doubles.round_mono (hclock i j b c hij hb hc) hq hr

theorem refreshJwks_asks (hclock : NonDecreasing w) : Asks w stamp 1 (refreshJwks cfg w) s := by
  refine Asks.bind (m := 0) (n := 1) (getDiscovery_asks false) fun discovery t _ => ?_
  refine Asks.bind (m := 1) (n := 0) (fetchJson_asks _ _) fun payload t _ => ?_
  refine Asks.bind (m := 0) (n := 0) (Asks.ofExcept _) fun keys t _ => ?_
  refine Asks.bind (m := 0) (n := 0) (s := t)
    ⟨le_rfl, le_rfl, fun h => ⟨⟨keys, rfl⟩, h.dated⟩⟩ fun _ t _ => ?_
  refine Asks.bind (m := 0) (n := 0) now_asks fun n u hnow => ?_
  have hreading : readingOf (w.clock t.readings) = .ok n := (Prod.ext_iff.1 hnow).1
  have hu : u = { t with readings := t.readings + 1 } := (Prod.ext_iff.1 hnow).2.symm
  refine Asks.bind (m := 0) (n := 0) ⟨le_rfl, le_rfl, fun h => ⟨h.jwks, ?_⟩⟩
    fun _ v _ => Asks.pure _
  obtain ⟨fetched, i, -, hstamp, hi, hfetched⟩ := h.dated
  have hlast : t.readings < u.readings := by
    rw [hu]
    exact Nat.lt_succ_self _
  have hle : i ≤ t.readings := by
    rw [hu] at hi
    exact Nat.le_of_lt_succ hi
  exact ⟨n, t.readings, rfl, hstamp.trans (hclock.readingOf_le hle hfetched hreading), hlast,
    hreading⟩

theorem forceJwks_asks (hclock : NonDecreasing w) (generation : ℕ) :
    Asks w stamp 1 (forceJwks cfg w generation) s := by
  show Asks w stamp 1 ((s.jwks.filter fun _ => s.jwksGeneration ≠ generation).elim
    (refreshJwks cfg w) Pure.pure) s
  cases s.jwks.filter fun _ => s.jwksGeneration ≠ generation with
  | none => exact refreshJwks_asks hclock
  | some keys => exact (Asks.pure keys).mono (Nat.zero_le 1)

theorem getJwks_asks (hclock : NonDecreasing w) : Asks w stamp 1 (getJwks cfg w) s := by
  show Asks w stamp 1 (s.jwks.elim (refreshJwks cfg w) fun keys => do
    let fresh ← cacheFresh w s.jwksFetchedAt cfg.jwksCacheAge
    (if fresh then Pure.pure keys else refreshJwks cfg w)) s
  cases s.jwks with
  | none => exact refreshJwks_asks hclock
  | some keys =>
      refine Asks.bind (m := 0) (n := 1) (cacheFresh_asks _ _) fun fresh t _ => ?_
      cases fresh with
      | false => exact refreshJwks_asks hclock
      | true => exact (Asks.pure keys).mono (Nat.zero_le 1)

/-- Cached keys are returned where they are fresh. -/
theorem getJwks_of_cached {keys : List Mapping} {fetched : ℚ} (hkeys : s.jwks = some keys)
    (hfetched : s.jwksFetchedAt = some fetched) :
    getJwks cfg w s = (cacheFresh w (some fetched) cfg.jwksCacheAge >>= fun fresh =>
      (if fresh then Pure.pure keys else refreshJwks cfg w : Method (List Mapping))) s := by
  show (s.jwks.elim (refreshJwks cfg w) fun keys => do
    let fresh ← cacheFresh w s.jwksFetchedAt cfg.jwksCacheAge
    (if fresh then Pure.pure keys else refreshJwks cfg w)) s = _
  rw [hkeys, hfetched]
  rfl

/-- Whether they are fresh is read from the clock. -/
theorem getJwks_reads (hclock : NonDecreasing w) (hcached : CachedSince w stamp s) :
    s.readings < (getJwks cfg w s).2.readings := by
  obtain ⟨keys, hkeys⟩ := hcached.jwks
  obtain ⟨fetched, -, hfetched, -⟩ := hcached.dated
  rw [getJwks_of_cached hkeys hfetched]
  have hnow : Bounded w stamp 0 (now w s).2 (cacheFresh w (some fetched) cfg.jwksCacheAge s).2 :=
    Bounded.afterBind rfl fun n _ => Asks.pure _
  refine (Nat.lt_succ_self s.readings).trans_le (hnow.readings.trans ?_)
  refine (Bounded.afterBind (n := 1) (f := _) rfl fun fresh _ => ?_ : Bounded w stamp _ _ _).readings
  cases fresh with
  | false => exact refreshJwks_asks hclock
  | true => exact Asks.mono (Asks.pure keys) (Nat.zero_le 1)

/-- Cached keys that are dated recently enough are not asked for. -/
theorem getJwks_of_recent (hclock : NonDecreasing w) (hcached : CachedSince w stamp s)
    (hrecent : ∀ n, readingOf (w.clock s.readings) = .ok n →
      elapsedBelow n stamp cfg.jwksCacheAge = true) :
    (getJwks cfg w s).2 = { s with readings := s.readings + 1 } := by
  obtain ⟨keys, hkeys⟩ := hcached.jwks
  obtain ⟨fetched, i, hfetched, hstamp, hi, hdated⟩ := hcached.dated
  rw [getJwks_of_cached hkeys hfetched]
  have hnow : now w s = (readingOf (w.clock s.readings), { s with readings := s.readings + 1 }) := rfl
  cases hreading : readingOf (w.clock s.readings) with
  | error e =>
      rw [hreading] at hnow
      have hfails : cacheFresh w (some fetched) cfg.jwksCacheAge s =
          (.error e, { s with readings := s.readings + 1 }) := Raising.bind_of_error hnow
      rw [Raising.bind_of_error hfails]
  | ok n =>
      rw [hreading] at hnow
      have hbelow : elapsedBelow n fetched cfg.jwksCacheAge = true :=
        elapsedBelow_mono hstamp (hclock.readingOf_le hi.le hdated hreading) (hrecent n hreading)
      have hfresh : cacheFresh w (some fetched) cfg.jwksCacheAge s =
          (.ok true, { s with readings := s.readings + 1 }) := by
        show (now w >>= fun n => Pure.pure (elapsedBelow n fetched cfg.jwksCacheAge)) s = _
        rw [Raising.bind_of_ok hnow, hbelow]
        rfl
      rw [Raising.bind_of_ok hfresh]
      rfl

omit [Urls] in
theorem Asks.attempt {x : Method α} {handle : Raised → Method α} (hx : Asks w stamp m x s)
    (hhandle : ∀ e t, Asks w stamp n (handle e) t) :
    Asks w stamp (m + n) (Raising.attempt x handle) s := by
  refine Raising.wp_attempt.2 (Raising.wp_mono hx ?_)
  rintro (e | a) t ht
  · exact ht.trans (hhandle e t)
  · exact ht.mono (Nat.le_add_right m n)

omit [Urls] in
theorem rememberFailure_asks (refreshKey : String × String) (e : Raised) :
    Asks w stamp 0 (rememberFailure refreshKey e) s := by
  cases e with
  | oidc category code =>
      exact Asks.bind (m := 0) (n := 0) (Bounded.quiet rfl rfl rfl le_rfl) fun _ t _ => Asks.raise _
  | _ => exact Asks.raise _

/-- A miss asks once, at most. -/
theorem keysAfterMiss_asks (hclock : NonDecreasing w) (refreshKey : String × String) (generation : ℕ)
    (keys : List Mapping) : Asks w stamp 1 (keysAfterMiss cfg w refreshKey generation keys) s := by
  show Asks w stamp 1 (if s.kidRefreshGenerations refreshKey = some s.jwksGeneration then _ else _) s
  split_ifs
  · cases s.kidRefreshFailures refreshKey with
    | none => exact Asks.mono (Asks.pure _) (Nat.zero_le 1)
    | some failure => exact Asks.mono (Asks.raise _) (Nat.zero_le 1)
  · refine Asks.bind (m := 1) (n := 0) ?_ fun keys t _ => ?_
    · exact Asks.attempt (forceJwks_asks hclock _) fun e t => rememberFailure_asks _ e
    · exact Asks.bind (m := 0) (n := 0) (Bounded.quiet rfl rfl rfl le_rfl) fun _ u _ => Asks.pure _

/-- A miss that is remembered asks for nothing. -/
theorem keysAfterMiss_remembered {refreshKey : String × String}
    (h : s.kidRefreshGenerations refreshKey = some s.jwksGeneration) (generation : ℕ)
    (keys : List Mapping) : Asks w stamp 0 (keysAfterMiss cfg w refreshKey generation keys) s := by
  show Asks w stamp 0 (if s.kidRefreshGenerations refreshKey = some s.jwksGeneration then _ else _) s
  rw [if_pos h]
  cases s.kidRefreshFailures refreshKey with
  | none => exact Asks.pure _
  | some failure => exact Asks.raise _

/-! ## Calls -/

variable [Python] {Key : Type} [Pyjwt Key]

/-- The key id and the algorithm of a token. -/
def tokenPair (cfg : Config) (Key : Type) [Pyjwt Key] (token : String) :
    Except Raised (String × String) := do
  let header ← readHeader Key token
  let algorithm ← headerAlgorithm cfg header
  let kid ← headerKid header
  pure (kid, algorithm)

/-- The pair of a call, where it is not in the keys that the call looks in. -/
def missOf (cfg : Config) (w : World) (Key : Type) [Pyjwt Key] (s : State) (token : String) :
    Option (String × String) :=
  match tokenPair cfg Key token, (getJwks cfg w s).1 with
  | .ok pair, .ok keys => if (keyForToken Key keys pair.1 pair.2).isNone then some pair else none
  | _, _ => none

/-- A token without a pair is refused before anything is asked. -/
theorem verifyToken_of_pair_error {token : String} {e : Raised}
    (h : tokenPair cfg Key token = .error e) : (verifyToken cfg w Key token s).2 = s := by
  unfold verifyToken
  cases hheader : readHeader Key token with
  | error e => rfl
  | ok header =>
      rw [Raising.bind_ofExcept rfl]
      cases halgorithm : headerAlgorithm cfg header with
      | error e => rfl
      | ok algorithm =>
          rw [Raising.bind_ofExcept rfl]
          cases hkid : headerKid header with
          | error e => rfl
          | ok kid =>
              simp only [tokenPair, hheader, halgorithm, hkid, bind, Except.bind] at h
              cases h

/-- The requests of a call, after those for the keys it looks in first. -/
theorem verifyToken_bounded {token : String} {pair : String × String}
    (hpair : tokenPair cfg Key token = .ok pair)
    (hmiss : ∀ keys, missOf cfg w Key s token = some pair →
      Asks w stamp n (keysAfterMiss cfg w pair (getJwks cfg w s).2.jwksGeneration keys)
        (getJwks cfg w s).2) :
    Bounded w stamp n (getJwks cfg w s).2 (verifyToken cfg w Key token s).2 := by
  obtain ⟨header, hheader, hpair'⟩ := Raising.except_bind_eq_ok.1 hpair
  obtain ⟨algorithm, halgorithm, hpair'⟩ := Raising.except_bind_eq_ok.1 hpair'
  obtain ⟨kid, hkid, hpair'⟩ := Raising.except_bind_eq_ok.1 hpair'
  obtain rfl : (kid, algorithm) = pair := Except.ok.inj hpair'
  have hfind : Bounded w stamp n (getJwks cfg w s).2 (findKey cfg w Key kid algorithm s).2 := by
    refine Bounded.afterBind (r := (getJwks cfg w s).1) rfl fun keys hkeys => ?_
    show Asks w stamp n ((keyForToken Key keys kid algorithm).elim _ _ : Method (Option Key)) _
    cases hkey : keyForToken Key keys kid algorithm with
    | some key => exact Asks.mono (Asks.pure _) (Nat.zero_le n)
    | none =>
        have hmissed : missOf cfg w Key s token = some (kid, algorithm) := by
          simp [missOf, hpair, hkeys, hkey]
        exact Asks.bind (n := 0) (hmiss keys hmissed) fun keys u _ => Asks.pure _
  have hrest : Bounded w stamp 0 (findKey cfg w Key kid algorithm s).2
      (verifyToken cfg w Key token s).2 := by
    unfold verifyToken
    rw [Raising.bind_ofExcept hheader, Raising.bind_ofExcept halgorithm,
      Raising.bind_ofExcept hkid]
    refine Bounded.afterBind (r := (findKey cfg w Key kid algorithm s).1) rfl fun key _ => ?_
    refine Asks.bind (m := 0) (n := 0) (Asks.ofExcept _) fun key t _ => ?_
    refine Asks.bind (m := 0) (n := 0) (Asks.ofExcept _) fun claims t _ => ?_
    refine Asks.bind (m := 0) (n := 0) ?_ fun _ t _ => Asks.pure claims
    refine Asks.bind (m := 0) (n := 0) (Asks.ofExcept _) fun expiration u _ => ?_
    exact Asks.bind (m := 0) (n := 0) now_asks fun n v _ => Asks.ofExcept _
  exact hfind.trans hrest

/-! ## Runs -/

/-- One call after the other. -/
def calls (cfg : Config) (w : World) (Key : Type) [Pyjwt Key] : List String → State → State
  | [], s => s
  | token :: tokens, s => calls cfg w Key tokens (verifyToken cfg w Key token s).2

/-- The pairs that the calls of a run have missed. -/
def misses (cfg : Config) (w : World) (Key : Type) [Pyjwt Key] :
    List String → State → List (String × String)
  | [], _ => []
  | token :: tokens, s =>
      (missOf cfg w Key s token).toList ++
        misses cfg w Key tokens (verifyToken cfg w Key token s).2

/-- A pair that is missed again is remembered: no other refresh has succeeded since. -/
def Remembered (cfg : Config) (w : World) (Key : Type) [Pyjwt Key] :
    List (String × String) → List String → State → Prop
  | _, [], _ => True
  | seen, token :: tokens, s =>
      (∀ pair ∈ seen, missOf cfg w Key s token = some pair →
        s.kidRefreshGenerations pair = some s.jwksGeneration) ∧
      Remembered cfg w Key ((missOf cfg w Key s token).toList ++ seen) tokens
        (verifyToken cfg w Key token s).2

instance decidableRemembered (cfg : Config) (w : World) (Key : Type) [Pyjwt Key] :
    (seen : List (String × String)) → (tokens : List String) → (s : State) →
      Decidable (Remembered cfg w Key seen tokens s)
  | _, [], _ => isTrue trivial
  | seen, token :: tokens, s =>
      have := decidableRemembered cfg w Key ((missOf cfg w Key s token).toList ++ seen) tokens
        (verifyToken cfg w Key token s).2
      inferInstanceAs (Decidable ((∀ pair ∈ seen, _ → _) ∧ Remembered _ _ _ _ _ _))

/-- The valid readings of the clock between two of them are within the cache age of `stamp`. -/
def Within (cfg : Config) (w : World) (stamp : ℚ) (first last : ℕ) : Prop :=
  ∀ m n, first ≤ m → m < last → readingOf (w.clock m) = .ok n →
    elapsedBelow n stamp cfg.jwksCacheAge = true

theorem verifyToken_asks (hclock : NonDecreasing w) (token : String) :
    Asks w stamp 2 (verifyToken cfg w Key token) s := by
  cases hpair : tokenPair cfg Key token with
  | error e =>
      unfold Asks Raising.Wp
      rw [verifyToken_of_pair_error hpair]
      exact (Bounded.refl s).mono (Nat.zero_le 2)
  | ok pair =>
      have hget : Bounded w stamp 1 s (getJwks cfg w s).2 := getJwks_asks hclock
      exact hget.trans
        (verifyToken_bounded hpair fun keys _ => keysAfterMiss_asks hclock pair _ keys)

theorem calls_readings (hclock : NonDecreasing w) (tokens : List String) (s : State) :
    s.readings ≤ (calls cfg w Key tokens s).readings := by
  induction tokens generalizing s with
  | nil => exact le_rfl
  | cons token tokens ih =>
      have hcall : Bounded w 0 2 s (verifyToken cfg w Key token s).2 :=
        verifyToken_asks hclock token
      exact hcall.readings.trans (ih _)

/-- A call while the cached keys are fresh: it asks at most once, and only for a pair that is new. -/
theorem verifyToken_recent (hclock : NonDecreasing w) (hcached : CachedSince w stamp s)
    {token : String} {last : ℕ} (hlast : (verifyToken cfg w Key token s).2.readings ≤ last)
    (hwithin : Within cfg w stamp s.readings last) {seen : List (String × String)}
    (hremembered : ∀ pair ∈ seen, missOf cfg w Key s token = some pair →
      s.kidRefreshGenerations pair = some s.jwksGeneration) :
    Bounded w stamp ((missOf cfg w Key s token).toList.toFinset \ seen.toFinset).card s
      (verifyToken cfg w Key token s).2 := by
  cases hpair : tokenPair cfg Key token with
  | error e =>
      rw [verifyToken_of_pair_error hpair]
      exact (Bounded.refl s).mono (Nat.zero_le _)
  | ok pair =>
      have hafter : Bounded w stamp 1 (getJwks cfg w s).2 (verifyToken cfg w Key token s).2 :=
        verifyToken_bounded hpair fun keys _ => keysAfterMiss_asks hclock pair _ keys
      have hread : s.readings < last :=
        (getJwks_reads hclock hcached).trans_le (hafter.readings.trans hlast)
      have hget := getJwks_of_recent hclock hcached fun n hn =>
        hwithin s.readings n le_rfl hread hn
      have hquiet : Bounded w stamp 0 s (getJwks cfg w s).2 := by
        rw [hget]
        exact Bounded.quiet rfl rfl rfl (Nat.le_succ _)
      suffices hbound : ∀ n, (missOf cfg w Key s token = some pair → pair ∉ seen → n = 1) →
          Bounded w stamp n (getJwks cfg w s).2 (verifyToken cfg w Key token s).2 by
        refine (hquiet.trans (hbound _ fun hmiss hnew => ?_)).mono (Nat.zero_add _).le
        have hdisjoint : Disjoint {pair} seen.toFinset := by simpa using hnew
        simp only [hmiss, Option.toList_some, List.toFinset_cons, List.toFinset_nil,
          insert_empty_eq]
        rw [Finset.sdiff_eq_self_of_disjoint hdisjoint, Finset.card_singleton]
      intro n hn
      refine verifyToken_bounded hpair fun keys hmiss => ?_
      by_cases hnew : pair ∈ seen
      · have hkept : (getJwks cfg w s).2.kidRefreshGenerations pair =
            some (getJwks cfg w s).2.jwksGeneration := by
          rw [hget]
          exact hremembered pair hnew hmiss
        exact Asks.mono (keysAfterMiss_remembered hkept _ keys) (Nat.zero_le n)
      · rw [hn hmiss hnew]
        exact keysAfterMiss_asks hclock pair _ keys

omit [Doubles] [Urls] [Python] in
theorem card_union_sdiff (a b seen : Finset (String × String)) :
    ((a ∪ b) \ seen).card = (a \ seen).card + (b \ (a ∪ seen)).card := by
  have hsplit : (a ∪ b) \ seen = (a \ seen) ∪ (b \ (a ∪ seen)) := by
    ext pair
    simp only [Finset.mem_sdiff, Finset.mem_union]
    tauto
  rw [hsplit, Finset.card_union_of_disjoint]
  refine Finset.disjoint_left.2 fun pair ha hb => ?_
  exact (Finset.mem_sdiff.1 hb).2 (Finset.mem_union_left _ (Finset.mem_sdiff.1 ha).1)

/-- A run while the keys are fresh asks once for each pair that is new. -/
theorem calls_recent (hclock : NonDecreasing w) (tokens : List String)
    {seen : List (String × String)} (hcached : CachedSince w stamp s)
    (hwithin : Within cfg w stamp s.readings (calls cfg w Key tokens s).readings)
    (hremembered : Remembered cfg w Key seen tokens s) :
    jwksRequests (calls cfg w Key tokens s) ≤ jwksRequests s +
      ((misses cfg w Key tokens s).toFinset \ seen.toFinset).card := by
  induction tokens generalizing s seen with
  | nil => exact Nat.le_add_right _ _
  | cons token tokens ih =>
      obtain ⟨hmiss, hrest⟩ := hremembered
      have hcall := verifyToken_recent hclock hcached (calls_readings hclock tokens _) hwithin hmiss
      have hlater := ih (hcall.cached hcached)
        (fun i n hi => hwithin i n (hcall.readings.trans hi)) hrest
      have hdistinct : ((misses cfg w Key (token :: tokens) s).toFinset \ seen.toFinset).card =
          ((missOf cfg w Key s token).toList.toFinset \ seen.toFinset).card +
            ((misses cfg w Key tokens (verifyToken cfg w Key token s).2).toFinset \
              ((missOf cfg w Key s token).toList ++ seen).toFinset).card := by
        rw [misses, List.toFinset_append, List.toFinset_append, card_union_sdiff]
      calc jwksRequests (calls cfg w Key (token :: tokens) s)
          ≤ jwksRequests (verifyToken cfg w Key token s).2 + _ := hlater
        _ ≤ jwksRequests s + _ + _ := Nat.add_le_add_right hcall.requests _
        _ = _ := by rw [hdistinct, Nat.add_assoc]

/-- A call that is started in `s` looks in keys that are dated with `stamp`. -/
structure FirstKeys (cfg : Config) (w : World) (s u : State) (stamp : ℚ) : Prop where
  fetched : ∃ keys, getJwks cfg w s = (.ok keys, u)
  stamp : u.jwksFetchedAt = some stamp

omit [Python] in
theorem FirstKeys.cachedSince (hfirst : FirstKeys cfg w s u stamp) (hinv : Inv cfg w s) :
    CachedSince w stamp u := by
  obtain ⟨keys, hget⟩ := hfirst.fetched
  have hsound : Sound cfg w s _ (getJwks cfg w s).1 (getJwks cfg w s).2 := getJwks_sound hinv
  rw [hget] at hsound
  obtain ⟨hu, -, hcached, -⟩ := hsound
  obtain ⟨m, hm, hreading⟩ := hu.stamp stamp hfirst.stamp
  exact ⟨⟨keys, hcached⟩, stamp, m, hfirst.stamp, le_rfl, hm, hreading⟩

/-- In a run within the cache age of its first keys, in which every pair that is missed again is
    remembered, keys are asked for once, and once for each pair that is missed. -/
theorem jwksRequests_le (hclock : NonDecreasing w) (hs : Reachable cfg w Key s)
    (hfirst : FirstKeys cfg w s u stamp) (tokens : List String)
    (hwithin : Within cfg w stamp u.readings (calls cfg w Key tokens s).readings)
    (hremembered : Remembered cfg w Key [] tokens s) :
    jwksRequests (calls cfg w Key tokens s) ≤
      jwksRequests s + 1 + (misses cfg w Key tokens s).toFinset.card := by
  induction tokens with
  | nil => exact (Nat.le_succ _).trans (Nat.le_add_right _ _)
  | cons token tokens ih =>
      cases hpair : tokenPair cfg Key token with
      | error e =>
          -- nothing has been asked yet
          have hnone : missOf cfg w Key s token = none := by simp [missOf, hpair]
          simp only [calls, misses, Remembered, verifyToken_of_pair_error hpair, hnone,
            Option.toList_none, List.nil_append] at hwithin hremembered ⊢
          exact ih hwithin hremembered.2
      | ok pair =>
          obtain ⟨keys, hget⟩ := hfirst.fetched
          have hu : (getJwks cfg w s).2 = u := by rw [hget]
          have hfetch : Bounded w stamp 1 s u := hu ▸ getJwks_asks hclock
          have hcached := hfirst.cachedSince hs.inv
          have hcall : Bounded w stamp (missOf cfg w Key s token).toList.toFinset.card u
              (verifyToken cfg w Key token s).2 := by
            rw [← hu]
            refine verifyToken_bounded hpair fun keys hmiss => ?_
            simp only [hmiss, Option.toList_some, List.toFinset_cons, List.toFinset_nil,
              insert_empty_eq, Finset.card_singleton]
            exact keysAfterMiss_asks hclock pair _ keys
          have hrest := hremembered.2
          rw [List.append_nil] at hrest
          have hlater := calls_recent hclock tokens (hcall.cached hcached)
            (fun i n hi => hwithin i n (hcall.readings.trans hi)) hrest
          have hdistinct : (misses cfg w Key (token :: tokens) s).toFinset.card =
              (missOf cfg w Key s token).toList.toFinset.card +
                ((misses cfg w Key tokens (verifyToken cfg w Key token s).2).toFinset \
                  (missOf cfg w Key s token).toList.toFinset).card := by
            have hsplit := card_union_sdiff (missOf cfg w Key s token).toList.toFinset
              (misses cfg w Key tokens (verifyToken cfg w Key token s).2).toFinset ∅
            simpa [misses] using hsplit
          have hrequests := hfetch.requests
          have hmore := hcall.requests
          show jwksRequests (calls cfg w Key tokens (verifyToken cfg w Key token s).2) ≤ _
          omega

end Refreshes

/-! ## Two unknown key ids in turn -/

def tokenA : String := "eyJhbGciOiAiUlMyNTYiLCAia2lkIjogImEifQ.e30.c2ln"

def tokenB : String := "eyJhbGciOiAiUlMyNTYiLCAia2lkIjogImIifQ.e30.c2ln"

/-- PyJWT where all tokens but one have the key id `b`. -/
@[reducible]
def twoPyjwt : Pyjwt String where
  getUnverifiedHeader token :=
    .ok (.dict [("alg", .str "RS256"), ("kid", .str (if token = tokenA then "a" else "b"))])
  pyJwk _ _ := .ok (some "k1")
  decode _ _ _ _ _ := .error .invalidSignature
  decode_audience := by
    intro token key algorithms issuer audience claims h
    cases h

/-- A provider that always answers, with the same keys. -/
def steadyWorld : World where
  clock _ := some 100
  responses i := if i = 0 then sampleWorld.responses 0 else sampleWorld.responses 1

/-- The tokens, from the state the verifier starts in. -/
def sampleCalls (tokens : List String) : State :=
  @calls exactDoubles plainUrls asciiPython sampleConfig steadyWorld String twoPyjwt tokens
    State.start

def sampleMisses (tokens : List String) : List (String × String) :=
  @misses exactDoubles plainUrls asciiPython sampleConfig steadyWorld String twoPyjwt tokens
    State.start

theorem steadyWorld_nonDecreasing : NonDecreasing steadyWorld := by
  intro m m' q q' _ hq hq'
  rw [← Option.some.inj hq, ← Option.some.inj hq']

theorem sampleCalls_within (first last : ℕ) :
    @Within exactDoubles plainUrls sampleConfig steadyWorld 100 first last := by
  intro m n _ _ hn
  obtain rfl : (100 : ℚ) = n := Except.ok.inj hn
  decide +kernel

theorem sampleCalls_first : ∃ u,
    @FirstKeys exactDoubles plainUrls sampleConfig steadyWorld State.start u 100 :=
  ⟨_, @FirstKeys.mk exactDoubles plainUrls _ _ _ _ _ ⟨_, rfl⟩ rfl⟩

/-- Each call asks again, though all are made at once. -/
theorem alternating_kids_refetched :
    (∃ u, @FirstKeys exactDoubles plainUrls sampleConfig steadyWorld State.start u 100 ∧
      @Within exactDoubles plainUrls sampleConfig steadyWorld 100 u.readings
        (sampleCalls [tokenA, tokenB, tokenA, tokenB]).readings) ∧
      (sampleMisses [tokenA, tokenB, tokenA, tokenB]).toFinset.card = 2 ∧
      jwksRequests (sampleCalls [tokenA, tokenB, tokenA, tokenB]) = 1 + 4 := by
  obtain ⟨u, hu⟩ := sampleCalls_first
  exact ⟨⟨u, hu, sampleCalls_within _ _⟩, by decide +kernel, by decide +kernel⟩

/-- Where a token is repeated before the other one comes, it is remembered. -/
theorem jwksRequests_le_repeated :
    jwksRequests (sampleCalls [tokenA, tokenA, tokenB]) ≤
      jwksRequests State.start + 1 + (sampleMisses [tokenA, tokenA, tokenB]).toFinset.card := by
  obtain ⟨u, hu⟩ := sampleCalls_first
  have hstart :=
    @Reachable.start exactDoubles plainUrls asciiPython sampleConfig steadyWorld String twoPyjwt
  have hremembered : @Remembered exactDoubles plainUrls asciiPython sampleConfig steadyWorld String
      twoPyjwt [] [tokenA, tokenA, tokenB] State.start := by decide +kernel
  exact @jwksRequests_le exactDoubles steadyWorld 100 _ u plainUrls sampleConfig asciiPython String
    twoPyjwt steadyWorld_nonDecreasing hstart hu [tokenA, tokenA, tokenB] (sampleCalls_within _ _)
    hremembered

end Oidc

end VulnOpsHub
