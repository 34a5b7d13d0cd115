import VulnOpsHub.Auth.Oidc

set_option autoImplicit false

/-! # Where the keys come from

The invariant of the verifier: what it has cached was sent by the provider, at the URL of its
discovery document, before the time it is dated with. Every method keeps it, and raises nothing but
`OIDCVerificationError`. -/

namespace VulnOpsHub

namespace Oidc

open Raising (raise ofExcept attempt Wp)

def Raised.IsOidc (e : Raised) : Prop := ∃ category code, e = .oidc category code

/-! ## Nothing else is raised -/

/-- A step that raises nothing but `OIDCVerificationError`. -/
def OnlyOidc {α : Type} (x : Except Raised α) : Prop := ∀ e, x = .error e → e.IsOidc

section OnlyOidc

variable {α β : Type}

theorem OnlyOidc.ok (a : α) : OnlyOidc (.ok a) := fun _ h => by cases h

theorem OnlyOidc.error (category code : String) :
    OnlyOidc (.error (.oidc category code) : Except Raised α) := by
  intro e h
  cases h
  exact ⟨_, _, rfl⟩

theorem OnlyOidc.elim {x : Option α} (category code : String) :
    OnlyOidc (x.elim (.error (.oidc category code)) .ok) := by
  cases x with
  | none => exact OnlyOidc.error _ _
  | some a => exact OnlyOidc.ok a

theorem OnlyOidc.bind {x : Except Raised α} {f : α → Except Raised β} (hx : OnlyOidc x)
    (hf : ∀ a, OnlyOidc (f a)) : OnlyOidc (x >>= f) := by
  cases x with
  | error e =>
      intro e' h
      cases h
      exact hx e rfl
  | ok a => exact hf a

end OnlyOidc

section Provenance

variable [Doubles] [Urls]

/-! ## Responses -/

/-- The `i`-th request was for a URL, and was answered with a payload. -/
structure Answered (w : World) (requests : List Request) (i : ℕ) (url category : String)
    (payload : Mapping) : Prop where
  request : ∃ n, requests[i]? = some ⟨url, category, n⟩
  response : readResponse category (w.responses i) = .ok payload

/-- The scheme of a URL from which keys may come. -/
def SchemeAllowed (cfg : Config) (url : String) : Prop :=
  ∃ parsed, Urls.urlparse url = some parsed ∧ (parsed.scheme = "https" ∨
    parsed.scheme = "http" ∧ cfg.allowInsecureLoopback = true ∧
      isLoopbackHostname parsed.hostname = true)

/-- The `i`-th response is a discovery document of the issuer. -/
structure Published (cfg : Config) (w : World) (requests : List Request) (i : ℕ) (d : Discovery) :
    Prop where
  answered : ∃ payload, Answered w requests i (discoveryUrl cfg) "discovery" payload ∧
    Value.get payload "issuer" = .str cfg.issuerUrl ∧ Value.get payload "jwks_uri" = .str d.jwksUri
  scheme : SchemeAllowed cfg d.jwksUri

/-- The `i`-th response is a key set, from the URL of an earlier discovery document. -/
structure FetchedKeys (cfg : Config) (w : World) (requests : List Request) (i : ℕ)
    (keys : List Mapping) : Prop where
  discovered : ∃ j < i, ∃ d, Published cfg w requests j d ∧
    ∃ payload, Answered w requests i d.jwksUri "jwks" payload ∧ readKeys payload = .ok keys

/-- The `i`-th request was made no earlier than a reading of the clock. -/
def Dated (w : World) (requests : List Request) (i : ℕ) (t : ℚ) : Prop :=
  ∃ r m, requests[i]? = some r ∧ m ≤ r.readings ∧ readingOf (w.clock m) = .ok t

variable {cfg : Config} {w : World} {requests requests' : List Request} {i : ℕ}

omit [Doubles] [Urls] in
theorem getElem?_of_prefix {r : Request} (h : requests <+: requests')
    (hr : requests[i]? = some r) : requests'[i]? = some r := by
  obtain ⟨more, rfl⟩ := h
  rw [List.getElem?_append_left (List.getElem?_eq_some_iff.1 hr).1, hr]

omit [Doubles] [Urls] in
theorem Answered.mono {url category : String} {payload : Mapping} (h : requests <+: requests')
    (hi : Answered w requests i url category payload) :
    Answered w requests' i url category payload := by
  obtain ⟨n, hn⟩ := hi.request
  exact ⟨⟨n, getElem?_of_prefix h hn⟩, hi.response⟩

theorem Published.mono {d : Discovery} (h : requests <+: requests')
    (hi : Published cfg w requests i d) : Published cfg w requests' i d := by
  obtain ⟨payload, hanswered, hissuer⟩ := hi.answered
  exact ⟨⟨payload, hanswered.mono h, hissuer⟩, hi.scheme⟩

theorem FetchedKeys.mono {keys : List Mapping} (h : requests <+: requests')
    (hi : FetchedKeys cfg w requests i keys) : FetchedKeys cfg w requests' i keys := by
  obtain ⟨j, hj, d, hpublished, payload, hanswered, hkeys⟩ := hi.discovered
  exact ⟨⟨j, hj, d, hpublished.mono h, payload, hanswered.mono h, hkeys⟩⟩

omit [Urls] in
theorem Dated.mono {t : ℚ} (h : requests <+: requests') (hi : Dated w requests i t) :
    Dated w requests' i t := by
  obtain ⟨r, m, hr, hm⟩ := hi
  exact ⟨r, m, getElem?_of_prefix h hr, hm⟩

/-- What makes a payload a discovery document. -/
theorem readDiscovery_eq_ok {payload : Mapping} {d : Discovery}
    (h : readDiscovery cfg payload = .ok d) :
    Value.get payload "issuer" = .str cfg.issuerUrl ∧
      Value.get payload "jwks_uri" = .str d.jwksUri ∧ SchemeAllowed cfg d.jwksUri := by
  unfold readDiscovery at h
  split_ifs at h with hissuer
  split at h
  · cases h
  · next issuer hparse =>
      split at h
      · next jwksUri huri =>
          split_ifs at h with hvalid
          cases h
          refine ⟨Value.isText_eq_true.1 hissuer, huri, ?_⟩
          unfold validHttpUrl at hvalid
          split at hvalid
          · cases hvalid
          · next parsed hparsed =>
              split_ifs at hvalid
              simp only [allowInsecureJwks, Bool.or_eq_true, Bool.and_eq_true,
                decide_eq_true_eq] at hvalid
              refine ⟨parsed, hparsed, ?_⟩
              rcases hvalid with hhttps | ⟨⟨hhttp, hallowed⟩, hloopback⟩
              · exact Or.inl hhttps
              · exact Or.inr ⟨hhttp, hallowed.1.1, hloopback⟩
      · cases h

/-- The issuer URL of a configuration can be parsed, so nothing else is raised. -/
theorem readDiscovery_onlyOidc (payload : Mapping) : OnlyOidc (readDiscovery cfg payload) := by
  have hissuer := cfg.issuer_valid
  unfold readDiscovery
  split_ifs
  · split
    · next hparse => simp [validHttpUrl, hparse] at hissuer
    · split
      · split_ifs
        · exact OnlyOidc.ok _
        · exact OnlyOidc.error _ _
      · exact OnlyOidc.error _ _
  · exact OnlyOidc.error _ _

/-! ## The invariant -/

/-- What the verifier has cached was sent by the provider. -/
structure Inv (cfg : Config) (w : World) (s : State) : Prop where
  discovery : ∀ d, s.discovery = some d → ∃ j < s.requests.length, Published cfg w s.requests j d
  jwks : ∀ keys, s.jwks = some keys → ∃ i, FetchedKeys cfg w s.requests i keys ∧
    ∀ t, s.jwksFetchedAt = some t → Dated w s.requests i t
  stamp : ∀ t, s.jwksFetchedAt = some t → ∃ m < s.readings, readingOf (w.clock m) = .ok t

/-- The world goes on. -/
structure Later (s t : State) : Prop where
  requests : s.requests <+: t.requests
  readings : s.readings ≤ t.readings

omit [Doubles] [Urls] in
theorem Later.refl (s : State) : Later s s := ⟨List.prefix_refl _, le_rfl⟩

omit [Doubles] [Urls] in
theorem Later.trans {s t u : State} (h : Later s t) (h' : Later t u) : Later s u :=
  ⟨h.requests.trans h'.requests, h.readings.trans h'.readings⟩

/-- A call that was started in `s` keeps the invariant, and raises nothing but
    `OIDCVerificationError`; `P` is what it promises where it returns. -/
def Sound {α : Type} (cfg : Config) (w : World) (s : State) (P : α → State → Prop) :
    Except Raised α → State → Prop
  | .ok a, t => Inv cfg w t ∧ Later s t ∧ P a t
  | .error e, t => Inv cfg w t ∧ Later s t ∧ e.IsOidc

variable {s : State} {α β : Type}

theorem Sound.bind {x : Method α} {f : α → Method β} {P : α → State → Prop}
    {Q : β → State → Prop} (hx : x.Wp (Sound cfg w s P) s)
    (hf : ∀ a t, Inv cfg w t → Later s t → P a t → (f a).Wp (Sound cfg w t Q) t) :
    (x >>= f).Wp (Sound cfg w s Q) s := by
  refine Raising.wp_bind.2 (Raising.wp_mono hx ?_)
  rintro (e | a) t ⟨hinv, hlater, hp⟩
  · exact ⟨hinv, hlater, hp⟩
  · show (f a).Wp (Sound cfg w s Q) t
    refine Raising.wp_mono (hf a t hinv hlater hp) ?_
    rintro (e | b) u ⟨hinv', hlater', hq⟩
    · exact ⟨hinv', hlater.trans hlater', hq⟩
    · exact ⟨hinv', hlater.trans hlater', hq⟩

theorem Sound.mono {x : Method α} {P Q : α → State → Prop} (hx : x.Wp (Sound cfg w s P) s)
    (h : ∀ a t, Inv cfg w t → Later s t → P a t → Q a t) : x.Wp (Sound cfg w s Q) s := by
  refine Raising.wp_mono hx ?_
  rintro (e | a) t ⟨hinv, hlater, hp⟩
  · exact ⟨hinv, hlater, hp⟩
  · exact ⟨hinv, hlater, h a t hinv hlater hp⟩

theorem Sound.pure (hinv : Inv cfg w s) {P : α → State → Prop} {a : α} (h : P a s) :
    (Pure.pure a : Method α).Wp (Sound cfg w s P) s :=
  ⟨hinv, Later.refl s, h⟩

theorem Sound.modify {f : State → State} (hinv : Inv cfg w (f s)) (hlater : Later s (f s)) :
    (Raising.modify f : Method Unit).Wp (Sound cfg w s fun _ t => t = f s) s :=
  ⟨hinv, hlater, rfl⟩

theorem Sound.ofExcept (hinv : Inv cfg w s) {x : Except Raised α} (herror : OnlyOidc x) :
    (ofExcept x : Method α).Wp (Sound cfg w s fun a t => x = .ok a ∧ t = s) s := by
  cases x with
  | error e => exact ⟨hinv, Later.refl s, herror e rfl⟩
  | ok a => exact ⟨hinv, Later.refl s, rfl, rfl⟩

/-! ## Clock and provider -/

/-- A reading of the clock changes nothing else. -/
theorem now_sound (hinv : Inv cfg w s) :
    (now w).Wp (Sound cfg w s fun n t =>
      readingOf (w.clock s.readings) = .ok n ∧ t = { s with readings := s.readings + 1 }) s := by
  have hnext : Inv cfg w { s with readings := s.readings + 1 } := by
    refine ⟨hinv.discovery, hinv.jwks, fun t ht => ?_⟩
    obtain ⟨m, hm, hreading⟩ := hinv.stamp t ht
    exact ⟨m, Nat.lt_succ_of_lt hm, hreading⟩
  have hlater : Later s { s with readings := s.readings + 1 } :=
    ⟨List.prefix_refl _, Nat.le_succ _⟩
  have honly : OnlyOidc (readingOf (w.clock s.readings)) := OnlyOidc.elim _ _
  show Sound cfg w s _ (readingOf (w.clock s.readings)) _
  cases hreading : readingOf (w.clock s.readings) with
  | error e => exact ⟨hnext, hlater, honly e hreading⟩
  | ok n => exact ⟨hnext, hlater, rfl, rfl⟩

/-- What a freshness check between `s` and `t` has found. -/
structure Fresh (w : World) (s t : State) (fetchedAt : Option ℚ) (maxAge : ℚ) : Prop where
  recent : ∃ stamp, fetchedAt = some stamp ∧ ∃ m n, s.readings ≤ m ∧ m < t.readings ∧
    readingOf (w.clock m) = .ok n ∧ elapsedBelow n stamp maxAge = true

theorem cacheFresh_sound (hinv : Inv cfg w s) (fetchedAt : Option ℚ) (maxAge : ℚ) :
    (cacheFresh w fetchedAt maxAge).Wp (Sound cfg w s fun fresh t =>
      t.toCache = s.toCache ∧ t.requests = s.requests ∧
        (fresh = true → Fresh w s t fetchedAt maxAge)) s := by
  cases fetchedAt with
  | none => exact Sound.pure hinv ⟨rfl, rfl, fun h => by cases h⟩
  | some fetched =>
      refine Sound.bind (now_sound hinv) ?_
      rintro n t ht - ⟨hreading, rfl⟩
      exact Sound.pure ht
        ⟨rfl, rfl, fun h => ⟨fetched, rfl, s.readings, n, le_rfl, Nat.lt_succ_self _, hreading, h⟩⟩

omit [Doubles] [Urls] in
theorem readResponse_onlyOidc (category : String) (response : Response) :
    OnlyOidc (readResponse category response) := by
  unfold readResponse
  split
  · split_ifs
    · exact OnlyOidc.ok _
    · exact OnlyOidc.error _ _
  · exact OnlyOidc.error _ _

theorem Inv.request (hinv : Inv cfg w s) (r : Request) :
    Inv cfg w { s with requests := s.requests ++ [r] } := by
  have hprefix : s.requests <+: s.requests ++ [r] := List.prefix_append _ _
  refine ⟨fun d hd => ?_, fun keys hkeys => ?_, hinv.stamp⟩
  · obtain ⟨j, hj, hpublished⟩ := hinv.discovery d hd
    exact ⟨j, by simpa using Nat.lt_succ_of_lt hj, hpublished.mono hprefix⟩
  · obtain ⟨i, hfetched, hdated⟩ := hinv.jwks keys hkeys
    exact ⟨i, hfetched.mono hprefix, fun t ht => (hdated t ht).mono hprefix⟩

/-- A request is logged, and what it returns is its response. -/
theorem fetchJson_sound (hinv : Inv cfg w s) (url category : String) :
    (fetchJson w url category).Wp (Sound cfg w s fun payload t =>
      Answered w t.requests s.requests.length url category payload ∧
        t = { s with requests := s.requests ++ [⟨url, category, s.readings⟩] }) s := by
  have hnext := hinv.request ⟨url, category, s.readings⟩
  have hlater : Later s { s with requests := s.requests ++ [⟨url, category, s.readings⟩] } :=
    ⟨List.prefix_append _ _, le_rfl⟩
  show Sound cfg w s _ (readResponse category (w.responses s.requests.length)) _
  cases hresponse : readResponse category (w.responses s.requests.length) with
  | error e => exact ⟨hnext, hlater, readResponse_onlyOidc _ _ e hresponse⟩
  | ok payload =>
      exact ⟨hnext, hlater, ⟨⟨s.readings, List.getElem?_concat_length⟩, hresponse⟩, rfl⟩

/-! ## Discovery and keys -/

theorem refreshDiscovery_sound (hinv : Inv cfg w s) :
    (refreshDiscovery cfg w).Wp (Sound cfg w s fun d t =>
      ∃ j < t.requests.length, Published cfg w t.requests j d) s := by
  refine Sound.bind (fetchJson_sound hinv _ _) ?_
  rintro payload t ht - ⟨hanswered, hrequests⟩
  refine Sound.bind (Sound.ofExcept ht (readDiscovery_onlyOidc payload)) ?_
  rintro d t - - ⟨hread, rfl⟩
  obtain ⟨hissuer, huri, hscheme⟩ := readDiscovery_eq_ok hread
  have hpublished : ∃ j < t.requests.length, Published cfg w t.requests j d :=
    ⟨s.requests.length, by simp [hrequests], ⟨payload, hanswered, hissuer, huri⟩, hscheme⟩
  have hcached : Inv cfg w { t with discovery := some d } := by
    refine ⟨fun d' hd' => ?_, ht.jwks, ht.stamp⟩
    cases hd'
    exact hpublished
  refine Sound.bind (Sound.modify hcached ⟨List.prefix_refl _, le_rfl⟩) ?_
  rintro - u hu - rfl
  refine Sound.bind (now_sound hu) ?_
  rintro n v hv - ⟨-, rfl⟩
  refine Sound.bind (Sound.modify ⟨hv.discovery, hv.jwks, hv.stamp⟩ ⟨List.prefix_refl _, le_rfl⟩) ?_
  rintro - x hx - rfl
  exact Sound.pure hx hpublished

theorem getDiscovery_sound (hinv : Inv cfg w s) (force : Bool) :
    (getDiscovery cfg w force).Wp (Sound cfg w s fun d t =>
      ∃ j < t.requests.length, Published cfg w t.requests j d) s := by
  show ((s.discovery.filter fun _ => !force).elim (refreshDiscovery cfg w) fun document => do
    let fresh ← cacheFresh w s.discoveryFetchedAt cfg.discoveryCacheAge
    (if fresh then Pure.pure document else refreshDiscovery cfg w)).Wp _ s
  cases hcached : s.discovery.filter fun _ => !force with
  | none => exact refreshDiscovery_sound hinv
  | some document =>
      refine Sound.bind (cacheFresh_sound hinv _ _) ?_
      rintro fresh t ht hlater ⟨hcache, hrequests, -⟩
      cases fresh with
      | false => exact refreshDiscovery_sound ht
      | true =>
          refine Sound.pure ht ?_
          rw [hrequests]
          exact hinv.discovery document (Option.filter_eq_some_iff.1 hcached).1

omit [Doubles] [Urls] in
theorem readKeys_onlyOidc (payload : Mapping) : OnlyOidc (readKeys payload) := by
  unfold readKeys
  split
  · exact OnlyOidc.ok _
  · exact OnlyOidc.error _ _

/-- Keys that are asked for are fetched now, and cached. -/
theorem refreshJwks_sound (hinv : Inv cfg w s) :
    (refreshJwks cfg w).Wp (Sound cfg w s fun keys t => t.jwks = some keys ∧
      ∃ i, s.requests.length ≤ i ∧ FetchedKeys cfg w t.requests i keys) s := by
  refine Sound.bind (getDiscovery_sound hinv false) ?_
  rintro d t ht hst ⟨j, hj, hpublished⟩
  refine Sound.bind (fetchJson_sound ht _ _) ?_
  rintro payload u hu htu ⟨hanswered, hrequests⟩
  refine Sound.bind (Sound.ofExcept hu (readKeys_onlyOidc payload)) ?_
  rintro keys u - - ⟨hkeys, rfl⟩
  have hfetched : FetchedKeys cfg w u.requests t.requests.length keys :=
    ⟨⟨j, hj, d, hpublished.mono htu.requests, payload, hanswered, hkeys⟩⟩
  -- until the clock is read, the new keys go by the date of the old ones
  have hcached : Inv cfg w { u with jwks := some keys } := by
    refine ⟨hu.discovery, fun keys' hkeys' => ?_, hu.stamp⟩
    cases hkeys'
    refine ⟨t.requests.length, hfetched, fun stamp hstamp => ?_⟩
    rw [hrequests] at hstamp
    obtain ⟨m, hm, hreading⟩ := ht.stamp stamp hstamp
    exact ⟨⟨d.jwksUri, "jwks", t.readings⟩, m, by simp [hrequests], hm.le, hreading⟩
  refine Sound.bind (Sound.modify hcached ⟨List.prefix_refl _, le_rfl⟩) ?_
  rintro - v hv - rfl
  refine Sound.bind (now_sound hv) ?_
  rintro n x hx - ⟨hreading, rfl⟩
  refine Sound.bind (Sound.modify ⟨hx.discovery, fun keys' hkeys' => ?_, fun stamp hstamp => ?_⟩
    ⟨List.prefix_refl _, le_rfl⟩) ?_
  · cases hkeys'
    refine ⟨t.requests.length, hfetched, fun stamp hstamp => ?_⟩
    cases hstamp
    exact ⟨⟨d.jwksUri, "jwks", t.readings⟩, u.readings, by simp [hrequests],
      by simp [hrequests], hreading⟩
  · cases hstamp
    exact ⟨u.readings, Nat.lt_succ_self _, hreading⟩
  · rintro - y hy - rfl
    exact Sound.pure hy ⟨rfl, t.requests.length, hst.requests.length_le, hfetched⟩

end Provenance

end Oidc

end VulnOpsHub
