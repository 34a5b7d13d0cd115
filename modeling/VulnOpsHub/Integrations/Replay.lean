import VulnOpsHub.Integrations.Isolation
import Mathlib.Data.Finset.Card

set_option autoImplicit false

/-! # Deliveries that are repeated

The queue delivers at least once, and the Wazuh poller lists everything again. A bridge recognizes a
payload by its record id and its digest, so a payload is ingested once as long as its record id is a
function of its content; that of a DefectDojo finding without an id is drawn at random. -/

namespace VulnOpsHub

/-! ## Runs -/

/-- A payload that is delivered to a bridge. -/
structure Delivery where
  bridge : Bridge
  env : CallEnv
  raw : Json

def Bridge.action : Bridge → String
  | .defectdojo => "evidence.defectdojo.ingested"
  | .wazuh => "evidence.wazuh.ingested"

def Bridge.eventType : Bridge → String
  | .defectdojo => "vulnops.evidence.defectdojo.ingested.v1"
  | .wazuh => "vulnops.evidence.wazuh.ingested.v1"

theorem Bridge.source_inj {b b' : Bridge} (h : b.source = b'.source) : b = b' := by
  cases b <;> cases b' <;> first | rfl | exact absurd h (by decide)

theorem Bridge.action_inj {b b' : Bridge} (h : b.action = b'.action) : b = b' := by
  cases b <;> cases b' <;> first | rfl | exact absurd h (by decide)

theorem Bridge.eventType_inj {b b' : Bridge} (h : b.eventType = b'.eventType) : b = b' := by
  cases b <;> cases b' <;> first | rfl | exact absurd h (by decide)

/-- One more element, which counts if it is new. -/
theorem length_dedup_concat {α : Type} [DecidableEq α] (xs : List α) (x : α) :
    (xs ++ [x]).dedup.length = xs.dedup.length + if x ∈ xs then 0 else 1 := by
  have hinsert : (xs ++ [x]).toFinset = insert x xs.toFinset := by
    ext y
    simp
  rw [← List.card_toFinset, ← List.card_toFinset, hinsert]
  by_cases hx : x ∈ xs
  · rw [Finset.insert_eq_self.2 (List.mem_toFinset.2 hx), if_pos hx, Nat.add_zero]
  · rw [Finset.card_insert_of_notMem (by simpa using hx), if_neg hx]

section Runs

variable [Python] [PythonDigits] [Driver] [Sha256]

/-- A delivery for an organization. -/
def Delivery.call (d : Delivery) (organizationId : String) (s : EvidenceStore) :
    Except PyError SourceSnapshot × EvidenceStore :=
  d.bridge.deliver d.env d.raw organizationId s

/-- A run of deliveries for one organization, each with its result. -/
inductive Deliveries (organizationId : String) (s₀ : EvidenceStore) :
    List (Delivery × Except PyError SourceSnapshot) → EvidenceStore → Prop
  | start : Deliveries organizationId s₀ [] s₀
  | next {log : List (Delivery × Except PyError SourceSnapshot)} {s : EvidenceStore}
      (run : Deliveries organizationId s₀ log s) (d : Delivery) :
      Deliveries organizationId s₀ (log ++ [(d, (d.call organizationId s).1)])
        (d.call organizationId s).2

omit [PythonDigits] [Driver] [Sha256] in
/-- The canonical payloads that a bridge has accepted. -/
def canonicalPayloads (b : Bridge) (log : List (Delivery × Except PyError SourceSnapshot)) :
    List String :=
  (log.filter fun x => x.1.bridge = b && x.2.toBool).map fun x => x.1.raw.dumps

/-- What a bridge has written: one row of each kind for each canonical payload it has accepted. -/
structure WrittenOnce (b : Bridge) (log : List (Delivery × Except PyError SourceSnapshot))
    (s₀ s : EvidenceStore) : Prop where
  snapshots : s.snapshots.rows.countP (fun r => r.source = b.source)
    = s₀.snapshots.rows.countP (fun r => r.source = b.source) + (canonicalPayloads b log).dedup.length
  auditEvents : s.auditEvents.rows.countP (fun r => r.action = b.action)
    = s₀.auditEvents.rows.countP (fun r => r.action = b.action)
      + (canonicalPayloads b log).dedup.length
  outboxEvents : s.outboxEvents.rows.countP (fun r => r.eventType = b.eventType)
    = s₀.outboxEvents.rows.countP (fun r => r.eventType = b.eventType)
      + (canonicalPayloads b log).dedup.length

/-- Deliveries of one canonical payload return one snapshot. -/
def SameSnapshots (log : List (Delivery × Except PyError SourceSnapshot)) : Prop :=
  ∀ x ∈ log, ∀ y ∈ log, ∀ snapshot snapshot', x.2 = .ok snapshot → y.2 = .ok snapshot' →
    x.1.bridge = y.1.bridge → x.1.raw.dumps = y.1.raw.dumps → snapshot = snapshot'

/-- A payload that has been accepted is accepted again, and its first snapshot is returned. -/
def ReturnsAgain (log : List (Delivery × Except PyError SourceSnapshot)) : Prop :=
  log.Pairwise fun x y => ∀ snapshot, x.2 = .ok snapshot → x.1.bridge = y.1.bridge →
    x.1.raw = y.1.raw → y.2 = .ok snapshot

/-! ## Keys -/

/-- The values a Wazuh record id is made of. -/
def eventKey (raw : Json) : List Json :=
  let agent := raw.field "agent"
  let package := (raw.field "package").members
  [(agent.field "id").or (agent.field "agent_id"),
    ((raw.field "vulnerability").field "id").or (raw.field "cve"),
    (package.lookup "name").getD (.str ""), (package.lookup "version").getD (.str "")]

/-- Both deliveries make the record id of the same values, and not of a random one. -/
def SameKey (d d' : Delivery) : Prop :=
  match d.bridge with
  | .defectdojo => (findingKey d.raw).truthy = true ∧ findingKey d.raw = findingKey d'.raw
  | .wazuh => eventKey d.raw = eventKey d'.raw

/-- A canonical payload that is delivered again comes with the same key. -/
def Repeatable (d d' : Delivery) : Prop :=
  d.bridge = d'.bridge → d.raw.dumps = d'.raw.dumps → SameKey d d'

/-! ### The same key makes the same record id -/

omit [PythonDigits] [Driver] [Sha256] in
/-- The package of an event has the name and the version of the payload. -/
theorem enrichWazuhPackage_lookup {package agent package' : Json} {result : PurlDerivationResult}
    (h : enrichWazuhPackage package agent = .ok (package', result)) {key : String}
    (hkey : key ≠ "purl") : package'.members.lookup key = package.members.lookup key := by
  simp only [enrichWazuhPackage, except_bind_eq_ok] at h
  obtain ⟨result', hderive, h⟩ := h
  simp only [derivePurlFromWazuhPackage, except_bind_eq_ok] at hderive
  obtain ⟨existing, hget, -⟩ := hderive
  have hobj : ∃ members, package = .obj members := by
    cases package with
    | obj members => exact ⟨members, rfl⟩
    | _ => cases hget
  obtain ⟨rfl, rfl⟩ := Prod.mk.inj (Except.ok.inj h)
  split
  · exact Json.lookup_withMember hobj hkey
  · rfl

omit [PythonDigits] [Driver] [Sha256] in
/-- The record id of an event is made of its key. -/
theorem readWazuhEvent_recordId {raw : Json} {event : WazuhEvent}
    (h : readWazuhEvent raw = .ok event) : ∃ agent cve name version,
      eventKey raw = [agent, cve, name, version] ∧ event.recordId =
        pyStr (agent.or (.str "unknown")) ++ ":" ++ pyStr (cve.or (.str "unknown")) ++ ":"
          ++ pyStr name ++ ":" ++ pyStr version := by
  simp only [readWazuhEvent, except_bind_eq_ok] at h
  obtain ⟨agent, hagent, packageRaw, hpackage, ⟨package, derivation⟩, henrich, vulnerability,
    hvulnerability, agentKey, hagentKey, vulnerabilityId, hvulnerabilityId, h⟩ := h
  refine ⟨_, _, _, _, rfl, ?_⟩
  obtain rfl := Except.ok.inj h
  obtain ⟨hagentField, rfl⟩ := Json.getOr_field hagent hagentKey
  obtain ⟨hvulnerabilityField, rfl⟩ := Json.getOr_field hvulnerability hvulnerabilityId
  have hname := enrichWazuhPackage_lookup henrich (show "name" ≠ "purl" by decide)
  have hversion := enrichWazuhPackage_lookup henrich (show "version" ≠ "purl" by decide)
  rw [Json.getOr_members hpackage] at hname hversion
  simp only [WazuhEvent.recordId, WazuhEvent.packageField, hname, hversion, hagentField,
    hvulnerabilityField]

omit [Sha256] in
theorem Bridge.record_eq {b : Bridge} {env : CallEnv} {raw : Json} {organizationId : String}
    {r : EvidenceRecord} (h : b.record env raw organizationId = .ok r) :
    r.source = b.source ∧ r.raw = raw ∧ r.action = b.action ∧ r.eventType = b.eventType := by
  rcases Bridge.record_cases h with ⟨rfl, -, rfl⟩ | ⟨rfl, event, -, rfl⟩
  · exact ⟨rfl, rfl, rfl, rfl⟩
  · exact ⟨rfl, rfl, rfl, rfl⟩

omit [Sha256] in
theorem SameKey.recordId_eq {d d' : Delivery} {organizationId : String} {r r' : EvidenceRecord}
    (h : SameKey d d') (hbridge : d.bridge = d'.bridge)
    (hr : d.bridge.record d.env d.raw organizationId = .ok r)
    (hr' : d'.bridge.record d'.env d'.raw organizationId = .ok r') :
    r.sourceRecordId = r'.sourceRecordId := by
  rcases Bridge.record_cases hr with ⟨hb, -, rfl⟩ | ⟨hb, event, hread, rfl⟩ <;>
    rcases Bridge.record_cases hr' with ⟨hb', -, rfl⟩ | ⟨hb', event', hread', rfl⟩
  · simp only [SameKey, hb] at h
    have htruthy' : (findingKey d'.raw).truthy = true := h.2 ▸ h.1
    simp [findingRecord, findingRecordId, Json.or, htruthy', h.2]
  · simp [hbridge, hb'] at hb
  · simp [hbridge, hb'] at hb
  · simp only [SameKey, hb] at h
    obtain ⟨agent, cve, name, version, hkey, hrecord⟩ := readWazuhEvent_recordId hread
    obtain ⟨agent', cve', name', version', hkey', hrecord'⟩ := readWazuhEvent_recordId hread'
    rw [h, hkey'] at hkey
    cases hkey
    exact hrecord.trans hrecord'.symm

theorem Repeatable.key_eq {d d' : Delivery} {organizationId : String} {r r' : EvidenceRecord}
    (h : Repeatable d d') (hbridge : d.bridge = d'.bridge) (hcanonical : d.raw.dumps = d'.raw.dumps)
    (hr : d.bridge.record d.env d.raw organizationId = .ok r)
    (hr' : d'.bridge.record d'.env d'.raw organizationId = .ok r') : r.key = r'.key := by
  obtain ⟨hsource, hraw, -, -⟩ := Bridge.record_eq hr
  obtain ⟨hsource', hraw', -, -⟩ := Bridge.record_eq hr'
  have hid := (h hbridge hcanonical).recordId_eq hbridge hr hr'
  have hdigest : r.digest = r'.digest := by
    simp only [EvidenceRecord.digest, canonicalDigest, canonicalBytes, hraw, hraw', hcanonical]
  simp only [EvidenceRecord.key, hid, hdigest, hsource, hsource', hbridge]

/-! ## What a run has written -/

omit [PythonDigits] [Driver] [Sha256] in
theorem canonicalPayloads_concat (b : Bridge)
    (log : List (Delivery × Except PyError SourceSnapshot)) (x : Delivery × Except PyError SourceSnapshot) :
    canonicalPayloads b (log ++ [x]) = canonicalPayloads b log
      ++ if x.1.bridge = b && x.2.toBool then [x.1.raw.dumps] else [] := by
  simp only [canonicalPayloads, List.filter_append, List.map_append, List.append_cancel_left_eq]
  by_cases hx : (x.1.bridge = b && x.2.toBool) = true
  · simp [hx]
  · simp [hx]

/-- Every row comes from a delivery that has been accepted, and the rows are as many as the distinct
    payloads. -/
structure ReplayInv (organizationId : String) (s₀ s : EvidenceStore)
    (log : List (Delivery × Except PyError SourceSnapshot)) (w : List EvidenceRows) : Prop where
  written : Written s₀ w s
  logged : ∀ rows ∈ w, ∃ x ∈ log, x.2 = .ok rows.snapshot ∧ ∃ r,
    x.1.bridge.record x.1.env x.1.raw organizationId = .ok r ∧ r.Describes x.1.env organizationId rows
  accepted : ∀ x ∈ log, ∀ snapshot, x.2 = .ok snapshot → snapshot ∈ s.snapshots.rows ∧ ∃ r,
    x.1.bridge.record x.1.env x.1.raw organizationId = .ok r ∧ NaturalKey.natural snapshot = r.key
  once : ∀ b : Bridge, w.countP (fun rows => rows.snapshot.source = b.source)
    = (canonicalPayloads b log).dedup.length
  same : SameSnapshots log

section Step

variable {organizationId : String} {s₀ s : EvidenceStore} {w : List EvidenceRows}
  {log : List (Delivery × Except PyError SourceSnapshot)} {d : Delivery} {r : EvidenceRecord}

/-- What the next delivery has to do with those before it and with the rows of the start. -/
structure DeliveredAfter (log : List (Delivery × Except PyError SourceSnapshot)) (s₀ : EvidenceStore)
    (d : Delivery) : Prop where
  repeatable : ∀ x ∈ log, Repeatable x.1 d
  collisionFree : ∀ x ∈ log, canonicalDigest x.1.raw = canonicalDigest d.raw →
    x.1.raw.dumps = d.raw.dumps
  first : ∀ row ∈ s₀.snapshots.rows, row.source = d.bridge.source →
    row.contentSha256 ≠ canonicalDigest d.raw

/-- A snapshot that is found was made of the payload. -/
theorem ReplayInv.mem_of_found (hinv : ReplayInv organizationId s₀ s log w) (hd : DeliveredAfter log s₀ d)
    (hr : d.bridge.record d.env d.raw organizationId = .ok r) {snapshot : SourceSnapshot}
    (hfound : s.snapshots.byNatural r.key = some snapshot) :
    d.raw.dumps ∈ canonicalPayloads d.bridge log := by
  obtain ⟨hsource, hraw, -, -⟩ := Bridge.record_eq hr
  obtain ⟨hmem, hkey⟩ := UniqueTable.byNatural_eq_some.1 hfound
  rw [hinv.written.snapshots, List.mem_append] at hmem
  rcases hmem with hstart | hw
  · have hrow : snapshot.source = d.bridge.source := (congrArg SnapshotKey.source hkey).trans hsource
    have hdigest : snapshot.contentSha256 = canonicalDigest d.raw :=
      (congrArg SnapshotKey.contentSha256 hkey).trans (by rw [EvidenceRecord.key, ← hraw]; rfl)
    exact absurd hdigest (hd.first snapshot hstart hrow)
  · obtain ⟨rows, hrows, rfl⟩ := List.mem_map.1 hw
    obtain ⟨x, hx, hxok, r', hr', hdescribes⟩ := hinv.logged rows hrows
    obtain ⟨hsource', hraw', -, -⟩ := Bridge.record_eq hr'
    have hkeys : r'.key = r.key := hdescribes.natural_eq.symm.trans hkey
    have hbridge : x.1.bridge = d.bridge := by
      refine Bridge.source_inj ?_
      rw [← hsource', ← hsource]
      exact congrArg SnapshotKey.source hkeys
    have hcanonical : x.1.raw.dumps = d.raw.dumps := by
      refine hd.collisionFree x hx ?_
      rw [← hraw', ← hraw]
      exact congrArg SnapshotKey.contentSha256 hkeys
    refine List.mem_map.2 ⟨x, List.mem_filter.2 ⟨hx, ?_⟩, hcanonical⟩
    simp [hbridge, hxok, Except.toBool]

/-- And the snapshot of a payload that has been accepted is found. -/
theorem ReplayInv.found_of_accepted (hinv : ReplayInv organizationId s₀ s log w)
    (hd : DeliveredAfter log s₀ d) (hr : d.bridge.record d.env d.raw organizationId = .ok r)
    {x : Delivery × Except PyError SourceSnapshot} (hx : x ∈ log) {snapshot : SourceSnapshot}
    (hxok : x.2 = .ok snapshot) (hbridge : x.1.bridge = d.bridge)
    (hcanonical : x.1.raw.dumps = d.raw.dumps) : s.snapshots.byNatural r.key = some snapshot := by
  obtain ⟨hmem, r', hr', hkey⟩ := hinv.accepted x hx snapshot hxok
  have hkeys := (hd.repeatable x hx).key_eq hbridge hcanonical hr' hr
  exact UniqueTable.byNatural_eq_some.2 ⟨hmem, hkey.trans hkeys⟩

/-- What one more entry of the log needs. -/
theorem ReplayInv.concat (hinv : ReplayInv organizationId s₀ s log w) {t : EvidenceStore}
    {v : List EvidenceRows} (hw : Written s v t) (x : Delivery × Except PyError SourceSnapshot)
    (hlogged : ∀ rows ∈ v, x.2 = .ok rows.snapshot ∧ ∃ r,
      x.1.bridge.record x.1.env x.1.raw organizationId = .ok r ∧
        r.Describes x.1.env organizationId rows)
    (haccepted : ∀ snapshot, x.2 = .ok snapshot → snapshot ∈ t.snapshots.rows ∧ ∃ r,
      x.1.bridge.record x.1.env x.1.raw organizationId = .ok r ∧ NaturalKey.natural snapshot = r.key)
    (honce : ∀ b : Bridge, (canonicalPayloads b (log ++ [x])).dedup.length
      = (canonicalPayloads b log).dedup.length
        + v.countP (fun rows => rows.snapshot.source = b.source))
    (hsame : ∀ y ∈ log, ∀ snapshot snapshot', y.2 = .ok snapshot → x.2 = .ok snapshot' →
      y.1.bridge = x.1.bridge → y.1.raw.dumps = x.1.raw.dumps → snapshot = snapshot') :
    ReplayInv organizationId s₀ t (log ++ [x]) (w ++ v) := by
  refine ⟨hinv.written.trans hw, fun rows hrows => ?_, fun y hy snapshot hok => ?_, fun b => ?_,
    fun y hy z hz snapshot snapshot' hyok hzok hbridge hcanonical => ?_⟩
  · rcases List.mem_append.1 hrows with hrows | hrows
    · obtain ⟨y, hy, hrest⟩ := hinv.logged rows hrows
      exact ⟨y, List.mem_append_left _ hy, hrest⟩
    · exact ⟨x, List.mem_append_right _ (List.mem_singleton.2 rfl), hlogged rows hrows⟩
  · rcases List.mem_append.1 hy with hy | hy
    · obtain ⟨hmem, hrest⟩ := hinv.accepted y hy snapshot hok
      refine ⟨?_, hrest⟩
      rw [hw.snapshots]
      exact List.mem_append_left _ hmem
    · rw [List.mem_singleton.1 hy] at hok ⊢
      exact haccepted snapshot hok
  · rw [List.countP_append, hinv.once b, honce b]
  · rcases List.mem_append.1 hy with hy | hy <;> rcases List.mem_append.1 hz with hz | hz
    · exact hinv.same y hy z hz snapshot snapshot' hyok hzok hbridge hcanonical
    · rw [List.mem_singleton.1 hz] at hzok hbridge hcanonical
      exact hsame y hy snapshot snapshot' hyok hzok hbridge hcanonical
    · rw [List.mem_singleton.1 hy] at hyok hbridge hcanonical
      exact (hsame z hz snapshot' snapshot hzok hyok hbridge.symm hcanonical.symm).symm
    · rw [List.mem_singleton.1 hy] at hyok
      rw [List.mem_singleton.1 hz] at hzok
      exact Except.ok.inj (hyok.symm.trans hzok)

/-- **One delivery.** -/
theorem ReplayInv.next (hinv : ReplayInv organizationId s₀ s log w) (hd : DeliveredAfter log s₀ d) :
    ∃ w', ReplayInv organizationId s₀ (d.call organizationId s).2
      (log ++ [(d, (d.call organizationId s).1)]) w' := by
  rcases d.bridge.deliver_cases d.env d.raw organizationId s with ⟨e, he, hw⟩ |
    ⟨r, snapshot, hr, hok, hend⟩
  · -- nothing is accepted
    have hcall : (d.call organizationId s).1 = .error e := he
    refine ⟨_, hinv.concat hw _ (by simp) (fun snapshot hok => ?_) (fun b => ?_)
      (fun y hy snapshot snapshot' hyok hok => ?_)⟩
    · rw [hcall] at hok
      cases hok
    · rw [canonicalPayloads_concat, hcall]
      simp [Except.toBool]
    · rw [hcall] at hok
      cases hok
  · have hcall : (d.call organizationId s).1 = .ok snapshot := hok
    have hpayloads : ∀ b : Bridge,
        canonicalPayloads b (log ++ [(d, (d.call organizationId s).1)]) = canonicalPayloads b log
          ++ if d.bridge = b then [d.raw.dumps] else [] := by
      intro b
      rw [canonicalPayloads_concat, hcall]
      simp [Except.toBool]
    rcases hend with ⟨hfound, ht⟩ | ⟨hnone, rows, hrows, rfl, hw⟩
    · -- the snapshot of an earlier delivery
      have hmem := hinv.mem_of_found hd hr hfound
      have ht : (d.call organizationId s).2 = s := ht
      have hw : Written s [] (d.call organizationId s).2 := by
        rw [ht]
        exact Written.refl s
      obtain ⟨hrow, hkey⟩ := UniqueTable.byNatural_eq_some.1 hfound
      refine ⟨_, hinv.concat hw _ (by simp) (fun snapshot' hok' => ?_)
        (fun b => ?_) (fun y hy snapshot' snapshot'' hyok hok' hbridge hcanonical => ?_)⟩
      · obtain rfl := Except.ok.inj (hcall.symm.trans hok')
        exact ⟨ht.symm ▸ hrow, r, hr, hkey⟩
      · rw [hpayloads b]
        by_cases hb : d.bridge = b
        · subst hb
          simp [length_dedup_concat, hmem]
        · simp [hb]
      · have hfound' := hinv.found_of_accepted hd hr hy hyok hbridge hcanonical
        rw [hfound] at hfound'
        exact (Option.some.inj hfound').symm.trans (Except.ok.inj (hcall.symm.trans hok'))
    · -- a new one
      have hmem : d.raw.dumps ∉ canonicalPayloads d.bridge log := by
        intro hmem
        obtain ⟨x, hx, hcanonical⟩ := List.mem_map.1 hmem
        obtain ⟨hx, hfilter⟩ := List.mem_filter.1 hx
        simp only [Bool.and_eq_true, decide_eq_true_eq] at hfilter
        cases hxok : x.2 with
        | error e => simp [hxok, Except.toBool] at hfilter
        | ok snapshot =>
            have hfound := hinv.found_of_accepted hd hr hx hxok hfilter.1 hcanonical
            rw [hnone] at hfound
            cases hfound
      have hsource : rows.snapshot.source = d.bridge.source :=
        (congrArg SnapshotKey.source hrows.natural_eq).trans (Bridge.record_eq hr).1
      refine ⟨_, hinv.concat hw _ (fun rows' hrows' => ?_) (fun snapshot' hok' => ?_) (fun b => ?_)
        (fun y hy snapshot' snapshot'' hyok hok' hbridge hcanonical => ?_)⟩
      · rw [List.mem_singleton.1 hrows']
        exact ⟨hcall, r, hr, hrows⟩
      · obtain rfl := Except.ok.inj (hcall.symm.trans hok')
        refine ⟨?_, r, hr, hrows.natural_eq⟩
        rw [hw.snapshots]
        simp
      · rw [hpayloads b]
        by_cases hb : d.bridge = b
        · subst hb
          simp [length_dedup_concat, hmem, hsource]
        · have hne : ¬ d.bridge.source = b.source := fun h => hb (Bridge.source_inj h)
          simp [hb, hsource, hne]
      · have hfound := hinv.found_of_accepted hd hr hy hyok hbridge hcanonical
        rw [hnone] at hfound
        cases hfound

end Step

/-! ### Whole runs -/

/-- Digests of different payloads are different. -/
def CollisionFree (ds : List Delivery) : Prop :=
  ∀ d ∈ ds, ∀ d' ∈ ds, canonicalDigest d.raw = canonicalDigest d'.raw → d.raw.dumps = d'.raw.dumps

/-- The payloads have not been ingested before. -/
def FirstDelivered (s₀ : EvidenceStore) (ds : List Delivery) : Prop :=
  ∀ d ∈ ds, ∀ row ∈ s₀.snapshots.rows, row.source = d.bridge.source →
    row.contentSha256 ≠ canonicalDigest d.raw

variable {organizationId : String} {s₀ s : EvidenceStore}
  {log : List (Delivery × Except PyError SourceSnapshot)}

omit [PythonDigits] [Driver] in
/-- What the hypotheses on a run say of the deliveries before the last one, and of that one. -/
theorem deliveredAfter_of_last {d : Delivery} {answer : Except PyError SourceSnapshot}
    (hrepeatable : ((log ++ [(d, answer)]).map Prod.fst).Pairwise Repeatable)
    (hcollision : CollisionFree ((log ++ [(d, answer)]).map Prod.fst))
    (hfirst : FirstDelivered s₀ ((log ++ [(d, answer)]).map Prod.fst)) :
    (log.map Prod.fst).Pairwise Repeatable ∧ DeliveredAfter log s₀ d ∧
      CollisionFree (log.map Prod.fst) ∧ FirstDelivered s₀ (log.map Prod.fst) := by
  rw [List.map_append, List.map_singleton] at hrepeatable hcollision hfirst
  obtain ⟨hbefore, -, hlast⟩ := List.pairwise_append.1 hrepeatable
  have hd : d ∈ log.map Prod.fst ++ [d] := List.mem_append_right _ (List.mem_singleton.2 rfl)
  refine ⟨hbefore, ⟨fun x hx => ?_, fun x hx => ?_, hfirst d hd⟩,
    fun x hx y hy => hcollision x (List.mem_append_left _ hx) y (List.mem_append_left _ hy),
    fun x hx => hfirst x (List.mem_append_left _ hx)⟩
  · exact hlast _ (List.mem_map_of_mem hx) _ (List.mem_singleton.2 rfl)
  · exact hcollision _ (List.mem_append_left _ (List.mem_map_of_mem hx)) d hd

theorem Deliveries.inv (hrun : Deliveries organizationId s₀ log s)
    (hrepeatable : (log.map Prod.fst).Pairwise Repeatable)
    (hcollision : CollisionFree (log.map Prod.fst)) (hfirst : FirstDelivered s₀ (log.map Prod.fst)) :
    ∃ w, ReplayInv organizationId s₀ s log w := by
  induction hrun with
  | start =>
      refine ⟨[], Written.refl s₀, by simp, by simp, fun b => rfl, ?_⟩
      intro x hx
      cases hx
  | @next log s run d ih =>
      obtain ⟨hbefore, hd, hcollision', hfirst'⟩ := deliveredAfter_of_last hrepeatable hcollision hfirst
      obtain ⟨w, hinv⟩ := ih hbefore hcollision' hfirst'
      exact hinv.next hd

/-- What a bridge has written, by the rows of its commits. -/
theorem ReplayInv.writtenOnce {w : List EvidenceRows}
    (hinv : ReplayInv organizationId s₀ s log w) (b : Bridge) : WrittenOnce b log s₀ s := by
  have hrows : ∀ rows ∈ w, ∃ b' : Bridge, rows.snapshot.source = b'.source ∧
      rows.audit.action = b'.action ∧ rows.outbox.eventType = b'.eventType := by
    intro rows hmem
    obtain ⟨x, -, -, r, hr, hdescribes⟩ := hinv.logged rows hmem
    obtain ⟨hsource, -, haction, htype⟩ := Bridge.record_eq hr
    exact ⟨x.1.bridge, (congrArg SnapshotKey.source hdescribes.natural_eq).trans hsource,
      hdescribes.action_eq.trans haction, hdescribes.eventType_eq.trans htype⟩
  have haudits : w.countP (fun rows => rows.audit.action = b.action)
      = w.countP (fun rows => rows.snapshot.source = b.source) := by
    refine List.countP_congr fun rows hmem => ?_
    obtain ⟨b', hsource, haction, -⟩ := hrows rows hmem
    simp only [decide_eq_true_eq, hsource, haction]
    exact ⟨fun h => by rw [Bridge.action_inj h], fun h => by rw [Bridge.source_inj h]⟩
  have houtbox : w.countP (fun rows => rows.outbox.eventType = b.eventType)
      = w.countP (fun rows => rows.snapshot.source = b.source) := by
    refine List.countP_congr fun rows hmem => ?_
    obtain ⟨b', hsource, -, htype⟩ := hrows rows hmem
    simp only [decide_eq_true_eq, hsource, htype]
    exact ⟨fun h => by rw [Bridge.eventType_inj h], fun h => by rw [Bridge.source_inj h]⟩
  refine ⟨?_, ?_, ?_⟩
  · rw [hinv.written.snapshots, List.countP_append, List.countP_map, ← hinv.once b]
    rfl
  · rw [hinv.written.auditEvents, List.countP_append, List.countP_map, ← hinv.once b, ← haudits]
    rfl
  · rw [hinv.written.outboxEvents, List.countP_append, List.countP_map, ← hinv.once b, ← houtbox]
    rfl

theorem Deliveries.aliases (hrun : Deliveries organizationId s₀ log s) :
    s.aliases = s₀.aliases := by
  induction hrun with
  | start => rfl
  | next _ d ih => exact (d.bridge.deliver_aliases d.env d.raw organizationId _).trans ih

/-- Deliveries that have been accepted have a record and a mapping, at any time of the run. -/
theorem Deliveries.derived (hrun : Deliveries organizationId s₀ log s) :
    ∀ x ∈ log, ∀ snapshot, x.2 = .ok snapshot → ∃ r d,
      x.1.bridge.record x.1.env x.1.raw organizationId = .ok r ∧ r.derived s₀ = .ok d := by
  induction hrun with
  | start => intro x hx; cases hx
  | @next log s run d ih =>
      intro x hx snapshot hok
      rcases List.mem_append.1 hx with hx | hx
      · exact ih x hx snapshot hok
      · rw [List.mem_singleton.1 hx] at hok ⊢
        obtain ⟨r, mapped, hr, hderived⟩ := Bridge.derived_of_accepted hok
        exact ⟨r, mapped, hr, (r.derived_congr_aliases run.aliases).symm.trans hderived⟩

/-- A payload that comes again finds the snapshot of its first delivery. -/
theorem Deliveries.returnsAgain (hrun : Deliveries organizationId s₀ log s)
    (hrepeatable : (log.map Prod.fst).Pairwise Repeatable)
    (hcollision : CollisionFree (log.map Prod.fst)) (hfirst : FirstDelivered s₀ (log.map Prod.fst)) :
    ReturnsAgain log := by
  induction hrun with
  | start => exact List.Pairwise.nil
  | @next log s run d ih =>
      obtain ⟨hbefore, hd, hcollision', hfirst'⟩ := deliveredAfter_of_last hrepeatable hcollision hfirst
      refine List.pairwise_append.2 ⟨ih hbefore hcollision' hfirst', List.pairwise_singleton _ _, ?_⟩
      intro x hx y hy snapshot hok hbridge hraw
      rw [List.mem_singleton.1 hy] at hbridge hraw ⊢
      obtain ⟨w, hinv⟩ := run.inv hbefore hcollision' hfirst'
      obtain ⟨r, mapped, hr, hderived⟩ := run.derived x hx snapshot hok
      rw [hbridge, hraw] at hr
      -- no alias has been written since, so what was mapped then is mapped now
      obtain ⟨r', hr', hsame⟩ := Bridge.record_again hr d.env
      have hmapped : r'.derived s = .ok mapped := by
        rw [hsame, r.derived_congr_aliases run.aliases, hderived]
      exact Bridge.deliver_of_found hr' hmapped
        (hinv.found_of_accepted hd hr' hx hok hbridge (congrArg Json.dumps hraw))

/-- **Repeated deliveries.** If a canonical payload that is delivered again comes with the same key,
    a run writes each payload it accepts once, has one snapshot for it, and returns that snapshot
    whenever the payload comes again. -/
theorem deliveries_writtenOnce (hrun : Deliveries organizationId s₀ log s)
    (hrepeatable : (log.map Prod.fst).Pairwise Repeatable)
    (hcollision : CollisionFree (log.map Prod.fst)) (hfirst : FirstDelivered s₀ (log.map Prod.fst)) :
    (∀ b, WrittenOnce b log s₀ s) ∧ SameSnapshots log ∧ ReturnsAgain log := by
  obtain ⟨w, hinv⟩ := hrun.inv hrepeatable hcollision hfirst
  exact ⟨hinv.writtenOnce, hinv.same, hrun.returnsAgain hrepeatable hcollision hfirst⟩

end Runs

/-! ## A finding that is delivered twice -/

def sampleDelivered (raw : Json) : Except PyError SourceSnapshot × EvidenceStore :=
  sampleDeliver 1 raw "acme" .empty

def sampleRedelivered (raw : Json) : Except PyError SourceSnapshot × EvidenceStore :=
  sampleDeliver 2 raw "acme" (sampleDelivered raw).2

def sampleTwice (raw : Json) : List (Delivery × Except PyError SourceSnapshot) :=
  [(⟨.defectdojo, sampleEnv 1, raw⟩, (sampleDelivered raw).1),
    (⟨.defectdojo, sampleEnv 2, raw⟩, (sampleRedelivered raw).1)]

theorem sampleTwice_run (raw : Json) : @Deliveries asciiPython asciiDigitTable sqliteDriver findingDigests
    "acme" .empty (sampleTwice raw) (sampleRedelivered raw).2 :=
  @Deliveries.next asciiPython asciiDigitTable sqliteDriver findingDigests _ _ _ _
    (@Deliveries.next asciiPython asciiDigitTable sqliteDriver findingDigests _ _ _ _
      (@Deliveries.start asciiPython asciiDigitTable sqliteDriver findingDigests _ _)
      ⟨.defectdojo, sampleEnv 1, raw⟩) ⟨.defectdojo, sampleEnv 2, raw⟩

/-- A finding without an id. -/
def sampleAnonymousRaw : Json :=
  .obj [("cve", .str "CVE-2024-0001"), ("component_name", .str "openssl")]

/-- Both deliveries of a finding without an id are ingested. -/
theorem deliveries_writtenTwice :
    @Deliveries asciiPython asciiDigitTable sqliteDriver findingDigests "acme" .empty
      (sampleTwice sampleAnonymousRaw) (sampleRedelivered sampleAnonymousRaw).2 ∧
    (sampleTwice sampleAnonymousRaw).all (fun x => x.2.toBool) ∧
    ¬ @WrittenOnce asciiPython .defectdojo (sampleTwice sampleAnonymousRaw) .empty
      (sampleRedelivered sampleAnonymousRaw).2 := by
  refine ⟨sampleTwice_run _, by decide +kernel, fun h => ?_⟩
  have hrows : (sampleRedelivered sampleAnonymousRaw).2.snapshots.rows.countP
      (fun r => r.source = Bridge.source .defectdojo) = 2 := by
    decide +kernel
  have hpayloads : (@canonicalPayloads asciiPython .defectdojo
      (sampleTwice sampleAnonymousRaw)).dedup.length = 1 := by
    decide +kernel
  have hcount := @WrittenOnce.snapshots asciiPython _ _ _ _ h
  rw [hrows, hpayloads] at hcount
  exact absurd hcount (by decide)

/-- A finding with an id is ingested once. -/
theorem deliveries_writtenOnce_finding :
    (sampleTwice (sampleFindingRaw "7")).all (fun x => x.2.toBool) ∧
    (∀ b, @WrittenOnce asciiPython b (sampleTwice (sampleFindingRaw "7")) .empty
      (sampleRedelivered (sampleFindingRaw "7")).2) ∧
    @SameSnapshots asciiPython (sampleTwice (sampleFindingRaw "7")) ∧
    ReturnsAgain (sampleTwice (sampleFindingRaw "7")) := by
  have hraw : ∀ d ∈ (sampleTwice (sampleFindingRaw "7")).map Prod.fst, d.raw = sampleFindingRaw "7" := by
    intro d hd
    simp only [sampleTwice, List.map_cons, List.map_nil, List.mem_cons, List.not_mem_nil,
      or_false] at hd
    rcases hd with rfl | rfl <;> rfl
  refine ⟨by decide +kernel, @deliveries_writtenOnce asciiPython asciiDigitTable sqliteDriver
    findingDigests "acme" .empty _ _ (sampleTwice_run _) ?_ ?_ ?_⟩
  · refine List.Pairwise.cons (fun d hd _ _ => ?_) (List.pairwise_singleton _ _)
    exact ⟨rfl, congrArg findingKey (hraw d (List.mem_cons_of_mem _ hd)).symm⟩
  · intro d hd d' hd' _
    rw [hraw d hd, hraw d' hd']
  · intro d hd row hrow
    cases hrow

end VulnOpsHub
