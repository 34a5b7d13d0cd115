import VulnOpsHub.Intelligence.Osv

set_option autoImplicit false

/-! # A batch of OSV queries

What `lookup_batch` makes of the replies to its requests: each component keeps its slot, whatever
becomes of its own request or of the others, and the adapter's health tells whether one failed. -/

namespace VulnOpsHub

/-! ## Replies -/

/-- An answer whose vulnerabilities have ids. -/
structure IdentifiedResult extends OsvResult where
  ids : ∀ vuln ∈ vulns.getD [], (nonEmpty vuln.id).isSome

/-- The body of a response; `json()` raises `error` where it is no JSON. -/
inductive OsvBody where
  | notJson (error : PyError)
  | notObject
  | answer (result : IdentifiedResult)

/-- What becomes of one request: `post` raises, or there is a response, for which `raise_for_status`
    raises `statusError` unless its status is a success. -/
inductive OsvReply where
  | failed (error : PyError)
  | response (status : ℕ) (statusError : PyError) (body : OsvBody)

/-- The payload that is put into the slot, or what was raised before. -/
def OsvReply.outcome : OsvReply → Except PyError (Option OsvResult)
  | .failed e => .error e
  | .response status statusError body =>
      if 200 ≤ status ∧ status < 300 then
        match body with
        | .notJson e => .error e
        | .notObject => .ok none
        | .answer result => .ok (some result.toOsvResult)
      else .error statusError

theorem OsvReply.ids {reply : OsvReply} {payload : Option OsvResult}
    (h : reply.outcome = .ok payload) :
    ∀ vuln ∈ (payload.bind (·.vulns)).getD [], (nonEmpty vuln.id).isSome := by
  cases reply with
  | failed e => cases h
  | response status statusError body =>
      simp only [OsvReply.outcome] at h
      split_ifs at h
      cases body with
      | notJson e => cases h
      | notObject =>
          cases h
          simp
      | answer result =>
          cases h
          exact result.ids

/-! ## Health -/

inductive Freshness where
  | fresh
  | stale
  | degraded
  | unknown
deriving DecidableEq, Repr

def Freshness.value : Freshness → String
  | .fresh => "fresh"
  | .stale => "stale"
  | .degraded => "degraded"
  | .unknown => "unknown"

structure SourceHealth where
  source : String
  lastSuccessAt : Option Datetime
  lastCheckedAt : Option Datetime
  freshness : Freshness
  cursor : Option String := none
  error : Option String := none
  enabled : Bool := true
deriving DecidableEq, Repr

namespace OSVAdapter

/-- The health after a failed request; `text` is the text of what was raised. -/
def failedHealth (now : Datetime) (text : String) (health : SourceHealth) : SourceHealth :=
  { health with
    lastCheckedAt := some now
    freshness := .stale
    error := some (String.ofList (text.toList.take 512)) }

/-- The health after a batch in which nothing failed. -/
def freshHealth (now : Datetime) (health : SourceHealth) : SourceHealth :=
  { health with
    lastSuccessAt := some now
    lastCheckedAt := some now
    freshness := .fresh }

variable (answer : ℕ → OsvRequest → Except PyError (Option OsvResult))

/-- What the request for a component raised, if it was sent. -/
def raised (component : OsvComponent × ℕ) : Option PyError :=
  match componentQuery component.1 with
  | none => none
  | some request =>
      match answer component.2 request with
      | .ok _ => none
      | .error e => some e

/-- A request is sent for the component. -/
def sends (component : OsvComponent × ℕ) : Bool := (componentQuery component.1).isSome

/-- The health after the loop over the components. -/
def loopHealth (now : Datetime) (errorText : PyError → String) (components : List OsvComponent)
    (health : SourceHealth) : SourceHealth :=
  (components.zipIdx.filterMap (raised answer)).foldl
    (fun health e => failedHealth now (errorText e) health) health

/-- `lookup_batch`, with the health of the adapter afterwards. -/
def lookupBatchHealth (now : Datetime) (uuid : ℕ → ℕ → String) (errorText : PyError → String)
    (components : List OsvComponent) (health : SourceHealth) :
    Except PyError (List (AdvisoryRecord OsvAdvisory)) × SourceHealth :=
  let health := loopHealth answer now errorText components health
  match lookupBatch answer now uuid components with
  | .error e => (.error e, health)
  | .ok records =>
      (.ok records, if (queryAll answer components).failures = 0 then freshHealth now health
        else health)

/-! ## The loop -/

variable {answer} {components : List OsvComponent}

/-- The health is what the last raised left. -/
theorem freshness_loopHealth (answer : ℕ → OsvRequest → Except PyError (Option OsvResult))
    (now : Datetime) (errorText : PyError → String) (components : List OsvComponent)
    (health : SourceHealth) : (loopHealth answer now errorText components health).freshness =
      if components.zipIdx.filterMap (raised answer) = [] then health.freshness else .stale := by
  unfold loopHealth
  induction components.zipIdx.filterMap (raised answer) using List.reverseRecOn with
  | nil => rfl
  | append_singleton es e ih => simp [List.foldl_append, failedHealth]

/-- One round of the loop. -/
theorem query_counts (b : Batch) (x : OsvComponent × ℕ) :
    (Batch.query answer b x).attempted = b.attempted + (if sends x then 1 else 0) ∧
      (Batch.query answer b x).failures = b.failures + (raised answer x).toList.length ∧
      (Batch.query answer b x).lastError = (raised answer x).or b.lastError := by
  unfold Batch.query sends raised
  cases componentQuery x.1 with
  | none => simp
  | some request =>
      dsimp only
      cases answer x.2 request with
      | ok payload => simp
      | error e => simp

/-- The requests of a batch, and those that failed. -/
theorem queryAll_counts (answer : ℕ → OsvRequest → Except PyError (Option OsvResult))
    (components : List OsvComponent) :
    (queryAll answer components).attempted = components.zipIdx.countP sends ∧
      (queryAll answer components).failures
        = (components.zipIdx.filterMap (raised answer)).length ∧
      (queryAll answer components).lastError
        = (components.zipIdx.filterMap (raised answer)).getLast? := by
  have hfold : ∀ (xs : List (OsvComponent × ℕ)) (b : Batch),
      (xs.foldl (Batch.query answer) b).attempted = b.attempted + xs.countP sends ∧
      (xs.foldl (Batch.query answer) b).failures
        = b.failures + (xs.filterMap (raised answer)).length ∧
      (xs.foldl (Batch.query answer) b).lastError
        = ((xs.filterMap (raised answer)).getLast?).or b.lastError := by
    intro xs
    induction xs with
    | nil => simp
    | cons x xs ih =>
        intro b
        obtain ⟨hattempted, hfailures, hlast⟩ := ih (Batch.query answer b x)
        obtain ⟨hattempted', hfailures', hlast'⟩ := @query_counts answer b x
        rw [List.foldl_cons, hattempted, hfailures, hlast, hattempted', hfailures', hlast',
          List.countP_cons, List.filterMap_cons]
        refine ⟨by omega, ?_, ?_⟩
        · cases raised answer x with
          | none => simp
          | some e => simp; omega
        · cases raised answer x with
          | none => rfl
          | some e => cases xs.filterMap (raised answer) <;> simp [List.getLast?_cons]
  simpa [queryAll] using hfold components.zipIdx ⟨[], 0, 0, none⟩

/-- Only requests that were sent fail. -/
theorem sends_of_raised {x : OsvComponent × ℕ} (h : (raised answer x).isSome) : sends x := by
  unfold raised at h
  unfold sends
  cases hquery : componentQuery x.1 with
  | none =>
      rw [hquery] at h
      cases h
  | some request => rfl

/-- As many requests failed as were sent exactly when all of them failed. -/
theorem length_failures_eq_iff (xs : List (OsvComponent × ℕ)) :
    (xs.filterMap (raised answer)).length = xs.countP sends ↔
      ∀ x ∈ xs, sends x → (raised answer x).isSome := by
  have hle : ∀ xs : List (OsvComponent × ℕ),
      (xs.filterMap (raised answer)).length ≤ xs.countP sends := by
    intro xs
    rw [List.length_filterMap_eq_countP]
    exact List.countP_mono_left fun x _ hx => sends_of_raised hx
  induction xs with
  | nil => simp
  | cons x xs ih =>
      have hrest := hle xs
      rw [List.filterMap_cons, List.countP_cons, List.forall_mem_cons]
      cases hfailure : raised answer x with
      | none =>
          by_cases hsends : sends x
          · refine iff_of_false ?_ fun h => ?_
            · simp [hsends]
              omega
            · cases h.1 hsends
          · simpa [hsends] using ih
      | some e =>
          have hsends : sends x := sends_of_raised (by rw [hfailure]; rfl)
          simpa [hsends] using ih

/-- **The call raises** when requests were sent and all of them failed, or when a record cannot be
    made. -/
theorem lookupBatch_eq (now : Datetime) (uuid : ℕ → ℕ → String) :
    lookupBatch answer now uuid components =
      match (components.zipIdx.filterMap (raised answer)).getLast? with
      | some e =>
          if ∀ x ∈ components.zipIdx, sends x → (raised answer x).isSome then .error e
          else records now "https://api.osv.dev/v1/query" uuid
            ⟨some (queryAll answer components).results⟩
      | none => records now "https://api.osv.dev/v1/query" uuid
          ⟨some (queryAll answer components).results⟩ := by
  obtain ⟨hattempted, hfailures, hlast⟩ := queryAll_counts answer components
  unfold lookupBatch
  dsimp only
  rw [hlast]
  cases hfailed : (components.zipIdx.filterMap (raised answer)).getLast? with
  | none => rfl
  | some e =>
      have hmem := List.mem_of_getLast? hfailed
      obtain ⟨x, hx, hxe⟩ := List.mem_filterMap.1 hmem
      have hsent : components.zipIdx.countP sends ≠ 0 := by
        have hpos : 0 < components.zipIdx.countP sends :=
          List.countP_pos_iff.2 ⟨x, hx, sends_of_raised (by rw [hxe]; rfl)⟩
        omega
      simp only [hattempted, hfailures, length_failures_eq_iff, hsent, ne_eq, not_false_eq_true,
        true_and]

/-! ## Records -/

/-- The record of a vulnerability that has an id. -/
def recordOf (now : Datetime) (url : String) (idx : ℕ) (vuln : OsvAdvisory) :
    AdvisoryRecord OsvAdvisory where
  vulnerabilityId := orElse vuln.id ""
  source := source
  retrievedAt := some now
  sourceUrl := some url
  content := some vuln
  description := (nonEmpty vuln.summary).or vuln.details
  aliases := vuln.aliases.getD []
  affectedRanges := affectedRanges vuln
  references := vuln.references.filterMap nonEmpty
  queryIndex := some idx

theorem record_eq_ok {now : Datetime} {url uuid : String} {idx : ℕ} {vuln : OsvAdvisory}
    (hid : (nonEmpty vuln.id).isSome) :
    record now url idx uuid vuln = .ok (recordOf now url idx vuln) := by
  obtain ⟨id, hid⟩ := Option.isSome_iff_exists.1 hid
  obtain ⟨hsome, hne⟩ := nonEmpty_eq_some.1 hid
  unfold record vulnId recordOf
  rw [hid, hsome]
  simp [orElse, hne]

/-- The records of an answer whose vulnerabilities have ids. -/
theorem batch_eq_ok {now : Datetime} {url : String} {uuid : ℕ → ℕ → String} {idx : ℕ}
    {result : Option OsvResult}
    (hids : ∀ vuln ∈ (result.bind (·.vulns)).getD [], (nonEmpty vuln.id).isSome) :
    batch now url uuid idx result
      = .ok (((result.bind (·.vulns)).getD []).map (recordOf now url idx)) := by
  have hmap : ∀ (vulns : List OsvAdvisory) (k : ℕ), (∀ vuln ∈ vulns, (nonEmpty vuln.id).isSome) →
      (vulns.zipIdx k).mapM (fun x => record now url idx (uuid idx x.2) x.1)
        = .ok (vulns.map (recordOf now url idx)) := by
    intro vulns
    induction vulns with
    | nil => intro k _; rfl
    | cons vuln vulns ih =>
        intro k hids
        obtain ⟨hid, hrest⟩ := List.forall_mem_cons.1 hids
        rw [List.zipIdx_cons, List.mapM_cons, record_eq_ok hid]
        simp only [except_ok_bind, ih (k + 1) hrest]
        rfl
  exact hmap _ 0 hids

end OSVAdapter

end VulnOpsHub
