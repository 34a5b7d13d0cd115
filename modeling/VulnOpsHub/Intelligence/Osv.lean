import VulnOpsHub.Matching.Service

set_option autoImplicit false

/-! # The OSV adapter

`OSVAdapter.lookup_batch` (`intelligence/osv.py`): one request for each component, and from the
answers one advisory record for each vulnerability, with the ends of each of its ranges. -/

namespace VulnOpsHub

/-! ## Advisory records -/

/-- An item of a record's `affected_ranges`. -/
structure RecordRange where
  ecosystem : Option String
  purl : Option String
  type : Option String
  introduced : Option String
  fixed : Option String
  lastAffected : Option String := none
  confidence : Option String := none
deriving DecidableEq, Repr

/-- `AdvisoryRecord`, over the raw documents of its source. -/
structure AdvisoryRecord (Content : Type) where
  vulnerabilityId : String
  source : String
  retrievedAt : Option Datetime
  sourceUrl : Option String
  content : Option Content := none
  description : Option String := none
  cvssVector : Option String := none
  cvssScore : Option ℚ := none
  kev : Option Bool := none
  kevDueDate : Option String := none
  epssScore : Option ℚ := none
  epssPercentile : Option ℚ := none
  vexStatus : Option String := none
  affectedRanges : List RecordRange := []
  aliases : List String := []
  references : List String := []
  sourceSnapshotId : Option String := none
  queryIndex : Option ℕ := none
deriving DecidableEq

/-! ## From an answer to records -/

/-- A component's answer. -/
structure OsvResult where
  vulns : Option (List OsvAdvisory)
deriving DecidableEq, Repr

/-- The answers to a batch. -/
structure OsvResponse where
  results : Option (List OsvResult)
deriving DecidableEq, Repr

namespace OSVAdapter

def source : String := "osv"

/-- `f"OSV-{uuid.uuid4().hex[:8]}"`. -/
def newVulnId (uuid : String) : String := "OSV-" ++ String.ofList (uuid.toList.take 8)

/-- The id, or else the first alias, or else a new one. An empty list of aliases has no first. -/
def vulnId (vuln : OsvAdvisory) (uuid : String) : Except PyError String :=
  match nonEmpty vuln.id with
  | some id => .ok id
  | none =>
      match vuln.aliases with
      | none => .ok (newVulnId uuid)
      | some [] => .error .indexError
      | some (first :: _) => .ok (orElse (some first) (newVulnId uuid))

/-- One round of the loop over a range's events. -/
def updateEnds (ends : Option String × Option String) (event : OsvEvent) :
    Option String × Option String :=
  ((event.lookup "introduced").or ends.1, (event.lookup "fixed").or ends.2)

/-- What the adapter keeps of a range of a package. -/
def recordRange (pkg : OsvPackage) (rng : OsvRange) : RecordRange :=
  let ends := rng.events.foldl updateEnds (none, none)
  { ecosystem := pkg.ecosystem
    purl := pkg.purl
    type := rng.type
    introduced := ends.1
    fixed := ends.2 }

def affectedRanges (vuln : OsvAdvisory) : List RecordRange :=
  vuln.affected.flatMap fun aff => aff.ranges.map (recordRange aff.package)

/-- The record of one vulnerability in the answer to the query with index `idx`. -/
def record (now : Datetime) (url : String) (idx : ℕ) (uuid : String) (vuln : OsvAdvisory) :
    Except PyError (AdvisoryRecord OsvAdvisory) := do
  let id ← vulnId vuln uuid
  return {
    vulnerabilityId := id
    source := source
    retrievedAt := some now
    sourceUrl := some url
    content := some vuln
    description := (nonEmpty vuln.summary).or vuln.details
    aliases := vuln.aliases.getD []
    affectedRanges := affectedRanges vuln
    references := vuln.references.filterMap nonEmpty
    queryIndex := some idx }

/-- The records of a batch, in the order of the queries. `uuid idx k` is drawn for the `k`-th
    vulnerability of the `idx`-th answer. -/
def records (now : Datetime) (url : String) (uuid : ℕ → ℕ → String) (raw : OsvResponse) :
    Except PyError (List (AdvisoryRecord OsvAdvisory)) :=
  match raw.results with
  | none => .error (.valueError "invalid OSV response: missing results")
  | some results => do
      let batches ← results.zipIdx.mapM fun (result, idx) =>
        (result.vulns.getD []).zipIdx.mapM fun (vuln, k) => record now url idx (uuid idx k) vuln
      return batches.flatten

/-! ## Requests -/

end OSVAdapter

/-- A component of a batch. -/
structure OsvComponent where
  purl : Option String
  ecosystem : Option String := none
  name : Option String := none
  version : Option String
deriving DecidableEq, Repr

/-- The package of a request. -/
inductive OsvPackageQuery where
  | purl (purl : String)
  | named (ecosystem name : String)
deriving DecidableEq, Repr

structure OsvRequest where
  package : OsvPackageQuery
  version : Option String
deriving DecidableEq, Repr

namespace OSVAdapter

/-- `_strip_purl_version`: the last segment is cut at its first `@`. -/
def stripPurlVersion (purl : String) : String :=
  let base := splitHead '#' (splitHead '?' purl.toList)
  let segment := splitLast '/' base
  String.ofList (base.take (base.length - segment.length) ++ splitHead '@' segment)

/-- `_component_query`, with the version of the request; `none` when the component is
    unqueryable. -/
def componentQuery (component : OsvComponent) : Option OsvRequest :=
  match nonEmpty component.purl, nonEmpty component.ecosystem, nonEmpty component.name with
  | some purl, _, _ => some ⟨.purl (stripPurlVersion purl), nonEmpty component.version⟩
  | none, some ecosystem, some name => some ⟨.named ecosystem name, nonEmpty component.version⟩
  | none, _, _ => none

/-- The loop over the components of a batch: their results so far, the requests sent and those that
    failed. -/
structure Batch where
  results : List OsvResult
  attempted : ℕ
  failures : ℕ
  lastError : Option PyError

/-- One round of the loop. `answer` is what the service does with the request of the component with
    index `idx`; a payload that is no object is `none`. -/
def Batch.query (answer : ℕ → OsvRequest → Except PyError (Option OsvResult)) (b : Batch)
    (component : OsvComponent × ℕ) : Batch :=
  match componentQuery component.1 with
  | none => { b with results := b.results ++ [⟨some []⟩] }
  | some request =>
      match answer component.2 request with
      | .ok payload =>
          { b with
            results := b.results ++ [payload.getD ⟨some []⟩]
            attempted := b.attempted + 1 }
      | .error e =>
          { results := b.results ++ [⟨some []⟩]
            attempted := b.attempted + 1
            failures := b.failures + 1
            lastError := some e }

def queryAll (answer : ℕ → OsvRequest → Except PyError (Option OsvResult))
    (components : List OsvComponent) : Batch :=
  components.zipIdx.foldl (Batch.query answer) ⟨[], 0, 0, none⟩

/-- `lookup_batch`: a failed request is skipped, and the call raises when all requests failed. -/
def lookupBatch (answer : ℕ → OsvRequest → Except PyError (Option OsvResult)) (now : Datetime)
    (uuid : ℕ → ℕ → String) (components : List OsvComponent) :
    Except PyError (List (AdvisoryRecord OsvAdvisory)) :=
  let b := queryAll answer components
  match b.lastError with
  | some e =>
      if b.attempted ≠ 0 ∧ b.failures = b.attempted then .error e
      else records now "https://api.osv.dev/v1/query" uuid ⟨some b.results⟩
  | none => records now "https://api.osv.dev/v1/query" uuid ⟨some b.results⟩

/-! ## Ends of a range -/

/-- The adapter's loop over the events is the matcher's, which keeps a third end. -/
theorem foldl_updateEnds (events : List OsvEvent) (b : RangeBounds) :
    events.foldl updateEnds (b.introduced, b.fixed)
      = ((events.foldl RangeBounds.update b).introduced,
          (events.foldl RangeBounds.update b).fixed) := by
  induction events generalizing b with
  | nil => rfl
  | cons event rest ih => exact ih (b.update event)

@[simp] theorem recordRange_introduced (pkg : OsvPackage) (rng : OsvRange) :
    (recordRange pkg rng).introduced = (eventBounds rng.events).introduced :=
  congrArg Prod.fst (foldl_updateEnds rng.events ⟨none, none, none⟩)

@[simp] theorem recordRange_fixed (pkg : OsvPackage) (rng : OsvRange) :
    (recordRange pkg rng).fixed = (eventBounds rng.events).fixed :=
  congrArg Prod.snd (foldl_updateEnds rng.events ⟨none, none, none⟩)

theorem affectedRanges_of_record {now : Datetime} {url uuid : String} {idx : ℕ}
    {vuln : OsvAdvisory} {r : AdvisoryRecord OsvAdvisory}
    (h : record now url idx uuid vuln = .ok r) : r.affectedRanges = affectedRanges vuln := by
  obtain ⟨id, -, hr⟩ := except_bind_eq_ok.1 h
  rw [← Except.ok.inj hr]

/-! ## The records of one query -/

/-- The records made of one answer. -/
def batch (now : Datetime) (url : String) (uuid : ℕ → ℕ → String) (idx : ℕ)
    (result : Option OsvResult) : Except PyError (List (AdvisoryRecord OsvAdvisory)) :=
  ((result.bind (·.vulns)).getD []).zipIdx.mapM fun x => record now url idx (uuid idx x.2) x.1

/-- The records of a query among those of a batch of queries. -/
def recordsAt (rs : List (AdvisoryRecord OsvAdvisory)) (idx : ℕ) :
    List (AdvisoryRecord OsvAdvisory) :=
  rs.filter fun r => r.queryIndex = some idx

variable {now : Datetime} {url : String} {uuid : ℕ → ℕ → String}

theorem queryIndex_of_batch {idx : ℕ} {result : Option OsvResult}
    {rs : List (AdvisoryRecord OsvAdvisory)} (h : batch now url uuid idx result = .ok rs) :
    ∀ r ∈ rs, r.queryIndex = some idx := by
  intro r hr
  obtain ⟨x, -, hx⟩ := exists_of_mem_mapM h hr
  obtain ⟨id, -, hrecord⟩ := except_bind_eq_ok.1 hx
  rw [← Except.ok.inj hrecord]

theorem recordsAt_append (rs rs' : List (AdvisoryRecord OsvAdvisory)) (idx : ℕ) :
    recordsAt (rs ++ rs') idx = recordsAt rs idx ++ recordsAt rs' idx := List.filter_append _ _

theorem recordsAt_batch {j idx : ℕ} {result : Option OsvResult}
    {rs : List (AdvisoryRecord OsvAdvisory)} (h : batch now url uuid j result = .ok rs) :
    recordsAt rs idx = if j = idx then rs else [] := by
  unfold recordsAt
  split_ifs with hj
  · exact List.filter_eq_self.2 fun r hr => by simp [queryIndex_of_batch h r hr, hj]
  · exact List.filter_eq_nil_iff.2 fun r hr => by simp [queryIndex_of_batch h r hr, hj]

/-- The answers from the `n`-th query on: their records are those of their own batches. -/
theorem recordsAt_flatten {results : List OsvResult} {n : ℕ}
    {batches : List (List (AdvisoryRecord OsvAdvisory))}
    (h : (results.zipIdx n).mapM (fun x => batch now url uuid x.2 (some x.1)) = .ok batches)
    (idx : ℕ) : if idx < n then recordsAt batches.flatten idx = []
      else batch now url uuid idx results[idx - n]? = .ok (recordsAt batches.flatten idx) := by
  induction results generalizing n batches with
  | nil =>
      cases h
      split
      · rfl
      · simp [batch, recordsAt]
        rfl
  | cons result results ih =>
      rw [List.zipIdx_cons, List.mapM_cons] at h
      obtain ⟨b, hb, h⟩ := except_bind_eq_ok.1 h
      obtain ⟨bs, hbs, h⟩ := except_bind_eq_ok.1 h
      cases h
      have hrest := ih hbs
      rw [List.flatten_cons, recordsAt_append, recordsAt_batch hb]
      rcases Nat.lt_trichotomy idx n with hlt | rfl | hgt
      · rw [if_pos hlt, if_neg (by omega)]
        rw [if_pos (by omega)] at hrest
        rw [hrest]
        rfl
      · rw [if_neg (by omega), if_pos rfl]
        rw [if_pos (by omega)] at hrest
        rw [hrest, List.append_nil, Nat.sub_self]
        exact hb
      · rw [if_neg (by omega), if_neg (by omega), List.nil_append]
        rw [if_neg (by omega)] at hrest
        have hindex : idx - n = (idx - (n + 1)) + 1 := by omega
        rw [hindex, List.getElem?_cons_succ]
        exact hrest

/-- The records of a query are those made of its own answer. -/
theorem batch_of_records {results : List OsvResult} {rs : List (AdvisoryRecord OsvAdvisory)}
    (h : records now url uuid ⟨some results⟩ = .ok rs) (idx : ℕ) :
    batch now url uuid idx results[idx]? = .ok (recordsAt rs idx) := by
  obtain ⟨batches, hbatches, h⟩ := except_bind_eq_ok.1 h
  cases h
  have hflatten := recordsAt_flatten (n := 0) hbatches idx
  rwa [if_neg (Nat.not_lt_zero idx), Nat.sub_zero] at hflatten

/-- What a batch holds of the answer to a component. -/
def answered (answer : ℕ → OsvRequest → Except PyError (Option OsvResult))
    (component : OsvComponent) (idx : ℕ) : OsvResult :=
  match componentQuery component with
  | none => ⟨some []⟩
  | some request =>
      match answer idx request with
      | .ok payload => payload.getD ⟨some []⟩
      | .error _ => ⟨some []⟩

theorem results_query (answer : ℕ → OsvRequest → Except PyError (Option OsvResult)) (b : Batch)
    (x : OsvComponent × ℕ) :
    (Batch.query answer b x).results = b.results ++ [answered answer x.1 x.2] := by
  unfold Batch.query answered
  cases componentQuery x.1 with
  | none => rfl
  | some request =>
      dsimp only
      cases answer x.2 request with
      | ok payload => rfl
      | error e => rfl

theorem results_queryAll (answer : ℕ → OsvRequest → Except PyError (Option OsvResult))
    (components : List OsvComponent) : (queryAll answer components).results
      = components.zipIdx.map fun x => answered answer x.1 x.2 := by
  have hfold : ∀ (xs : List (OsvComponent × ℕ)) (b : Batch),
      (xs.foldl (Batch.query answer) b).results
        = b.results ++ xs.map fun x => answered answer x.1 x.2 := by
    intro xs
    induction xs with
    | nil => intro b; simp
    | cons x xs ih => intro b; simp [ih, results_query]
  exact hfold components.zipIdx ⟨[], 0, 0, none⟩

theorem records_of_lookupBatch {answer : ℕ → OsvRequest → Except PyError (Option OsvResult)}
    {components : List OsvComponent} {rs : List (AdvisoryRecord OsvAdvisory)}
    (h : lookupBatch answer now uuid components = .ok rs) :
    records now "https://api.osv.dev/v1/query" uuid ⟨some (queryAll answer components).results⟩
      = .ok rs := by
  unfold lookupBatch at h
  dsimp only at h
  split at h
  · split at h
    · cases h
    · exact h
  · exact h

/-- **The records of a query** in a batch that did not raise. -/
theorem batch_of_lookupBatch {answer : ℕ → OsvRequest → Except PyError (Option OsvResult)}
    {components : List OsvComponent} {rs : List (AdvisoryRecord OsvAdvisory)}
    (h : lookupBatch answer now uuid components = .ok rs) (idx : ℕ) :
    batch now "https://api.osv.dev/v1/query" uuid idx
      (components[idx]?.map fun component => answered answer component idx)
      = .ok (recordsAt rs idx) := by
  have hbatch := batch_of_records (records_of_lookupBatch h) idx
  rw [results_queryAll, List.getElem?_map, List.getElem?_zipIdx] at hbatch
  simpa [Option.map_map, Function.comp_def] using hbatch

end OSVAdapter

end VulnOpsHub
