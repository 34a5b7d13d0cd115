import VulnOpsHub.Workers.Drafts
import VulnOpsHub.Workers.Priorities

set_option autoImplicit false

/-! # Sources that fail

An event is handled again while some of the intelligence sources are down. The handler takes a
source that fails for one that has nothing to say, and judges the stored exposures anew: when that
leaves their classes and priorities no lower than they were. -/

namespace VulnOpsHub

open RiskPolicyEngine (band candidateBand calculateScore)

/-! ## Orders -/

/-- The place in the order of the classes that say a component is affected. -/
def MatchClass.standing : MatchClass → Option ℕ
  | .candidate => some 0
  | .deterministic => some 1
  | .confirmed => some 2
  | .corroborated => none
  | .notAffected => none

/-- Candidate is below deterministic, and that is below confirmed. -/
def MatchClass.Below (lower upper : MatchClass) : Prop :=
  ∃ m n, lower.standing = some m ∧ upper.standing = some n ∧ m < n

theorem MatchClass.not_below_self (matchClass : MatchClass) : ¬ matchClass.Below matchClass := by
  rintro ⟨m, n, hm, hn, hlt⟩
  obtain rfl := Option.some.inj (hm.symm.trans hn)
  exact Nat.lt_irrefl _ hlt

/-- The score attains a priority, for a class. -/
def Attains (matchClass : MatchClass) (score : ℚ) : Priority → Prop
  | .p0 => matchClass ≠ .candidate ∧ 90 ≤ score
  | .p1 => matchClass ≠ .candidate ∧ 70 ≤ score
  | .p2 => (if matchClass = .candidate then 70 else 40) ≤ score
  | .p3 => matchClass ∈ caseClasses ∨ (if matchClass = .candidate then 40 else 20) ≤ score
  | .p4 => True

theorem rank_candidateBand_le (score : ℚ) (p : Priority) :
    (candidateBand score).rank ≤ p.rank ↔ Attains .candidate score p := by
  unfold candidateBand
  cases p <;> split_ifs <;> simp [Priority.rank, Attains, caseClasses] <;> grind

theorem rank_uplift_band_le {matchClass : MatchClass} (h : matchClass ≠ .candidate) (score : ℚ)
    (p : Priority) :
    (uplift matchClass (band score)).rank ≤ p.rank ↔ Attains matchClass score p := by
  by_cases hcase : matchClass ∈ caseClasses
  · unfold uplift band
    simp only [hcase, and_true]
    cases p <;> split_ifs <;> simp_all [Priority.rank, Attains] <;> grind
  · have huplift : uplift matchClass (band score) = band score := if_neg fun hp => hcase hp.2
    rw [huplift]
    unfold band
    cases p <;> split_ifs <;> simp_all [Priority.rank, Attains] <;> grind

/-- A grade is as urgent as the priorities its score attains. -/
theorem rank_grade_le (matchClass : MatchClass) (score : ℚ) (p : Priority) :
    (grade matchClass score).rank ≤ p.rank ↔ Attains matchClass score p := by
  unfold grade
  split_ifs with hcandidate
  · rw [hcandidate]
    exact rank_candidateBand_le score p
  · exact rank_uplift_band_le hcandidate score p

/-- With the second input every priority is attained again that is attained with the first. -/
def KeepsUrgency (inp inp' : PolicyInput) : Prop :=
  ∀ p, Escalated inp ∨ Attains inp.matchClass (calculateScore inp) p →
    Escalated inp' ∨ Attains inp'.matchClass (calculateScore inp') p

section Policy

variable [Python]

theorem rank_uplifted_le {inp : PolicyInput} (h : Likely inp.matchClass inp.matchConfidence)
    (p : Priority) : (uplifted inp).rank ≤ p.rank ↔
      Escalated inp ∨ Attains inp.matchClass (calculateScore inp) p := by
  rw [uplifted_eq h]
  split_ifs with hescalated
  · simp [hescalated, Priority.rank]
  · rw [rank_grade_le]
    simp [hescalated]

theorem rank_uplifted_le_iff {inp inp' : PolicyInput}
    (h : Likely inp.matchClass inp.matchConfidence)
    (h' : Likely inp'.matchClass inp'.matchConfidence) :
    (uplifted inp').rank ≤ (uplifted inp).rank ↔ KeepsUrgency inp inp' := by
  constructor
  · intro hle p hp
    exact (rank_uplifted_le h' p).1 (hle.trans ((rank_uplifted_le h p).2 hp))
  · intro hkeeps
    exact (rank_uplifted_le h' _).2 (hkeeps _ ((rank_uplifted_le h _).1 le_rfl))

end Policy

/-! ## Answers that are lost -/

section Degraded

variable [Python]

/-- Every source that answered in the sources `s`, over the rows `h`, answers the same in `s'`, over
    `h'`, or fails. -/
structure Degraded (s : Sources) (h : Hub) (s' : Sources) (h' : Hub) : Prop where
  osv : ∀ idx request, s'.osv idx request = s.osv idx request ∨
    ∃ e, s'.osv idx request = .error e
  /-- A vulnerability goes by the id it went by. -/
  ids : ∀ idx request result vulns, s.osv idx request = .ok (some result) →
    result.vulns = some vulns → ∀ x ∈ vulns.zipIdx,
      OSVAdapter.vulnId x.1 (s'.osvUuid idx x.2) = OSVAdapter.vulnId x.1 (s.osvUuid idx x.2)
  kev : ∀ id, s'.isKev h' id = s.isKev h id ∨ s'.isKev h' id = false
  epss : ∀ id, s'.epssFor id = s.epssFor id ∨ s'.epssFor id = (0, none)
  vex : ∀ id, s'.vexStatusFor id = s.vexStatusFor id ∨ s'.vexStatusFor id = none

omit [Python] in
theorem except_mapM_congr {α β γ : Type} {xs : List α} {f f' : α → Except PyError β} {g : β → γ}
    (h : ∀ x ∈ xs, (f' x).map g = (f x).map g) :
    (xs.mapM f').map (List.map g) = (xs.mapM f).map (List.map g) := by
  induction xs with
  | nil => rfl
  | cons x xs ih =>
      rw [List.mapM_cons, List.mapM_cons]
      refine except_bind_congr (h x List.mem_cons_self) fun b b' hb => ?_
      refine except_bind_congr (ih fun y hy => h y (List.mem_cons_of_mem _ hy)) fun bs bs' hbs => ?_
      exact congrArg Except.ok (List.cons_eq_cons.2 ⟨hb, hbs⟩)

omit [Python] in
/-- The records of an answer, without their times, go by the ids of its vulnerabilities. -/
theorem batch_untimed {now now' : Datetime} {url : String} {uuid uuid' : ℕ → ℕ → String} {idx : ℕ}
    {result : Option OsvResult}
    (h : ∀ x ∈ ((result.bind (·.vulns)).getD []).zipIdx,
      OSVAdapter.vulnId x.1 (uuid' idx x.2) = OSVAdapter.vulnId x.1 (uuid idx x.2)) :
    (OSVAdapter.batch now' url uuid' idx result).map (List.map AdvisoryRecord.untimed)
      = (OSVAdapter.batch now url uuid idx result).map (List.map AdvisoryRecord.untimed) := by
  refine except_mapM_congr fun x hx => ?_
  unfold OSVAdapter.record
  rw [h x hx]
  exact except_bind_map_congr _ fun id => rfl

variable {s s' : Sources} {h h' : Hub}

omit [Python] in
theorem batch_answered (answer : ℕ → OsvRequest → Except PyError (Option OsvResult))
    {component : OsvComponent} {idx : ℕ} {now : Datetime} {url : String} {uuid : ℕ → ℕ → String}
    (h : ∀ request, OSVAdapter.componentQuery component = some request →
      ∃ e, answer idx request = .error e) :
    OSVAdapter.batch now url uuid idx (some (OSVAdapter.answered answer component idx)) = .ok [] := by
  unfold OSVAdapter.answered
  cases hrequest : OSVAdapter.componentQuery component with
  | none => rfl
  | some request =>
      obtain ⟨e, he⟩ := h request hrequest
      dsimp only
      rw [he]
      rfl

/-- From an answer that came twice the same records are made, up to their times. -/
theorem Degraded.batch (hdegraded : Degraded s h s' h') {idx : ℕ} {request : OsvRequest}
    {payload : Option OsvResult} (hanswer : s.osv idx request = .ok payload) (url : String) :
    (OSVAdapter.batch s'.osvNow url s'.osvUuid idx (some (payload.getD ⟨some []⟩))).map
        (List.map AdvisoryRecord.untimed)
      = (OSVAdapter.batch s.osvNow url s.osvUuid idx (some (payload.getD ⟨some []⟩))).map
        (List.map AdvisoryRecord.untimed) := by
  refine batch_untimed fun x hx => ?_
  cases payload with
  | none => simp at hx
  | some result =>
      cases hvulns : result.vulns with
      | none => simp [hvulns] at hx
      | some vulns =>
          simp only [Option.getD_some, Option.bind_some, hvulns] at hx
          exact hdegraded.ids idx request result vulns hanswer hvulns x hx

/-- **The records of a component** are the same, up to their times, or there are none. -/
theorem Degraded.recordsAt (hdegraded : Degraded s h s' h') {components : List OsvComponent}
    {rs rs' : List (AdvisoryRecord OsvAdvisory)} (hrs : s.lookupBatch components = .ok rs)
    (hrs' : s'.lookupBatch components = .ok rs') (idx : ℕ) :
    OSVAdapter.recordsAt rs' idx = [] ∨
      (OSVAdapter.recordsAt rs' idx).map AdvisoryRecord.untimed
        = (OSVAdapter.recordsAt rs idx).map AdvisoryRecord.untimed := by
  have hbatch := OSVAdapter.batch_of_lookupBatch hrs idx
  have hbatch' := OSVAdapter.batch_of_lookupBatch hrs' idx
  cases hcomponent : components[idx]? with
  | none =>
      rw [hcomponent] at hbatch'
      exact Or.inl (Except.ok.inj hbatch').symm
  | some component =>
      rw [hcomponent, Option.map_some] at hbatch hbatch'
      by_cases hfails : ∀ request, OSVAdapter.componentQuery component = some request →
          ∃ e, s'.osv idx request = .error e
      · rw [batch_answered s'.osv hfails] at hbatch'
        exact Or.inl (Except.ok.inj hbatch').symm
      · push Not at hfails
        obtain ⟨request, hrequest, hanswer'⟩ := hfails
        have hsame : s'.osv idx request = s.osv idx request :=
          (hdegraded.osv idx request).resolve_right fun ⟨e, he⟩ => hanswer' e he
        cases hanswer : s.osv idx request with
        | error e => exact absurd (hsame.trans hanswer) (hanswer' e)
        | ok payload =>
            have hanswered : ∀ answer : ℕ → OsvRequest → Except PyError (Option OsvResult),
                answer idx request = .ok payload →
                OSVAdapter.answered answer component idx = payload.getD ⟨some []⟩ := by
              intro answer hpayload
              unfold OSVAdapter.answered
              rw [hrequest]
              dsimp only
              rw [hpayload]
            rw [hanswered _ hanswer] at hbatch
            rw [hanswered _ (hsame.trans hanswer)] at hbatch'
            have huntimed := hdegraded.batch hanswer "https://api.osv.dev/v1/query"
            rw [hbatch, hbatch'] at huntimed
            exact Or.inr (Except.ok.inj huntimed)

/-! ## Drafts under a key -/

omit [Python] in
/-- The records for a single component: when the one request fails, the call raises. -/
theorem lookupBatch_singleton (s : Sources) (component : OsvComponent) :
    s.lookupBatch [component] = (OSVAdapter.componentQuery component).elim (.ok []) fun request =>
      s.osv 0 request >>= fun payload =>
        OSVAdapter.batch s.osvNow "https://api.osv.dev/v1/query" s.osvUuid 0
          (some (payload.getD ⟨some []⟩)) := by
  have hone : ∀ result, OSVAdapter.records s.osvNow "https://api.osv.dev/v1/query" s.osvUuid
      ⟨some [result]⟩ = OSVAdapter.batch s.osvNow "https://api.osv.dev/v1/query" s.osvUuid 0
        (some result) := by
    intro result
    unfold OSVAdapter.records
    dsimp only
    rw [List.zipIdx_singleton, List.mapM_cons]
    show (OSVAdapter.batch s.osvNow "https://api.osv.dev/v1/query" s.osvUuid 0 (some result) >>=
      fun b => Except.ok [b]) >>= (fun batches => Except.ok batches.flatten) = _
    cases OSVAdapter.batch s.osvNow "https://api.osv.dev/v1/query" s.osvUuid 0 (some result) with
    | error e => rfl
    | ok b => simp
  have hquery : OSVAdapter.queryAll s.osv [component]
      = OSVAdapter.Batch.query s.osv ⟨[], 0, 0, none⟩ (component, 0) := rfl
  unfold Sources.lookupBatch OSVAdapter.lookupBatch
  cases hrequest : OSVAdapter.componentQuery component with
  | none =>
      have hbatch : OSVAdapter.Batch.query s.osv ⟨[], 0, 0, none⟩ (component, 0)
          = ⟨[⟨some []⟩], 0, 0, none⟩ := by
        unfold OSVAdapter.Batch.query
        rw [hrequest]
        rfl
      rw [hquery, hbatch]
      exact hone _
  | some request =>
      cases hanswer : s.osv 0 request with
      | error e =>
          have hbatch : OSVAdapter.Batch.query s.osv ⟨[], 0, 0, none⟩ (component, 0)
              = ⟨[⟨some []⟩], 1, 1, some e⟩ := by
            unfold OSVAdapter.Batch.query
            rw [hrequest]
            dsimp only
            rw [hanswer]
            rfl
          rw [hquery, hbatch, Option.elim_some, hanswer]
          rfl
      | ok payload =>
          have hbatch : OSVAdapter.Batch.query s.osv ⟨[], 0, 0, none⟩ (component, 0)
              = ⟨[payload.getD ⟨some []⟩], 1, 0, none⟩ := by
            unfold OSVAdapter.Batch.query
            rw [hrequest]
            dsimp only
            rw [hanswer]
            rfl
          rw [hquery, hbatch, Option.elim_some, hanswer]
          exact hone _

/-- A report is handled only with the records it had. -/
theorem Degraded.recordsFor (hdegraded : Degraded s h s' h') {purl version : Option String}
    {rs rs' : List (AdvisoryRecord OsvAdvisory)} (hrs : s.recordsFor purl version = .ok rs)
    (hrs' : s'.recordsFor purl version = .ok rs') :
    rs'.map AdvisoryRecord.untimed = rs.map AdvisoryRecord.untimed := by
  unfold Sources.recordsFor at hrs hrs'
  split at hrs
  · rw [if_pos ‹_›, lookupBatch_singleton] at hrs'
    rw [lookupBatch_singleton] at hrs
    cases hrequest : OSVAdapter.componentQuery { purl := purl, version := version } with
    | none =>
        rw [hrequest] at hrs hrs'
        cases hrs
        cases hrs'
        rfl
    | some request =>
        rw [hrequest, Option.elim_some] at hrs hrs'
        obtain ⟨payload, hpayload, hrs⟩ := except_bind_eq_ok.1 hrs
        obtain ⟨payload', hpayload', hrs'⟩ := except_bind_eq_ok.1 hrs'
        rcases hdegraded.osv 0 request with hsame | ⟨e, he⟩
        · rw [hsame, hpayload] at hpayload'
          obtain rfl := Except.ok.inj hpayload'
          have huntimed := hdegraded.batch hpayload "https://api.osv.dev/v1/query"
          rw [hrs, hrs'] at huntimed
          exact Except.ok.inj huntimed
        · rw [he] at hpayload'
          cases hpayload'
  · rw [if_neg ‹_›] at hrs'
    cases hrs
    cases hrs'
    rfl

omit [Python] in
/-- Of some blocks at most one has elements that count; if blocks are lost, it is lost or not. -/
theorem filter_flatMap_of_lost {α β : Type} {g g' : α → List β} {p : β → Bool} {xs : List α}
    (hlost : ∀ x ∈ xs, g' x = [] ∨ g' x = g x)
    (halone : xs.Pairwise fun x y => (g x).filter p = [] ∨ (g y).filter p = []) :
    (xs.flatMap g').filter p = [] ∨ (xs.flatMap g').filter p = (xs.flatMap g).filter p := by
  induction xs with
  | nil => exact Or.inl rfl
  | cons x xs ih =>
      obtain ⟨hx, hxs⟩ := List.pairwise_cons.1 halone
      have hrest := ih (fun y hy => hlost y (List.mem_cons_of_mem _ hy)) hxs
      rw [List.flatMap_cons, List.flatMap_cons, List.filter_append, List.filter_append]
      by_cases hnone : (g x).filter p = []
      · have hnone' : (g' x).filter p = [] := by
          rcases hlost x List.mem_cons_self with h | h <;> simp [h, hnone]
        rw [hnone, hnone', List.nil_append, List.nil_append]
        exact hrest
      · have hothers : (xs.flatMap g).filter p = [] := by
          rw [List.filter_flatMap, List.flatMap_eq_nil_iff]
          exact fun y hy => (hx y hy).resolve_left hnone
        have hothers' : (xs.flatMap g').filter p = [] := hrest.elim id (·.trans hothers)
        rw [hothers, hothers', List.append_nil, List.append_nil]
        rcases hlost x List.mem_cons_self with h | h
        · exact Or.inl (by rw [h]; rfl)
        · exact Or.inr (by rw [h])

/-- The bill of materials of the event, if it is about one, has the same occurrences. -/
def SameComponents (event : OutboxEvent) (h h' : Hub) : Prop :=
  ∀ document sbomId, event.payload.orEmpty.index "sbom_id" = .ok document →
    document.optionalText = .ok (some sbomId) →
    (h'.occurrences.rows.filter fun occurrence => occurrence.sbomId = sbomId)
      = h.occurrences.rows.filter fun occurrence => occurrence.sbomId = sbomId

variable [Packaging] {event : OutboxEvent} {ds ds' : List Draft}

omit [Python] [Packaging] in
theorem filter_key_untimed (ds : List Draft) (key : ExposureKey) :
    (ds.filter fun d => d.key = key).map Draft.untimed
      = (ds.map Draft.untimed).filter fun d => d.key = key := by
  rw [List.filter_map]
  refine congrArg (List.map _) (List.filter_congr fun d _ => ?_)
  simp

omit [Packaging] in
/-- The drafts of a bill of materials. -/
theorem Degraded.sbomDrafts (hdegraded : Degraded s h s' h') {ordered : List ComponentOccurrence}
    (hids : ordered.Pairwise fun x y => x.id ≠ y.id) {components : List OsvComponent}
    {rs rs' : List (AdvisoryRecord OsvAdvisory)}
    (hrs : s.lookupBatch components = .ok rs) (hrs' : s'.lookupBatch components = .ok rs')
    (organizationId sbomId : String) (key : ExposureKey) :
    ((sbomMatches ordered rs').map fun m =>
        (Draft.sbom organizationId sbomId m.1 m.2).untimed).filter (·.key = key) = [] ∨
      ((sbomMatches ordered rs').map fun m =>
          (Draft.sbom organizationId sbomId m.1 m.2).untimed).filter (·.key = key)
        = ((sbomMatches ordered rs).map fun m =>
          (Draft.sbom organizationId sbomId m.1 m.2).untimed).filter (·.key = key) := by
  have hblocks : ∀ records, (sbomMatches ordered records).map (fun m =>
      (Draft.sbom organizationId sbomId m.1 m.2).untimed)
      = ordered.zipIdx.flatMap fun x =>
          ((OSVAdapter.recordsAt records x.2).map AdvisoryRecord.untimed).map
            (Draft.sbom organizationId sbomId x.1) := by
    intro records
    unfold sbomMatches
    rw [List.map_flatMap]
    refine List.flatMap_congr fun x _ => ?_
    rw [List.map_map, List.map_map]
    rfl
  rw [hblocks, hblocks]
  refine filter_flatMap_of_lost (fun x _ => ?_) ?_
  · rcases hdegraded.recordsAt hrs hrs' x.2 with hnone | hsame
    · exact Or.inl (by rw [hnone]; rfl)
    · exact Or.inr (by rw [hsame])
  · have hzip : ordered.zipIdx.Pairwise fun x y => x.1.id ≠ y.1.id := by
      rw [← List.zipIdx_map_fst 0 ordered] at hids
      exact (List.pairwise_map (R := fun x y : ComponentOccurrence => x.id ≠ y.id) (f := Prod.fst)).1 hids
    refine hzip.imp fun {x y} hne => ?_
    -- the key names one occurrence
    have hother : ∀ z : ComponentOccurrence × ℕ, key.componentOccurrenceId ≠ some z.1.id →
        (((OSVAdapter.recordsAt rs z.2).map AdvisoryRecord.untimed).map
          (Draft.sbom organizationId sbomId z.1)).filter (·.key = key) = [] := by
      intro z hz
      rw [List.filter_eq_nil_iff]
      intro d hd hkey
      obtain ⟨r, -, rfl⟩ := List.mem_map.1 hd
      have hkey : (Draft.sbom organizationId sbomId z.1 r).key = key := of_decide_eq_true hkey
      exact hz (by rw [← hkey]; rfl)
    by_cases hx : key.componentOccurrenceId = some x.1.id
    · exact Or.inr (hother y fun hy => hne (Option.some.inj (hx.symm.trans hy)))
    · exact Or.inl (hother x hx)

omit [Packaging] in
/-- The draft of a report. -/
theorem Degraded.reportDrafts (hdegraded : Degraded s h s' h') (report : Report)
    {purl version : Option String} {rs rs' : List (AdvisoryRecord OsvAdvisory)}
    (hrs : s.recordsFor purl version = .ok rs) (hrs' : s'.recordsFor purl version = .ok rs')
    (key : ExposureKey) :
    ([Draft.reported report rs'].filter fun d => d.key = key).map Draft.untimed
      = ([Draft.reported report rs].filter fun d => d.key = key).map Draft.untimed := by
  rw [filter_key_untimed, filter_key_untimed, List.map_singleton, List.map_singleton,
    Draft.untimed, Draft.untimed, hdegraded.recordsFor hrs hrs']

omit [Packaging] in
/-- **The drafts under a key** are those of the first time, up to their times, or there are none. -/
theorem Degraded.drafts (hdegraded : Degraded s h s' h') (hcomponents : SameComponents event h h')
    (hds : draftsOf s event h = .ok ds) (hds' : draftsOf s' event h' = .ok ds')
    (key : ExposureKey) : (ds'.filter (·.key = key)).map Draft.untimed = [] ∨
      (ds'.filter (·.key = key)).map Draft.untimed
        = (ds.filter (·.key = key)).map Draft.untimed := by
  unfold draftsOf at hds hds'
  dsimp only at hds hds'
  split_ifs at hds hds' with hsbom hdojo hwazuh
  · obtain ⟨document, hdocument, hds⟩ := except_bind_eq_ok.1 hds
    obtain ⟨document', hdocument', hds'⟩ := except_bind_eq_ok.1 hds'
    obtain rfl := Except.ok.inj (hdocument.symm.trans hdocument')
    obtain ⟨sbomId?, hsbomId, hds⟩ := except_bind_eq_ok.1 hds
    obtain ⟨sbomId?', hsbomId', hds'⟩ := except_bind_eq_ok.1 hds'
    obtain rfl := Except.ok.inj (hsbomId.symm.trans hsbomId')
    cases sbomId? with
    | none =>
        cases hds'
        exact Or.inl rfl
    | some sbomId =>
        dsimp only at hds hds'
        rw [hcomponents document sbomId hdocument hsbomId] at hds'
        obtain ⟨rs, hrs, hds⟩ := except_bind_eq_ok.1 hds
        obtain ⟨rs', hrs', hds'⟩ := except_bind_eq_ok.1 hds'
        obtain ⟨organizationId, horganization, hds⟩ := except_bind_eq_ok.1 hds
        obtain ⟨organizationId', horganization', hds'⟩ := except_bind_eq_ok.1 hds'
        generalize hordered : (h.occurrences.rows.filter fun occurrence =>
          occurrence.sbomId = sbomId).filter queryable = ordered at *
        by_cases hnone : ordered = []
        · rw [if_pos hnone] at hrs'
          cases hrs'
          cases hds'
          rw [hnone]
          exact Or.inl rfl
        rw [if_neg hnone] at hrs hrs'
        have hids : ordered.Pairwise fun x y => x.id ≠ y.id := by
          have hrows : h.occurrences.rows.Pairwise fun x y => x.id ≠ y.id :=
            List.pairwise_map.1 h.occurrences.nodup
          rw [← hordered]
          exact (hrows.filter _).filter _
        have hsame := hdegraded.sbomDrafts hids hrs hrs' organizationId' sbomId key
        cases hds
        cases hds'
        rw [filter_key_untimed, filter_key_untimed, List.map_map, List.map_map]
        by_cases hms : sbomMatches ordered rs = []
        · rw [hms, List.map_nil, List.filter_nil, or_self] at hsame
          exact Or.inl hsame
        by_cases hms' : sbomMatches ordered rs' = []
        · rw [hms']
          exact Or.inl rfl
        rw [if_neg hms] at horganization
        rw [if_neg hms'] at horganization'
        obtain rfl := Except.ok.inj (horganization.symm.trans horganization')
        exact hsame
  · obtain ⟨decoded, hdecoded, hds⟩ := except_bind_eq_ok.1 hds
    obtain ⟨decoded', hdecoded', hds'⟩ := except_bind_eq_ok.1 hds'
    obtain rfl := Except.ok.inj (hdecoded.symm.trans hdecoded')
    cases decoded with
    | inl summary =>
        cases hds'
        exact Or.inl rfl
    | inr fields =>
        obtain ⟨rs, hrs, hds⟩ := except_bind_eq_ok.1 hds
        obtain ⟨rs', hrs', hds'⟩ := except_bind_eq_ok.1 hds'
        cases hds
        cases hds'
        exact Or.inr (hdegraded.reportDrafts _ hrs hrs' key)
  · obtain ⟨decoded, hdecoded, hds⟩ := except_bind_eq_ok.1 hds
    obtain ⟨decoded', hdecoded', hds'⟩ := except_bind_eq_ok.1 hds'
    obtain rfl := Except.ok.inj (hdecoded.symm.trans hdecoded')
    cases decoded with
    | inl summary =>
        cases hds'
        exact Or.inl rfl
    | inr fields =>
        obtain ⟨rs, hrs, hds⟩ := except_bind_eq_ok.1 hds
        obtain ⟨rs', hrs', hds'⟩ := except_bind_eq_ok.1 hds'
        cases hds
        cases hds'
        exact Or.inr (hdegraded.reportDrafts _ hrs hrs' key)
  · cases hds'
    exact Or.inl rfl

/-! ## Classes that VEX decides -/

section Evaluate

variable {c : ParsedComponent} {advisory : OsvAdvisory} {uuid : String}

/-- The advisory rules the component out: its ranges are about it, and do not hit its version. -/
def RulesOut (c : ParsedComponent) (advisory : OsvAdvisory) : Prop :=
  ComparesVersions c ∧ ∀ version, nonEmpty c.rawVersion = some version →
    ¬ Hit c advisory version ∧ SpeaksOf c advisory

/-- Short of a comparison of versions the answer is a candidate. -/
theorem evaluate_of_not_compares (h : ¬ ComparesVersions c) :
    (evaluate c advisory none none none uuid).matchClass = .candidate := by
  rw [evaluate_of_silent fun hcompares => absurd hcompares h]
  unfold fallbackResult
  split <;> rfl

theorem evaluate_of_compares (h : ComparesVersions c) {version : String}
    (hversion : nonEmpty c.rawVersion = some version) :
    (evaluate c advisory none none none uuid).matchClass =
      if Hit c advisory version then .deterministic
      else if SpeaksOf c advisory then .notAffected else .candidate := by
  obtain ⟨purl, hpurl⟩ := Option.isSome_iff_exists.1 h.1
  rw [evaluate_of_range hpurl hversion, if_pos h.2.2]
  have hhit : ((advisory.affected.any fun aff => applies c aff && covers version aff) = true) =
      Hit c advisory version := by
    simp [Hit]
  have hspeaks : ((advisory.affected.any (applies c) && hasRanges advisory) = true) =
      SpeaksOf c advisory := by
    simp [SpeaksOf]
  simp only [hhit, hspeaks]

theorem evaluate_class_numbered {vexStatus : Option String} (uuid uuid' : String) :
    (evaluate c advisory none none vexStatus uuid).matchClass
      = (evaluate c advisory none none vexStatus uuid').matchClass := by
  have hresult := evaluate_unnumbered c advisory none none vexStatus uuid uuid'
  have hclass := congrArg ExposureResult.matchClass hresult
  exact hclass

/-- An answer that opens no case is a candidate, or rules the component out. -/
theorem class_of_not_case
    (h : (evaluate c advisory none none none uuid).matchClass ∉ caseClasses) :
    (evaluate c advisory none none none uuid).matchClass = .candidate ∨
      (evaluate c advisory none none none uuid).matchClass = .notAffected := by
  by_cases hcompares : ComparesVersions c
  · obtain ⟨version, hversion⟩ := Option.isSome_iff_exists.1 hcompares.2.1
    rw [evaluate_of_compares hcompares hversion] at h ⊢
    split_ifs at h ⊢
    · simp [caseClasses] at h
    · exact Or.inr rfl
    · exact Or.inl rfl
  · exact Or.inl (evaluate_of_not_compares hcompares)

/-- Without scanners and VEX the class is below a confirmed one, unless the component is ruled
    out. -/
theorem below_confirmed_iff :
    (evaluate c advisory none none none uuid).matchClass.Below .confirmed ↔
      ¬ RulesOut c advisory := by
  by_cases hcompares : ComparesVersions c
  · obtain ⟨version, hversion⟩ := Option.isSome_iff_exists.1 hcompares.2.1
    have hrules : RulesOut c advisory ↔ ¬ Hit c advisory version ∧ SpeaksOf c advisory := by
      unfold RulesOut
      rw [hversion]
      exact ⟨fun h => h.2 version rfl, fun h => ⟨hcompares, fun v hv => Option.some.inj hv ▸ h⟩⟩
    rw [evaluate_of_compares hcompares hversion, hrules]
    split_ifs with hhit hspeaks
    · simp [MatchClass.Below, MatchClass.standing, hhit]
    · simp [MatchClass.Below, MatchClass.standing, hhit, hspeaks]
    · simp [MatchClass.Below, MatchClass.standing, hspeaks]
  · rw [evaluate_of_not_compares hcompares]
    have hrules : ¬ RulesOut c advisory := fun h => hcompares h.1
    simp [MatchClass.Below, MatchClass.standing, hrules]

end Evaluate

namespace Draft

def component : Draft → ParsedComponent
  | .sbom _ _ occurrence _ => componentFromOccurrence occurrence
  | .reported report _ => report.component

/-- The advisory the handler evaluates. -/
def advisory : Draft → OsvAdvisory
  | .sbom _ _ _ record => advisoryFromRecord record
  | .reported (.defectdojo fields) records => dojoAdvisory fields.cve records
  | .reported (.wazuh fields) records =>
      wazuhAdvisory fields.cve (selectOsvRecordForCve records fields.cve)

/-- A VEX statement that the component is affected counts: no scanner has verified the finding, and
    a package that Wazuh knows by a purl has a record about the vulnerability. -/
def Heeds : Draft → Prop
  | .sbom _ _ _ _ => True
  | .reported (.defectdojo fields) _ => fields.verified = false
  | .reported (.wazuh fields) records =>
      nonEmpty fields.purl = none ∨ (selectOsvRecordForCve records fields.cve).isSome = true

/-- A confirmation by VEX is lost only to an advisory that rules the component out. -/
def KeepsClass (s s' : Sources) (d : Draft) : Prop :=
  d.Heeds → s.vexStatusFor d.vulnerabilityId = some "affected" →
    s'.vexStatusFor d.vulnerabilityId = none → RulesOut d.component d.advisory

variable {d : Draft} {uuid uuid' : String}

/-- The class of a draft that heeds VEX is the matcher's answer, given the statement. -/
theorem Heeds.class_eq (hheeds : d.Heeds) : (d.finding s uuid).result.matchClass
    = (evaluate d.component d.advisory none none (s.vexStatusFor d.vulnerabilityId)
      uuid).matchClass := by
  cases d with
  | sbom _ _ _ _ => rfl
  | reported report records =>
      cases report with
      | defectdojo fields =>
          have hverified : fields.verified = false := hheeds
          show (dojoResult s fields records uuid).matchClass = _
          unfold dojoResult
          rw [hverified]
          rfl
      | wazuh fields =>
          have hbound : ¬ ((nonEmpty fields.purl).isSome &&
              !(selectOsvRecordForCve records fields.cve).isSome) = true := by
            rcases hheeds with hpurl | hsome
            · simp [hpurl]
            · simp [hsome]
          show (wazuhFinding s fields records uuid).result.matchClass = _
          rw [wazuhFinding_result, wazuhAdjusted_class, if_neg fun h => hbound h.1]
          rfl

/-- Without VEX one that does not is confirmed by a scanner, or no more than a candidate. -/
theorem class_of_not_heeds (hheeds : ¬ d.Heeds) :
    (∀ s uuid, (d.finding s uuid).result.matchClass = .confirmed) ∨
      ∀ s uuid, (d.finding s uuid).result.matchClass = .candidate ∨
        (d.finding s uuid).result.matchClass = .notAffected := by
  cases d with
  | sbom _ _ _ _ => exact absurd trivial hheeds
  | reported report records =>
      cases report with
      | defectdojo fields =>
          have hverified : (Report.defectdojo fields).verified = true :=
            (Bool.not_eq_false _).mp hheeds
          exact Or.inl fun s uuid => Report.evaluated_of_verified hverified
      | wazuh fields =>
          obtain ⟨hpurl, hnone⟩ := not_or.1 hheeds
          have hunbound : ((nonEmpty fields.purl).isSome &&
              !(selectOsvRecordForCve records fields.cve).isSome) = true := by
            simp [Option.isSome_iff_ne_none, hpurl, hnone]
          refine Or.inr fun s uuid => ?_
          show (wazuhFinding s fields records uuid).result.matchClass = _ ∨
            (wazuhFinding s fields records uuid).result.matchClass = _
          rw [wazuhFinding_result, wazuhAdjusted_class]
          split_ifs with hcase
          · exact Or.inl rfl
          · have hcase : (Report.evaluated s (.wazuh fields) (wazuhAdvisory fields.cve
                (selectOsvRecordForCve records fields.cve)) uuid).matchClass ∉ caseClasses :=
              fun h => hcase ⟨hunbound, h⟩
            rw [Report.evaluated_of_unverified rfl] at hcase ⊢
            rcases s.vexStatusFor_cases fields.cve with hvex | hvex | hvex
            · have hvex : s.vexStatusFor (Report.wazuh fields).cve = none := hvex
              rw [hvex] at hcase ⊢
              exact class_of_not_case hcase
            · have hvex : s.vexStatusFor (Report.wazuh fields).cve = some "affected" := hvex
              rw [hvex] at hcase
              exact absurd (by simp [evaluate, vexResult, ExposureResult.plain, caseClasses]) hcase
            · have hvex : s.vexStatusFor (Report.wazuh fields).cve = some "not_affected" := hvex
              rw [hvex]
              exact Or.inr rfl

/-- **A class falls** exactly when a confirmation by VEX is lost. -/
theorem below_iff (hvex : s'.vexStatusFor d.vulnerabilityId = s.vexStatusFor d.vulnerabilityId ∨
      s'.vexStatusFor d.vulnerabilityId = none) :
    (d.finding s' uuid').result.matchClass.Below (d.finding s uuid).result.matchClass ↔
      ¬ d.KeepsClass s s' := by
  by_cases hheeds : d.Heeds
  · rw [hheeds.class_eq, hheeds.class_eq]
    have hkeeps : d.KeepsClass s s' ↔ (s.vexStatusFor d.vulnerabilityId = some "affected" →
        s'.vexStatusFor d.vulnerabilityId = none → RulesOut d.component d.advisory) :=
      ⟨fun h => h hheeds, fun h _ => h⟩
    rw [hkeeps]
    rcases s.vexStatusFor_cases d.vulnerabilityId with hnone | haffected | hnot
    · have hnone' : s'.vexStatusFor d.vulnerabilityId = none := hvex.elim (·.trans hnone) id
      rw [hnone, hnone', evaluate_class_numbered uuid' uuid]
      simp [MatchClass.not_below_self]
    · rcases hvex with hsame | hlost
      · rw [hsame, haffected, evaluate_class_numbered uuid' uuid]
        simp [MatchClass.not_below_self]
      · have hconfirmed : (evaluate d.component d.advisory none none (some "affected")
            uuid).matchClass = .confirmed := rfl
        rw [haffected, hlost, hconfirmed, below_confirmed_iff]
        simp
    · have hnotAffected : (evaluate d.component d.advisory none none (some "not_affected")
          uuid).matchClass = .notAffected := rfl
      rw [hnot, hnotAffected]
      simp [MatchClass.Below, MatchClass.standing]
  · have hkeeps : d.KeepsClass s s' := fun h => absurd h hheeds
    simp only [hkeeps, not_true_eq_false, iff_false]
    rintro ⟨m, n, hm, hn, hlt⟩
    rcases class_of_not_heeds hheeds with hconfirmed | hother
    · rw [hconfirmed] at hm hn
      obtain rfl := Option.some.inj (hm.symm.trans hn)
      exact Nat.lt_irrefl _ hlt
    · rcases hother s uuid with h | h <;> rw [h] at hn <;> cases hn
      omega

end Draft

/-! ## Last drafts -/

/-- The last of the drafts with a key. -/
def lastDraft (key : ExposureKey) (ds : List Draft) : Option Draft :=
  (ds.filter fun d => d.key = key).getLast?

/-- The last finding is made of the last draft. -/
theorem lastUnder_findings (s : Sources) (number : ℕ → String) (key : ExposureKey)
    (ds : List Draft) : ∃ x : Option (Draft × ℕ),
      lastDraft key ds = x.map Prod.fst ∧
      lastUnder key (ds.zipIdx.map fun x => x.1.finding s (number x.2))
        = x.map fun x => x.1.finding s (number x.2) := by
  refine ⟨(ds.zipIdx.filter fun x => x.1.key = key).getLast?, ?_, ?_⟩
  · have hdrafts : ds.filter (fun d => d.key = key)
        = (ds.zipIdx.filter fun x => x.1.key = key).map Prod.fst := by
      have hfilter := List.filter_map (p := fun d : Draft => decide (d.key = key))
        (f := Prod.fst) (l := ds.zipIdx)
      rw [List.zipIdx_map_fst] at hfilter
      exact hfilter
    unfold lastDraft
    rw [hdrafts, List.getLast?_map]
  · rw [lastUnder_eq_getLast?, List.filter_map, List.getLast?_map]
    refine congrArg (Option.map _) (congrArg List.getLast? (List.filter_congr fun x _ => ?_))
    simp

omit [Packaging] in
/-- The last draft under a key was the last one under it the first time. -/
theorem Degraded.lastDraft (hdegraded : Degraded s h s' h') (hcomponents : SameComponents event h h')
    (hds : draftsOf s event h = .ok ds) (hds' : draftsOf s' event h' = .ok ds')
    {key : ExposureKey} {d' : Draft} (hlast : lastDraft key ds' = some d') :
    ∃ d, VulnOpsHub.lastDraft key ds = some d ∧ d.untimed = d'.untimed := by
  have huntimed : ∀ ds : List Draft, (VulnOpsHub.lastDraft key ds).map Draft.untimed
      = ((ds.filter fun d => d.key = key).map Draft.untimed).getLast? := fun ds =>
    List.getLast?_map.symm
  have hlast' := huntimed ds'
  rcases hdegraded.drafts hcomponents hds hds' key with hnone | hsame
  · rw [hnone, hlast] at hlast'
    cases hlast'
  · rw [hsame, ← huntimed, hlast] at hlast'
    obtain ⟨d, hd, hdd'⟩ := Option.map_eq_some_iff.1 hlast'.symm
    exact ⟨d, hd, hdd'⟩

/-! ## Stored exposures -/

omit [Python] [Packaging] in
theorem Finding.Alike.input_eq {f g : Finding} (halike : f.Alike g) (s : Sources) (h : Hub) :
    f.input s h = g.input s h := by
  have hid : f.vulnerabilityId = g.vulnerabilityId :=
    congrArg ExposureKey.vulnerabilityId halike.key_eq
  unfold Finding.input
  rw [halike.matchClass_eq, halike.confidence_eq, hid]

/-- What a draft finds is likely. -/
theorem Draft.likely (d : Draft) (s : Sources) (uuid : String) :
    Likely (d.finding s uuid).result.matchClass (d.finding s uuid).result.confidence := by
  cases d with
  | sbom _ _ _ _ => exact likely_evaluate _ _ _ _ _ _
  | reported report records =>
      cases report with
      | defectdojo fields => exact likely_evaluate _ _ _ _ _ _
      | wazuh fields =>
          show Likely (wazuhAdjusted fields _ (evaluate _ _ _ _ _ _)).matchClass
            (wazuhAdjusted fields _ (evaluate _ _ _ _ _ _)).confidence
          unfold wazuhAdjusted
          split_ifs
          · exact Or.inl rfl
          · exact likely_evaluate _ _ _ _ _ _

/-- No exposure of `h` is left in `h'` with a lower class or a less urgent priority. -/
structure NotDowngraded (h h' : Hub) : Prop where
  classes : ∀ e ∈ h.exposures.rows, ∀ e' ∈ h'.exposures.rows, e'.id = e.id →
    ¬ e'.matchClass.Below e.matchClass
  priorities : ∀ e ∈ h.exposures.rows, ∀ e' ∈ h'.exposures.rows, e'.id = e.id →
    ∀ p, e.priority = some p → ∃ p', e'.priority = some p' ∧ p'.rank ≤ p.rank

/-- The findings of some drafts, round by round. -/
def Handling.findings (o : Handling) (ds : List Draft) : List Finding :=
  ds.zipIdx.map fun x => x.1.finding o.sources (o.uuid x.2 11)

/-- An event is handled, and again over the rows `h₂`, which have of its exposures what the first
    handling has left in them. -/
structure Redelivery (o o' : Handling) (event : OutboxEvent) (ds ds' : List Draft)
    (h h₁ h₂ h₃ : Hub) : Prop where
  degraded : Degraded o.sources h o'.sources h₂
  components : SameComponents event h h₂
  drafts : draftsOf o.sources event h = .ok ds
  draftsAgain : draftsOf o'.sources event h₂ = .ok ds'
  first : Rounds o event.id 0 (o.findings ds) h h₁
  again : Rounds o' event.id 0 (o'.findings ds') h₂ h₃
  ruled : ∀ f ∈ o.findings ds, f.Ruled
  ruledAgain : ∀ f ∈ o'.findings ds', f.Ruled
  stored : ∀ f ∈ o.findings ds,
    (h₂.exposureAt f.key).map Exposure.verdict = (h₁.exposureAt f.key).map Exposure.verdict

namespace Redelivery

variable {o o' : Handling} {h₁ h₂ h₃ : Hub}

/-- The exposure under a key, as both handlings leave it: as the last draft under the key says. -/
theorem exposures (hr : Redelivery o o' event ds ds' h h₁ h₂ h₃) {key : ExposureKey} {d : Draft}
    (hlast : lastDraft key ds' = some d) : ∃ e₂ e₃, h₂.exposureAt key = some e₂ ∧
      h₃.exposureAt key = some e₃ ∧ e₃.id = e₂.id ∧
      e₂.matchClass = (d.finding o.sources "").result.matchClass ∧
      e₂.priority = some (uplifted ((d.finding o.sources "").input o.sources h)) ∧
      e₃.matchClass = (d.finding o'.sources "").result.matchClass ∧
      e₃.priority = some (uplifted ((d.finding o'.sources "").input o'.sources h₂)) := by
  obtain ⟨d₀, hlast₀, huntimed⟩ :=
    hr.degraded.lastDraft hr.components hr.drafts hr.draftsAgain hlast
  obtain ⟨x, hx, hfirst⟩ := lastUnder_findings o.sources (fun i => o.uuid i 11) key ds
  obtain ⟨x', hx', hagain⟩ := lastUnder_findings o'.sources (fun i => o'.uuid i 11) key ds'
  obtain ⟨y, rfl, rfl⟩ := Option.map_eq_some_iff.1 (hx.symm.trans hlast₀)
  obtain ⟨y', rfl, rfl⟩ := Option.map_eq_some_iff.1 (hx'.symm.trans hlast)
  rw [Option.map_some] at hfirst hagain
  -- what the first handling has left
  obtain ⟨e₁, he₁, hverdict₁, -⟩ := hr.first.judge hr.ruled hfirst
  have hmem := mem_of_lastUnder hfirst
  have hstored := hr.stored _ hmem.1
  rw [hmem.2, he₁] at hstored
  obtain ⟨e₂, he₂, hverdict₂⟩ := Option.map_eq_some_iff.1 hstored
  rw [hverdict₁] at hverdict₂
  obtain ⟨e₃, he₃, -, hjudged⟩ := hr.again.judge hr.ruledAgain hagain
  obtain ⟨now, rfl⟩ := hjudged e₂ he₂
  have halike : (y'.1.finding o.sources "").Alike (y.1.finding o.sources (o.uuid y.2 11)) :=
    Draft.finding_alike huntimed rfl _ _
  have hagain : (y'.1.finding o'.sources (o'.uuid y'.2 11)).Alike (y'.1.finding o'.sources "") :=
    Draft.finding_alike rfl rfl _ _
  have hclass : e₂.matchClass = _ := congrArg Verdict.matchClass hverdict₂
  have hpriority : e₂.priority = _ := congrArg Verdict.priority hverdict₂
  refine ⟨e₂, _, he₂, he₃, rfl, ?_, ?_, ?_, ?_⟩
  · rw [halike.matchClass_eq]
    exact hclass
  · rw [halike.input_eq]
    exact hpriority
  · rw [← hagain.matchClass_eq]
    rfl
  · rw [← hagain.input_eq]
    rfl

/-- An exposure that no draft is about is as it was. -/
theorem mem_exposures (hr : Redelivery o o' event ds ds' h h₁ h₂ h₃) {e : Exposure}
    (he : e ∈ h₂.exposures.rows)
    (hnone : lastDraft e.key ds' = none ∨ h₂.exposureAt e.key ≠ some e) :
    e ∈ h₃.exposures.rows := by
  refine hr.again.mem_exposures he fun f hf hkey => ?_
  rcases hnone with hnone | hother
  · obtain ⟨x, hx, hlast⟩ := lastUnder_findings o'.sources (fun i => o'.uuid i 11) e.key ds'
    rw [hnone] at hx
    rw [Option.map_eq_none_iff.1 hx.symm, Option.map_none] at hlast
    exact absurd hkey (lastUnder_eq_none.1 hlast f hf)
  · exact hother

/-- Nothing is downgraded exactly when no last draft loses its class or its urgency. -/
theorem notDowngraded_iff (hr : Redelivery o o' event ds ds' h h₁ h₂ h₃) :
    NotDowngraded h₂ h₃ ↔ ∀ key d, lastDraft key ds' = some d →
      d.KeepsClass o.sources o'.sources ∧
        KeepsUrgency ((d.finding o.sources "").input o.sources h)
          ((d.finding o'.sources "").input o'.sources h₂) := by
  have hbelow : ∀ d : Draft, (d.finding o'.sources "").result.matchClass.Below
      (d.finding o.sources "").result.matchClass ↔ ¬ d.KeepsClass o.sources o'.sources := fun d =>
    Draft.below_iff (hr.degraded.vex d.vulnerabilityId)
  have hurgency : ∀ d : Draft, (uplifted ((d.finding o'.sources "").input o'.sources h₂)).rank
      ≤ (uplifted ((d.finding o.sources "").input o.sources h)).rank ↔
      KeepsUrgency ((d.finding o.sources "").input o.sources h)
        ((d.finding o'.sources "").input o'.sources h₂) := fun d =>
    rank_uplifted_le_iff (d.likely o.sources "") (d.likely o'.sources "")
  constructor
  · intro hkept key d hlast
    obtain ⟨e₂, e₃, he₂, he₃, hid, hclass₂, hpriority₂, hclass₃, hpriority₃⟩ := hr.exposures hlast
    have hmem₂ := (Hub.exposureAt_eq_some he₂).1
    have hmem₃ := (Hub.exposureAt_eq_some he₃).1
    constructor
    · have hnot := hkept.classes e₂ hmem₂ e₃ hmem₃ hid
      rw [hclass₂, hclass₃, hbelow, not_not] at hnot
      exact hnot
    · obtain ⟨p, hp, hrank⟩ := hkept.priorities e₂ hmem₂ e₃ hmem₃ hid _ hpriority₂
      rw [hpriority₃] at hp
      obtain rfl := Option.some.inj hp
      exact (hurgency d).1 hrank
  · intro hkeeps
    have hcases : ∀ e ∈ h₂.exposures.rows, ∀ e' ∈ h₃.exposures.rows, e'.id = e.id →
        ¬ e'.matchClass.Below e.matchClass ∧
          ∀ p, e.priority = some p → ∃ p', e'.priority = some p' ∧ p'.rank ≤ p.rank := by
      intro e he e' he' hid
      by_cases hat : h₂.exposureAt e.key = some e
      · cases hlast : lastDraft e.key ds' with
        | none =>
            obtain rfl := Table.eq_of_exposureId he' (hr.mem_exposures he (Or.inl hlast)) hid
            exact ⟨MatchClass.not_below_self _, fun p hp => ⟨p, hp, le_rfl⟩⟩
        | some d =>
            obtain ⟨e₂, e₃, he₂, he₃, hid₃, hclass₂, hpriority₂, hclass₃, hpriority₃⟩ :=
              hr.exposures hlast
            obtain rfl := Option.some.inj (hat.symm.trans he₂)
            obtain rfl := Table.eq_of_exposureId he' (Hub.exposureAt_eq_some he₃).1
              (hid.trans hid₃.symm)
            obtain ⟨hclass, hurgent⟩ := hkeeps e.key d hlast
            refine ⟨?_, fun p hp => ⟨_, hpriority₃, ?_⟩⟩
            · rw [hclass₂, hclass₃, hbelow, not_not]
              exact hclass
            · rw [hpriority₂] at hp
              obtain rfl := Option.some.inj hp
              exact (hurgency d).2 hurgent
      · obtain rfl := Table.eq_of_exposureId he' (hr.mem_exposures he (Or.inr hat)) hid
        exact ⟨MatchClass.not_below_self _, fun p hp => ⟨p, hp, le_rfl⟩⟩
    exact
      { classes := fun e he e' he' hid => (hcases e he e' he' hid).1
        priorities := fun e he e' he' hid => (hcases e he e' he' hid).2 }

end Redelivery

/-- **Failing sources and downgrades.** An event is handled again, and some of the sources that
    answered the first time fail. No exposure falls to a lower class or a less urgent priority
    exactly when no finding that stands in the end has lost the VEX statement that confirmed it,
    short of ranges that rule its component out, and each attains with what is left the priorities
    it had attained. -/
theorem notDowngraded_iff_kept {o o' : Handling} {h₂ : Hub}
    {handler : Handling → OutboxEvent → HubProg String}
    (hhandler : handlerOf event.eventType = some handler) {summary summary' : String}
    {t t' : Session Hub}
    (hfirst : (handler o event).run (Session.fresh h) = (.returned summary, t))
    (hagain : (handler o' event).run (Session.fresh h₂) = (.returned summary', t'))
    (hdegraded : Degraded o.sources h o'.sources h₂) (hcomponents : SameComponents event h h₂)
    (hstored : ∀ fs, findingsOf o event h = .ok fs → ∀ f ∈ fs,
      (h₂.exposureAt f.key).map Exposure.verdict = (t.db.exposureAt f.key).map Exposure.verdict) :
    NotDowngraded h₂ t'.db ↔ ∀ ds, draftsOf o'.sources event h₂ = .ok ds →
      ∀ key d, lastDraft key ds = some d → d.KeepsClass o.sources o'.sources ∧
        KeepsUrgency ((d.finding o.sources "").input o.sources h)
          ((d.finding o'.sources "").input o'.sources h₂) := by
  obtain ⟨fs, h₁, hfs, rfl, hrounds⟩ := rounds_of_returned hhandler hfirst
  obtain ⟨fs', h₃, hfs', rfl, hrounds'⟩ := rounds_of_returned hhandler hagain
  have hdrafts := findingsOf_eq o event h
  have hdrafts' := findingsOf_eq o' event h₂
  rw [hfs] at hdrafts
  rw [hfs'] at hdrafts'
  cases hds : draftsOf o.sources event h with
  | error e => rw [hds] at hdrafts; cases hdrafts
  | ok ds =>
      cases hds' : draftsOf o'.sources event h₂ with
      | error e => rw [hds'] at hdrafts'; cases hdrafts'
      | ok ds' =>
          rw [hds] at hdrafts
          rw [hds'] at hdrafts'
          cases hdrafts
          cases hdrafts'
          have hr : Redelivery o o' event ds ds' h h₁ h₂ h₃ :=
            { degraded := hdegraded
              components := hcomponents
              drafts := hds
              draftsAgain := hds'
              first := hrounds
              again := hrounds'
              ruled := ruled_of_findingsOf hfs
              ruledAgain := ruled_of_findingsOf hfs'
              stored := hstored _ hfs }
          refine hr.notDowngraded_iff.trans ⟨fun hkept ds hds₀ => ?_, fun hkept => hkept ds' rfl⟩
          cases hds₀
          exact hkept

end Degraded

/-- VEX is down. -/
def sampleFailing : Sources :=
  { sampleConfirming with
    vex := some fun _ => .error (.valueError "vex unavailable") }

theorem sampleFailing_degraded (h h' : Hub) :
    @Degraded asciiPython sampleConfirming h sampleFailing h' :=
  @Degraded.mk asciiPython _ _ _ _ (fun _ _ => Or.inl rfl) (fun _ _ _ _ _ _ _ _ => rfl)
    (fun _ => Or.inl rfl) (fun _ => Or.inl rfl) (fun _ => Or.inr rfl)

theorem sampleConfirming_run : ∃ summary t, (@handleSbomProcessed asciiPython dottedPackaging
    (sampleHandling sampleConfirming) sampleSbomEvent).run (Session.fresh sampleInventory)
      = (.returned summary, t) :=
  Program.exists_run_of_isReturned (by decide +kernel)

/-- The rows the first handling leaves. -/
def sampleConfirmed : Hub :=
  (@handleSbomProcessed asciiPython dottedPackaging (sampleHandling sampleConfirming)
    sampleSbomEvent).runDb sampleInventory

theorem sampleFailing_run : ∃ summary t, (@handleSbomProcessed asciiPython dottedPackaging
    (sampleHandling sampleFailing) sampleSbomEvent).run (Session.fresh sampleConfirmed)
      = (.returned summary, t) :=
  Program.exists_run_of_isReturned (by decide +kernel)

/-- A confirmed exposure falls to a candidate. -/
theorem failing_vex_downgrades : ¬ ∀ (_ : Python) (_ : Packaging) (o o' : Handling)
    (event : OutboxEvent) (h : Hub) (handler : Handling → OutboxEvent → HubProg String)
    (summary summary' : String) (t t' : Session Hub),
    handlerOf event.eventType = some handler →
    (handler o event).run (Session.fresh h) = (.returned summary, t) →
    (handler o' event).run (Session.fresh t.db) = (.returned summary', t') →
    Degraded o.sources h o'.sources t.db → NotDowngraded t.db t'.db := by
  intro h
  obtain ⟨summary, t, hrun⟩ := sampleConfirming_run
  obtain ⟨summary', t', hagain⟩ := sampleFailing_run
  have hdb : sampleConfirmed = t.db := by rw [sampleConfirmed, Program.runDb, hrun]
  have hfalls : ∃ e ∈ sampleConfirmed.exposures.rows, ∃ e' ∈ ((@handleSbomProcessed asciiPython
      dottedPackaging (sampleHandling sampleFailing) sampleSbomEvent).run
        (Session.fresh sampleConfirmed)).2.db.exposures.rows,
      e'.id = e.id ∧ e.matchClass = .confirmed ∧ e'.matchClass = .candidate := by decide +kernel
  rw [hagain] at hfalls
  obtain ⟨e, he, e', he', hid, hconfirmed, hcandidate⟩ := hfalls
  rw [hdb] at he hagain
  have hkept := h asciiPython dottedPackaging _ _ _ _ _ _ _ t t' rfl hrun hagain
    (sampleFailing_degraded _ _)
  refine hkept.classes e he e' he' hid ?_
  rw [hconfirmed, hcandidate]
  exact ⟨0, 2, rfl, rfl, by decide⟩

/-- Nothing falls while all sources answer. -/
theorem notDowngraded_iff_kept_answering : ∃ t t' : Session Hub, t.db = sampleConfirmed ∧
    NotDowngraded t.db t'.db := by
  obtain ⟨summary, t, hrun⟩ := sampleConfirming_run
  have hdb : sampleConfirmed = t.db := by rw [sampleConfirmed, Program.runDb, hrun]
  have hreturned : ((@handleSbomProcessed asciiPython dottedPackaging
      (sampleHandling sampleConfirming) sampleSbomEvent).run
        (Session.fresh sampleConfirmed)).1.isReturned = true := by decide +kernel
  obtain ⟨summary', t', hagain⟩ := Program.exists_run_of_isReturned hreturned
  have hcomponents : SameComponents sampleSbomEvent sampleInventory sampleConfirmed := by
    intro document sbomId _ _
    have hoccurrences : sampleConfirmed.occurrences.rows = sampleInventory.occurrences.rows := by
      decide +kernel
    rw [hoccurrences]
  rw [hdb] at hagain hcomponents
  have hiff := @notDowngraded_iff_kept asciiPython sampleInventory dottedPackaging sampleSbomEvent
    (sampleHandling sampleConfirming) (sampleHandling sampleConfirming) t.db _ rfl _ _ t t' hrun
    hagain (@Degraded.mk asciiPython _ _ _ _ (fun _ _ => Or.inl rfl) (fun _ _ _ _ _ _ _ _ => rfl)
      (fun _ => Or.inl rfl) (fun _ => Or.inl rfl) (fun _ => Or.inl rfl)) hcomponents
    fun _ _ _ _ => rfl
  refine ⟨t, t', hdb.symm, hiff.2 fun ds _ key d _ => ⟨?_, fun p hp => hp⟩⟩
  intro _ haffected hnone
  exact absurd (haffected.symm.trans hnone) (by simp)

end VulnOpsHub
