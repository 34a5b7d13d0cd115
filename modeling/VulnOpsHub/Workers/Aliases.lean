import VulnOpsHub.Workers.Degraded

set_option autoImplicit false

/-! # Ids and aliases

OSV gives a vulnerability an id and knows it by aliases; the catalogues go by one of these names.
The handler asks them for the id alone. Here are two handlings of a bill of materials that differ in
which of two names one record has for its id. -/

namespace VulnOpsHub

open RiskPolicyEngine (calculateScore)

/-! ## Names of a record -/

/-- The record by one of its aliases, which takes the id's place. -/
def AdvisoryRecord.Renamed (r r' : AdvisoryRecord OsvAdvisory) : Prop :=
  ∃ name before after content, r.aliases = before ++ name :: after ∧
    r' = { r with
      vulnerabilityId := name
      aliases := before ++ r.vulnerabilityId :: after
      content := content }

section Aliases

variable [Python] [Packaging]

/-! ## Classes and priorities -/

/-- Two VEX statements, or none, lead to the same class. -/
def SameDisposition (c : ParsedComponent) (advisory : OsvAdvisory) (status status' : Option String) :
    Prop :=
  status = status' ∨
    (RulesOut c advisory ∧ status ≠ some "affected" ∧ status' ≠ some "affected")

/-- The inputs attain the same priorities. -/
def SameUrgency (inp inp' : PolicyInput) : Prop :=
  ∀ p, Escalated inp ∨ Attains inp.matchClass (calculateScore inp) p ↔
    Escalated inp' ∨ Attains inp'.matchClass (calculateScore inp') p

variable {c : ParsedComponent} {advisory : OsvAdvisory} {uuid uuid' : String}

theorem notAffected_iff : (evaluate c advisory none none none uuid).matchClass = .notAffected ↔
    RulesOut c advisory := by
  by_cases hcompares : ComparesVersions c
  · obtain ⟨version, hversion⟩ := Option.isSome_iff_exists.1 hcompares.2.1
    rw [evaluate_of_compares hcompares hversion]
    unfold RulesOut
    rw [hversion]
    simp only [Option.some.injEq, forall_eq', hcompares, true_and]
    split_ifs with hhit hspeaks
    · simp [hhit]
    · simp [hhit, hspeaks]
    · simp [hhit, hspeaks]
  · rw [evaluate_of_not_compares hcompares]
    have hrules : ¬ RulesOut c advisory := fun h => hcompares h.1
    simp [hrules]

/-- The classes by two statements are the same exactly when the dispositions are. -/
theorem class_eq_iff {status status' : Option String}
    (hstatus : status = none ∨ status = some "affected" ∨ status = some "not_affected")
    (hstatus' : status' = none ∨ status' = some "affected" ∨ status' = some "not_affected") :
    (evaluate c advisory none none status uuid).matchClass
        = (evaluate c advisory none none status' uuid').matchClass ↔
      SameDisposition c advisory status status' := by
  have haffected : ∀ uuid, (evaluate c advisory none none (some "affected") uuid).matchClass
      = .confirmed := fun _ => rfl
  have hnotAffected : ∀ uuid,
      (evaluate c advisory none none (some "not_affected") uuid).matchClass = .notAffected :=
    fun _ => rfl
  have hconfirmed : ∀ uuid, (evaluate c advisory none none none uuid).matchClass ≠ .confirmed := by
    intro uuid h
    by_cases hcompares : ComparesVersions c
    · obtain ⟨version, hversion⟩ := Option.isSome_iff_exists.1 hcompares.2.1
      rw [evaluate_of_compares hcompares hversion] at h
      split_ifs at h
    · rw [evaluate_of_not_compares hcompares] at h
      cases h
  unfold SameDisposition
  rcases hstatus with rfl | rfl | rfl <;> rcases hstatus' with rfl | rfl | rfl
  · simp [evaluate_class_numbered uuid uuid']
  · simp [haffected, hconfirmed]
  · simp [hnotAffected, notAffected_iff]
  · simp [haffected, (hconfirmed _).symm]
  · simp [haffected]
  · simp [haffected, hnotAffected]
  · rw [hnotAffected, eq_comm, notAffected_iff]
    simp
  · simp [haffected, hnotAffected]
  · simp [hnotAffected]

omit [Packaging] in
theorem uplifted_eq_iff {inp inp' : PolicyInput} (h : Likely inp.matchClass inp.matchConfidence)
    (h' : Likely inp'.matchClass inp'.matchConfidence) :
    uplifted inp = uplifted inp' ↔ SameUrgency inp inp' := by
  rw [← Priority.rank_injective.eq_iff]
  constructor
  · intro heq p
    rw [← rank_uplifted_le h, ← rank_uplifted_le h', heq]
  · intro hsame
    refine le_antisymm ?_ ?_
    · exact (rank_uplifted_le h _).2 ((hsame _).2 ((rank_uplifted_le h' _).1 le_rfl))
    · exact (rank_uplifted_le h' _).2 ((hsame _).1 ((rank_uplifted_le h _).1 le_rfl))

/-! ## Two handlings -/

/-- The handling with other answers of OSV. -/
def Handling.answering (o : Handling) (osv : ℕ → OsvRequest → Except PyError (Option OsvResult)) :
    Handling :=
  { o with
    sources := { o.sources with osv := osv } }

variable {o : Handling} {osv : ℕ → OsvRequest → Except PyError (Option OsvResult)}
  {eventId : String} {i : ℕ} {f : Finding} {fs : List Finding} {h h' : Hub}

omit [Packaging] in
/-- OSV is asked before the rounds. -/
theorem Finding.Round.answering (hround : f.Round (o.answering osv) eventId i h h') :
    f.Round o eventId i h h' := by
  cases hround with
  | declined stored found declined =>
      exact .declined stored found fun h => declined ⟨h.1, ⟨h.2.enabled, h.2.matchClass,
        h.2.unlinked, h.2.unlisted⟩⟩
  | opened stored found opens opened linked =>
      have hel := opened.eligible
      exact .opened stored found opens
        ⟨⟨hel.enabled, hel.matchClass, hel.unlinked, hel.unlisted⟩, opened.created⟩ linked

omit [Packaging] in
theorem Rounds.answering (hrounds : Rounds (o.answering osv) eventId i fs h h') :
    Rounds o eventId i fs h h' := by
  induction hrounds with
  | nil => exact .nil _ _
  | cons round rest ih => exact .cons round.answering ih

/-- The occurrences of a bill of materials that OSV is asked about. -/
def Hub.queried (h : Hub) (sbomId : String) : List ComponentOccurrence :=
  (h.occurrences.rows.filter fun occurrence => occurrence.sbomId = sbomId).filter queryable

/-- The queries about them. -/
def componentsOf (ordered : List ComponentOccurrence) : List OsvComponent :=
  ordered.map fun occurrence => { purl := occurrence.purl, version := occurrence.rawVersion }

/-- The matches of an occurrence. -/
def matchesOf (records : List (AdvisoryRecord OsvAdvisory)) (x : ComponentOccurrence × ℕ) :
    List (ComponentOccurrence × AdvisoryRecord OsvAdvisory) :=
  (records.filter fun r => r.queryIndex = some x.2).map (x.1, ·)

omit [Python] [Packaging] in
/-- A record is matched with the occurrence of its query, and where it stands among the matches
    depends on nothing else about it. -/
theorem sbomMatches_split {ordered : List ComponentOccurrence} {idx : ℕ}
    {occurrence : ComponentOccurrence} (hocc : ordered[idx]? = some occurrence)
    (before after : List (AdvisoryRecord OsvAdvisory)) : ∃ pre post,
      ∀ r : AdvisoryRecord OsvAdvisory, r.queryIndex = some idx →
        sbomMatches ordered (before ++ r :: after) = pre ++ (occurrence, r) :: post := by
  obtain ⟨hlt, hget⟩ := List.getElem?_eq_some_iff.1 hocc
  have hsplit : ordered = ordered.take idx ++ occurrence :: ordered.drop (idx + 1) := by
    rw [← hget, ← List.drop_eq_getElem_cons hlt, List.take_append_drop]
  have hzip : ordered.zipIdx = (ordered.take idx).zipIdx ++
      (occurrence, idx) :: (ordered.drop (idx + 1)).zipIdx (idx + 1) := by
    conv_lhs => rw [hsplit]
    rw [List.zipIdx_append, List.zipIdx_cons, List.length_take, Nat.min_eq_left hlt.le, Nat.zero_add]
  refine ⟨(ordered.take idx).zipIdx.flatMap (matchesOf (before ++ after)) ++
      matchesOf before (occurrence, idx),
    matchesOf after (occurrence, idx) ++
      ((ordered.drop (idx + 1)).zipIdx (idx + 1)).flatMap (matchesOf (before ++ after)), ?_⟩
  intro r hr
  have hother : ∀ x : ComponentOccurrence × ℕ, x.2 ≠ idx →
      matchesOf (before ++ r :: after) x = matchesOf (before ++ after) x := by
    intro x hx
    have hne : ¬ some idx = some x.2 := fun h => hx (Option.some.inj h).symm
    simp [matchesOf, List.filter_append, hr, hx.symm]
  have hown : matchesOf (before ++ r :: after) (occurrence, idx)
      = matchesOf before (occurrence, idx) ++ (occurrence, r) :: matchesOf after (occurrence, idx) := by
    simp [matchesOf, List.filter_append, hr]
  have hmatches : sbomMatches ordered (before ++ r :: after)
      = ordered.zipIdx.flatMap (matchesOf (before ++ r :: after)) := rfl
  rw [hmatches, hzip, List.flatMap_append, List.flatMap_cons, hown]
  have hfirst : (ordered.take idx).zipIdx.flatMap (matchesOf (before ++ r :: after))
      = (ordered.take idx).zipIdx.flatMap (matchesOf (before ++ after)) := by
    refine List.flatMap_congr fun x hx => hother x ?_
    have hbound := List.snd_lt_of_mem_zipIdx hx
    rw [List.length_take] at hbound
    omega
  have hlast : ((ordered.drop (idx + 1)).zipIdx (idx + 1)).flatMap (matchesOf (before ++ r :: after))
      = ((ordered.drop (idx + 1)).zipIdx (idx + 1)).flatMap (matchesOf (before ++ after)) := by
    refine List.flatMap_congr fun x hx => hother x ?_
    have hbound := List.le_snd_of_mem_zipIdx hx
    omega
  rw [hfirst, hlast]
  simp

variable {event : OutboxEvent} {document : Json} {sbomId : String} {idx : ℕ}
  {occurrence : ComponentOccurrence}

/-- What a bill of materials finds, if it finds anything. -/
theorem sbomFound_of_answer (hdocument : event.payload.orEmpty.index "sbom_id" = .ok document)
    (hsbomId : document.optionalText = .ok (some sbomId))
    {records : List (AdvisoryRecord OsvAdvisory)}
    (hanswer : o.sources.lookupBatch (componentsOf (h.queried sbomId)) = .ok records)
    (hms : sbomMatches (h.queried sbomId) records ≠ []) (hfs : sbomFound o event h = .ok fs) :
    ∃ organizationId, (event.payload.orEmpty.get "organization_id" >>= fun organization =>
        organization.textOr "default") = .ok organizationId ∧
      fs = sbomFindings o organizationId sbomId (sbomMatches (h.queried sbomId) records) := by
  have hordered : h.queried sbomId ≠ [] := by
    intro hnil
    rw [hnil] at hms
    exact hms rfl
  unfold sbomFound at hfs
  dsimp only at hfs
  rw [hdocument, except_ok_bind, hsbomId, except_ok_bind] at hfs
  dsimp only at hfs
  obtain ⟨rs, hrs, hfs⟩ := except_bind_eq_ok.1 hfs
  have hqueried : (h.occurrences.rows.filter fun occurrence => occurrence.sbomId = sbomId).filter
    queryable = h.queried sbomId := rfl
  have hcomponents : ((h.queried sbomId).map fun occurrence =>
      ({ purl := occurrence.purl, version := occurrence.rawVersion } : OsvComponent))
      = componentsOf (h.queried sbomId) := rfl
  rw [hqueried, if_neg hordered, hcomponents, hanswer] at hrs
  cases hrs
  obtain ⟨organizationId, horganization, hfs⟩ := except_bind_eq_ok.1 hfs
  rw [hqueried, if_neg hms] at horganization
  cases hfs
  exact ⟨organizationId, horganization, rfl⟩

omit [Packaging] in
/-- Two handlings are the same up to the round of a finding, which is `f` in one and `f'` in the
    other, from `h₁` to `h₂` and to `h₂'`. Later findings are the same again; unless they have its
    key, they leave the exposure as it is. -/
structure Fork (o : Handling) (eventId : String) (i : ℕ) (f f' : Finding)
    (h h₁ h₂ h₂' h₃ h₃' : Hub) : Prop where
  before : ∃ pre : List Finding, pre.length = i ∧ Rounds o eventId 0 pre h h₁
  first : f.Round o eventId i h₁ h₂
  second : f'.Round o eventId i h₁ h₂'
  after : ∃ post : List Finding, Rounds o eventId (i + 1) post h₂ h₃ ∧
    Rounds o eventId (i + 1) post h₂' h₃' ∧
    ((∀ g ∈ post, g.key ≠ f.key) → h₃.exposureAt f.key = h₂.exposureAt f.key) ∧
    ((∀ g ∈ post, g.key ≠ f'.key) → h₃'.exposureAt f'.key = h₂'.exposureAt f'.key)

/-- The two rounds come to the same: the class and the priority of the exposure, and whether a case
    is opened. -/
structure SameOutcome (f f' : Finding) (h₁ h₂ h₂' : Hub) : Prop where
  exposure : ∃ e e', h₂.exposureAt f.key = some e ∧ h₂'.exposureAt f'.key = some e' ∧
    e'.matchClass = e.matchClass ∧ e'.priority = e.priority
  case : (∃ c ∈ h₂'.cases.rows, h₁.case? c.id = none) ↔ ∃ c ∈ h₂.cases.rows, h₁.case? c.id = none

/-- The two names of a record are worth the same to the handler, over the rows `h₁`: VEX disposes of
    both alike, with KEV and EPSS they attain the same priorities, and where a case may be opened, one
    is there for the exposure under both or under none. -/
structure NamesAgree (o : Handling) (i : ℕ) (occurrence : ComponentOccurrence)
    (r r' : AdvisoryRecord OsvAdvisory) (f f' : Finding) (h₁ : Hub) : Prop where
  vex : SameDisposition (componentFromOccurrence occurrence) (advisoryFromRecord r)
    (o.sources.vexStatusFor r.vulnerabilityId) (o.sources.vexStatusFor r'.vulnerabilityId)
  urgency : SameUrgency (f.input o.sources h₁) (f'.input o.sources h₁)
  cases : o.settings.caseAutoCreateEnabled = true → f.result.matchClass ∈ caseClasses →
    h₁.covered f'.organizationId (f'.exposureId o i h₁)
      = h₁.covered f.organizationId (f.exposureId o i h₁)

/-- The class depends on the entries of the advisory, not on its names. -/
theorem class_of_affected {advisory' : OsvAdvisory} (haffected : advisory'.affected = advisory.affected)
    {status : Option String}
    (hstatus : status = none ∨ status = some "affected" ∨ status = some "not_affected") :
    (evaluate c advisory' none none status uuid).matchClass
      = (evaluate c advisory none none status uuid).matchClass := by
  rcases hstatus with rfl | rfl | rfl
  · by_cases hcompares : ComparesVersions c
    · obtain ⟨version, hversion⟩ := Option.isSome_iff_exists.1 hcompares.2.1
      have hhit : Hit c advisory' version ↔ Hit c advisory version := by
        unfold Hit
        rw [haffected]
      have hspeaks : SpeaksOf c advisory' ↔ SpeaksOf c advisory := by
        unfold SpeaksOf hasRanges
        rw [haffected]
      rw [evaluate_of_compares hcompares hversion, evaluate_of_compares hcompares hversion]
      simp only [hhit, hspeaks]
    · rw [evaluate_of_not_compares hcompares, evaluate_of_not_compares hcompares]
  · rfl
  · rfl

variable {f' : Finding} {h₁ h₂ h₂' : Hub}

omit [Packaging] in
/-- Two rounds from the same rows come to the same when the classes and the priorities are, and where
    a case may be opened, one is there for both exposures or for none. -/
theorem sameOutcome_iff (hfirst : f.Round o eventId i h₁ h₂) (hsecond : f'.Round o eventId i h₁ h₂')
    (hopens : f.opensCase = true) (hopens' : f'.opensCase = true)
    (hlikely : Likely f.result.matchClass f.result.confidence)
    (hlikely' : Likely f'.result.matchClass f'.result.confidence) :
    SameOutcome f f' h₁ h₂ h₂' ↔ f'.result.matchClass = f.result.matchClass ∧
      SameUrgency (f.input o.sources h₁) (f'.input o.sources h₁) ∧
      (o.settings.caseAutoCreateEnabled = true → f.result.matchClass ∈ caseClasses →
        h₁.covered f'.organizationId (f'.exposureId o i h₁)
          = h₁.covered f.organizationId (f.exposureId o i h₁)) := by
  have hurgency : f'.priority o.sources h₁ = f.priority o.sources h₁ ↔
      SameUrgency (f.input o.sources h₁) (f'.input o.sources h₁) := by
    rw [eq_comm]
    exact uplifted_eq_iff hlikely hlikely'
  have hcase := hfirst.opens_iff
  have hcase' := hsecond.opens_iff
  rw [hopens] at hcase
  rw [hopens'] at hcase'
  constructor
  · rintro ⟨⟨e, e', he, he', hclass, hpriority⟩, hcases⟩
    obtain rfl := Option.some.inj (hfirst.exposureAt.symm.trans he)
    obtain rfl := Option.some.inj (hsecond.exposureAt.symm.trans he')
    rw [Finding.matchClass_outcome, Finding.matchClass_outcome] at hclass
    rw [Finding.priority_outcome, Finding.priority_outcome] at hpriority
    refine ⟨hclass, hurgency.1 (Option.some.inj hpriority), fun henabled hin => ?_⟩
    rw [hcase, hcase', hclass] at hcases
    simp only [henabled, hin, true_and] at hcases
    cases hf : h₁.covered f.organizationId (f.exposureId o i h₁) <;>
      cases hf' : h₁.covered f'.organizationId (f'.exposureId o i h₁) <;> simp_all
  · rintro ⟨hclass, hsame, hcovered⟩
    refine ⟨⟨_, _, hfirst.exposureAt, hsecond.exposureAt, ?_, ?_⟩, ?_⟩
    · rw [Finding.matchClass_outcome, Finding.matchClass_outcome, hclass]
    · rw [Finding.priority_outcome, Finding.priority_outcome, hurgency.2 hsame]
    · rw [hcase, hcase', hclass]
      refine and_congr_right fun _ => and_congr_right fun henabled => and_congr_right fun hin => ?_
      rw [hcovered henabled hin]

variable {r r' : AdvisoryRecord OsvAdvisory} {organizationId : String}

/-- The rounds of a record by two names come to the same exactly when its names agree. -/
theorem sameOutcome_iff_namesAgree (hrenamed : r.Renamed r')
    (hfirst : (sbomFinding o.sources organizationId sbomId uuid (occurrence, r)).Round o eventId i
      h₁ h₂)
    (hsecond : (sbomFinding o.sources organizationId sbomId uuid (occurrence, r')).Round o eventId i
      h₁ h₂') :
    SameOutcome (sbomFinding o.sources organizationId sbomId uuid (occurrence, r))
        (sbomFinding o.sources organizationId sbomId uuid (occurrence, r')) h₁ h₂ h₂' ↔
      NamesAgree o i occurrence r r'
        (sbomFinding o.sources organizationId sbomId uuid (occurrence, r))
        (sbomFinding o.sources organizationId sbomId uuid (occurrence, r')) h₁ := by
  have haffected : (advisoryFromRecord r').affected = (advisoryFromRecord r).affected := by
    obtain ⟨name, before, after, content, -, rfl⟩ := hrenamed
    rfl
  have hstatus := o.sources.vexStatusFor_cases r.vulnerabilityId
  have hstatus' := o.sources.vexStatusFor_cases r'.vulnerabilityId
  have hclass : (sbomFinding o.sources organizationId sbomId uuid (occurrence, r')).result.matchClass
      = (sbomFinding o.sources organizationId sbomId uuid (occurrence, r)).result.matchClass ↔
      SameDisposition (componentFromOccurrence occurrence) (advisoryFromRecord r)
        (o.sources.vexStatusFor r.vulnerabilityId) (o.sources.vexStatusFor r'.vulnerabilityId) := by
    have hsame : (sbomFinding o.sources organizationId sbomId uuid
        (occurrence, r')).result.matchClass = (evaluate (componentFromOccurrence occurrence)
          (advisoryFromRecord r) none none (o.sources.vexStatusFor r'.vulnerabilityId)
          uuid).matchClass := class_of_affected haffected hstatus'
    rw [hsame, eq_comm]
    exact class_eq_iff hstatus hstatus'
  rw [sameOutcome_iff hfirst hsecond rfl rfl (likely_evaluate _ _ _ _ _ _)
    (likely_evaluate _ _ _ _ _ _), hclass]
  exact ⟨fun ⟨hvex, hsame, hcases⟩ => ⟨hvex, hsame, hcases⟩, fun h => ⟨h.vex, h.urgency, h.cases⟩⟩

/-- VEX is not asked of OSV. -/
theorem sbomFindings_answering (organizationId sbomId : String)
    (ms : List (ComponentOccurrence × AdvisoryRecord OsvAdvisory)) :
    sbomFindings (o.answering osv) organizationId sbomId ms
      = sbomFindings o organizationId sbomId ms := rfl

theorem sbomFindings_split (organizationId sbomId : String)
    (pre post : List (ComponentOccurrence × AdvisoryRecord OsvAdvisory))
    (m : ComponentOccurrence × AdvisoryRecord OsvAdvisory) :
    sbomFindings o organizationId sbomId (pre ++ m :: post)
      = sbomFindings o organizationId sbomId pre ++
        sbomFinding o.sources organizationId sbomId
            (o.uuid (sbomFindings o organizationId sbomId pre).length 11) m ::
          (post.zipIdx (pre.length + 1)).map fun x =>
            sbomFinding o.sources organizationId sbomId (o.uuid x.2 11) x.1 := by
  unfold sbomFindings
  simp [List.zipIdx_append]

/-- **Ids and aliases.** A bill of materials is handled twice from the same rows, and the second time
    OSV gives one record for an occurrence by another of its names. The exposure of that record gets
    the same class, the same priority and a case or none alike exactly when the two names agree. -/
theorem renamed_sameOutcome_iff (htype : event.eventType = "vulnops.sbom.processed.v1")
    (hdocument : event.payload.orEmpty.index "sbom_id" = .ok document)
    (hsbomId : document.optionalText = .ok (some sbomId))
    (hocc : (h.queried sbomId)[idx]? = some occurrence) (hidx : r.queryIndex = some idx)
    (hrenamed : r.Renamed r') {before after : List (AdvisoryRecord OsvAdvisory)}
    (hanswer : o.sources.lookupBatch (componentsOf (h.queried sbomId)) = .ok (before ++ r :: after))
    (hanswer' : (o.answering osv).sources.lookupBatch (componentsOf (h.queried sbomId))
      = .ok (before ++ r' :: after)) {summary summary' : String} {t t' : Session Hub}
    (hrun : (handleSbomProcessed o event).run (Session.fresh h) = (.returned summary, t))
    (hrun' : (handleSbomProcessed (o.answering osv) event).run (Session.fresh h)
      = (.returned summary', t')) :
    ∃ (organizationId uuid : String) (i : ℕ) (h₁ h₂ h₂' : Hub),
      Fork o event.id i (sbomFinding o.sources organizationId sbomId uuid (occurrence, r))
        (sbomFinding o.sources organizationId sbomId uuid (occurrence, r')) h h₁ h₂ h₂' t.db t'.db ∧
      (SameOutcome (sbomFinding o.sources organizationId sbomId uuid (occurrence, r))
          (sbomFinding o.sources organizationId sbomId uuid (occurrence, r')) h₁ h₂ h₂' ↔
        NamesAgree o i occurrence r r'
          (sbomFinding o.sources organizationId sbomId uuid (occurrence, r))
          (sbomFinding o.sources organizationId sbomId uuid (occurrence, r')) h₁) := by
  have hhandler : handlerOf event.eventType = some handleSbomProcessed := by
    rw [htype]
    rfl
  have hidx' : r'.queryIndex = some idx := by
    obtain ⟨name, before, after, content, -, rfl⟩ := hrenamed
    exact hidx
  obtain ⟨pre, post, hsplit⟩ := sbomMatches_split hocc before after
  obtain ⟨fs, h₃, hfs, rfl, hrounds⟩ := rounds_of_returned hhandler hrun
  obtain ⟨fs', h₃', hfs', rfl, hrounds'⟩ := rounds_of_returned hhandler hrun'
  have hfound : ∀ o, findingsOf o event h = sbomFound o event h := fun o => by
    unfold findingsOf
    rw [if_pos htype]
  rw [hfound] at hfs hfs'
  obtain ⟨organizationId, horganization, rfl⟩ := sbomFound_of_answer hdocument hsbomId hanswer
    (by rw [hsplit r hidx]; simp) hfs
  obtain ⟨organizationId', horganization', rfl⟩ := sbomFound_of_answer hdocument hsbomId hanswer'
    (by rw [hsplit r' hidx']; simp) hfs'
  obtain rfl := Except.ok.inj (horganization.symm.trans horganization')
  rw [hsplit r hidx, sbomFindings_split] at hrounds
  rw [hsplit r' hidx', sbomFindings_answering, sbomFindings_split] at hrounds'
  obtain ⟨h₁, h₂, hpre, hround, hpost⟩ := hrounds.split
  obtain ⟨h₁', h₂', hpre', hround', hpost'⟩ := hrounds'.answering.split
  obtain rfl := hpre.unique hpre'
  rw [Nat.zero_add] at hround hround' hpost hpost'
  refine ⟨organizationId, _, _, h₁, h₂, h₂', ⟨⟨_, rfl, hpre⟩, hround, hround', _, hpost, hpost', ?_,
    ?_⟩, sameOutcome_iff_namesAgree hrenamed hround hround'⟩
  · exact fun hlast => hpost.exposureAt_of_ne hlast
  · exact fun hlast => hpost'.exposureAt_of_ne hlast

end Aliases

/-- A vulnerability of the package, by one name and another. -/
def sampleNamed (name other : String) : OsvAdvisory :=
  { sampleAdvisory [sampleAffected "PyPI" "pkg:pypi/urllib3"] with
    id := some name
    aliases := some [other] }

/-- VEX rules it out, under its CVE. -/
def sampleRuledOut : Sources :=
  { sampleSources [sampleNamed "GHSA-1" "CVE-1"] with
    vex := some fun id => .ok (if id = "CVE-1" then [⟨.str "not_affected"⟩] else []) }

/-- OSV answers with the CVE for an id. -/
def sampleByCve : ℕ → OsvRequest → Except PyError (Option OsvResult) :=
  fun _ _ => .ok (some ⟨some [sampleNamed "CVE-1" "GHSA-1"]⟩)

theorem sampleRuledOut_run : ∃ summary t, (@handleSbomProcessed asciiPython dottedPackaging
    (sampleHandling sampleRuledOut) sampleSbomEvent).run (Session.fresh sampleInventory)
      = (.returned summary, t) :=
  Program.exists_run_of_isReturned (by decide +kernel)

theorem sampleByCve_run : ∃ summary t, (@handleSbomProcessed asciiPython dottedPackaging
    ((sampleHandling sampleRuledOut).answering sampleByCve) sampleSbomEvent).run
      (Session.fresh sampleInventory) = (.returned summary, t) :=
  Program.exists_run_of_isReturned (by decide +kernel)

theorem sampleByCve_renamed : ∃ r r' : AdvisoryRecord OsvAdvisory, r.Renamed r' ∧
    r.queryIndex = some 0 ∧ r.vulnerabilityId = "GHSA-1" ∧ r'.vulnerabilityId = "CVE-1" ∧
    sampleRuledOut.lookupBatch (componentsOf (sampleInventory.queried "sbom_1"))
      = .ok ([] ++ r :: []) ∧
    ((sampleHandling sampleRuledOut).answering sampleByCve).sources.lookupBatch
      (componentsOf (sampleInventory.queried "sbom_1")) = .ok ([] ++ r' :: []) ∧
    @Hit asciiPython dottedPackaging (componentFromOccurrence sampleOccurrence)
      (advisoryFromRecord r) "1.26.18" :=
  ⟨_, _, ⟨"CVE-1", [], [], _, rfl, rfl⟩, rfl, rfl, rfl, rfl, rfl, by decide +kernel⟩

/-- Under its CVE the component is not affected, under the other name it is. -/
theorem names_not_equal : ¬ ∀ (_ : Python) (_ : Packaging) (o : Handling)
    (osv : ℕ → OsvRequest → Except PyError (Option OsvResult)) (event : OutboxEvent) (h : Hub)
    (document : Json) (sbomId : String) (before after : List (AdvisoryRecord OsvAdvisory))
    (r r' : AdvisoryRecord OsvAdvisory) (summary summary' : String) (t t' : Session Hub),
    event.eventType = "vulnops.sbom.processed.v1" →
    event.payload.orEmpty.index "sbom_id" = .ok document →
    document.optionalText = .ok (some sbomId) → r.Renamed r' →
    o.sources.lookupBatch (componentsOf (h.queried sbomId)) = .ok (before ++ r :: after) →
    (o.answering osv).sources.lookupBatch (componentsOf (h.queried sbomId))
      = .ok (before ++ r' :: after) →
    h.exposures.rows = [] →
    (handleSbomProcessed o event).run (Session.fresh h) = (.returned summary, t) →
    (handleSbomProcessed (o.answering osv) event).run (Session.fresh h) = (.returned summary', t') →
    ∀ e ∈ t.db.exposures.rows, ∀ e' ∈ t'.db.exposures.rows, e.vulnerabilityId = r.vulnerabilityId →
      e'.vulnerabilityId = r'.vulnerabilityId →
      e'.componentOccurrenceId = e.componentOccurrenceId →
      e'.matchClass = e.matchClass ∧ e'.priority = e.priority := by
  intro h
  obtain ⟨summary, t, hrun⟩ := sampleRuledOut_run
  obtain ⟨summary', t', hrun'⟩ := sampleByCve_run
  obtain ⟨r, r', hrenamed, -, hid, hid', hanswer, hanswer', -⟩ := sampleByCve_renamed
  have hstored : ∃ e ∈ ((@handleSbomProcessed asciiPython dottedPackaging
      (sampleHandling sampleRuledOut) sampleSbomEvent).run
        (Session.fresh sampleInventory)).2.db.exposures.rows,
      e.vulnerabilityId = "GHSA-1" ∧ e.componentOccurrenceId = some "occ_1" ∧
        e.matchClass = .deterministic := by decide +kernel
  have hstored' : ∃ e ∈ ((@handleSbomProcessed asciiPython dottedPackaging
      ((sampleHandling sampleRuledOut).answering sampleByCve) sampleSbomEvent).run
        (Session.fresh sampleInventory)).2.db.exposures.rows,
      e.vulnerabilityId = "CVE-1" ∧ e.componentOccurrenceId = some "occ_1" ∧
        e.matchClass = .notAffected := by decide +kernel
  rw [hrun] at hstored
  rw [hrun'] at hstored'
  obtain ⟨e, he, hename, hocc, hclass⟩ := hstored
  obtain ⟨e', he', hename', hocc', hclass'⟩ := hstored'
  have hsame := (h asciiPython dottedPackaging _ _ _ _ (.str "sbom_1") "sbom_1" [] [] r r' _ _ t t' rfl
    rfl rfl hrenamed hanswer hanswer' rfl hrun hrun' e he e' he' (hename.trans hid.symm)
    (hename'.trans hid'.symm) (hocc'.trans hocc.symm)).1
  rw [hclass, hclass'] at hsame
  cases hsame

/-- Its names do not agree, and its rounds do not come to the same. -/
theorem renamed_sameOutcome_iff_ruledOut : ∃ (f f' : Finding) (h₁ h₂ h₂' : Hub),
    f.vulnerabilityId = "GHSA-1" ∧ f'.vulnerabilityId = "CVE-1" ∧
    (∃ i, @Finding.Round asciiPython (sampleHandling sampleRuledOut) "evt_1" i f h₁ h₂ ∧
      @Finding.Round asciiPython (sampleHandling sampleRuledOut) "evt_1" i f' h₁ h₂') ∧
    ¬ SameOutcome f f' h₁ h₂ h₂' := by
  obtain ⟨summary, t, hrun⟩ := sampleRuledOut_run
  obtain ⟨summary', t', hrun'⟩ := sampleByCve_run
  obtain ⟨r, r', hrenamed, hidx, hid, hid', hanswer, hanswer', hhit⟩ := sampleByCve_renamed
  obtain ⟨organizationId, uuid, i, h₁, h₂, h₂', hfork, hiff⟩ := @renamed_sameOutcome_iff asciiPython
    dottedPackaging (sampleHandling sampleRuledOut) sampleByCve sampleInventory sampleSbomEvent
    (.str "sbom_1") "sbom_1" 0 sampleOccurrence r r' rfl rfl rfl rfl hidx hrenamed [] [] hanswer
    hanswer' _ _ t t' hrun hrun'
  have hfirst := @Fork.first asciiPython _ _ _ _ _ _ _ _ _ _ _ hfork
  have hsecond := @Fork.second asciiPython _ _ _ _ _ _ _ _ _ _ _ hfork
  refine ⟨_, _, h₁, h₂, h₂', hid, hid', ⟨i, hfirst, hsecond⟩, fun hsame => ?_⟩
  have hvex := @NamesAgree.vex asciiPython dottedPackaging _ _ _ _ _ _ _ _ (hiff.1 hsame)
  rw [hid, hid'] at hvex
  rcases hvex with hstatus | ⟨hrules, -⟩
  · revert hstatus
    decide +kernel
  · exact (hrules.2 "1.26.18" rfl).1 hhit

end VulnOpsHub
