import VulnOpsHub.Workers.Effects
import Mathlib.Tactic.Linarith

set_option autoImplicit false

/-! # The priority of an exposure

The policy knows hard rules and bands of a score. What `_priority_for` makes of its answers: the
class of a match says which edges of the bands count (`edges`), and the asset of the exposure, which
`_priority_for` does not look at, may move a score across one of them. -/

namespace VulnOpsHub

open RiskPolicyEngine (band candidateBand calculateScore hardEscalation confirmedEscalation
  lowConfidence)

/-! ## Grades -/

/-- The priority of a score, for a class. -/
def grade (matchClass : MatchClass) (score : ℚ) : Priority :=
  if matchClass = .candidate then candidateBand score else uplift matchClass (band score)

/-- The edges between the grades of a class. -/
def edges (matchClass : MatchClass) : List ℚ :=
  if matchClass = .candidate then [40, 70]
  else if matchClass ∈ caseClasses then [40, 70, 90]
  else [20, 40, 70, 90]

theorem rank_candidateBand_le_iff (s s' : ℚ) : (candidateBand s').rank ≤ (candidateBand s).rank ↔
    (40 ≤ s → 40 ≤ s') ∧ (70 ≤ s → 70 ≤ s') := by
  unfold candidateBand
  split_ifs <;> simp [Priority.rank] <;> grind

theorem rank_band_le_iff (s s' : ℚ) : (band s').rank ≤ (band s).rank ↔
    (20 ≤ s → 20 ≤ s') ∧ (40 ≤ s → 40 ≤ s') ∧ (70 ≤ s → 70 ≤ s') ∧ (90 ≤ s → 90 ≤ s') := by
  unfold band
  split_ifs <;> simp [Priority.rank] <;> grind

/-- The bottom bin does not count for a class that opens a case. -/
theorem rank_uplift_band_le_iff {matchClass : MatchClass} (h : matchClass ∈ caseClasses)
    (s s' : ℚ) : (uplift matchClass (band s')).rank ≤ (uplift matchClass (band s)).rank ↔
      (40 ≤ s → 40 ≤ s') ∧ (70 ≤ s → 70 ≤ s') ∧ (90 ≤ s → 90 ≤ s') := by
  unfold uplift band
  simp only [h, and_true]
  split_ifs <;> simp_all [Priority.rank] <;> grind

/-- One score is as urgent as another when it reaches every edge the other does. -/
theorem rank_grade_le_iff (matchClass : MatchClass) (s s' : ℚ) :
    (grade matchClass s').rank ≤ (grade matchClass s).rank ↔
      ∀ edge ∈ edges matchClass, edge ≤ s → edge ≤ s' := by
  unfold grade edges
  by_cases hcandidate : matchClass = .candidate
  · rw [if_pos hcandidate, if_pos hcandidate, if_pos hcandidate, rank_candidateBand_le_iff]
    simp
  · rw [if_neg hcandidate, if_neg hcandidate, if_neg hcandidate]
    by_cases hcase : matchClass ∈ caseClasses
    · rw [if_pos hcase, rank_uplift_band_le_iff hcase]
      simp
    · have huplift : ∀ p, uplift matchClass p = p := fun p => if_neg fun h => hcase h.2
      rw [if_neg hcase, huplift, huplift, rank_band_le_iff]
      simp

theorem Priority.rank_injective : Function.Injective Priority.rank := by
  intro p q h
  cases p <;> cases q <;> simp_all [Priority.rank]

/-- Two scores get the same priority when no edge lies between them. -/
theorem grade_eq_iff (matchClass : MatchClass) (s s' : ℚ) :
    grade matchClass s = grade matchClass s' ↔
      ∀ edge ∈ edges matchClass, (edge ≤ s ↔ edge ≤ s') := by
  have hranks : grade matchClass s = grade matchClass s' ↔
      (grade matchClass s').rank ≤ (grade matchClass s).rank ∧
        (grade matchClass s).rank ≤ (grade matchClass s').rank := by
    rw [← Priority.rank_injective.eq_iff]
    omega
  rw [hranks, rank_grade_le_iff, rank_grade_le_iff]
  exact ⟨fun h edge hedge => ⟨h.1 edge hedge, h.2 edge hedge⟩,
    fun h => ⟨fun edge hedge => (h edge hedge).1, fun edge hedge => (h edge hedge).2⟩⟩

/-- Only the last edge separates the most urgent priority. -/
theorem grade_eq_p0_iff {matchClass : MatchClass} (h : matchClass ∈ caseClasses) (s : ℚ) :
    grade matchClass s = .p0 ↔ 90 ≤ s := by
  have hcandidate : matchClass ≠ .candidate := by
    rintro rfl
    simp [caseClasses] at h
  unfold grade uplift band
  rw [if_neg hcandidate]
  simp only [h, and_true]
  split_ifs <;> simp_all

/-! ## What the policy answers -/

/-- The input is hard to overlook. -/
def Escalated (inp : PolicyInput) (r : Rounding := binary64) : Prop :=
  hardEscalation inp r = true ∨ confirmedEscalation inp r = true

instance (inp : PolicyInput) (r : Rounding) : Decidable (Escalated inp r) :=
  inferInstanceAs (Decidable (hardEscalation inp r = true ∨ confirmedEscalation inp r = true))

section Policy

variable [Python]

/-- The priority for an input, with the uplift. -/
def uplifted (inp : PolicyInput) : Priority :=
  uplift inp.matchClass (RiskPolicyEngine.evaluate inp).priority

/-- A match that is more than a candidate is likely. -/
def Likely (matchClass : MatchClass) (confidence : Number) : Prop :=
  matchClass = .candidate ∨ (confidence.round binary64).lt (.finite (1 / 2)) = false

omit [Python] in
/-- Rounding keeps the order, and one half is a double. -/
theorem likely_of_le (matchClass : MatchClass) {confidence : ℚ} (h : 1 / 2 ≤ confidence) :
    Likely matchClass (.finite confidence) := by
  have hround := binary64_mono h
  have hhalf : binary64 (1 / 2) = .finite (1 / 2) := by decide +kernel
  rw [hhalf] at hround
  refine Or.inr ?_
  rw [Number.lt, Number.round, hround, Bool.not_true, Bool.and_false]

omit [Python] in
theorem uplift_of_ne {priority : Priority} (matchClass : MatchClass) (h : priority ≠ .p4) :
    uplift matchClass priority = priority := if_neg fun hp => h hp.1

/-- Of a likely match only the score and the hard rules count. -/
theorem uplifted_eq {inp : PolicyInput} (h : Likely inp.matchClass inp.matchConfidence) :
    uplifted inp = if Escalated inp then .p0 else grade inp.matchClass (calculateScore inp) := by
  unfold uplifted RiskPolicyEngine.evaluate grade
  by_cases hhard : hardEscalation inp = true
  · have hescalated : Escalated inp := Or.inl hhard
    rw [if_pos hhard, if_pos hescalated]
    exact uplift_of_ne _ (by simp)
  by_cases hconfirmed : confirmedEscalation inp = true
  · have hescalated : Escalated inp := Or.inr hconfirmed
    rw [if_neg hhard, if_pos hconfirmed, if_pos hescalated]
    exact uplift_of_ne _ (by simp)
  have hnot : ¬ Escalated inp := not_or.2 ⟨hhard, hconfirmed⟩
  rw [if_neg hhard, if_neg hconfirmed, if_neg hnot]
  by_cases hcandidate : inp.matchClass = .candidate
  · rw [if_pos hcandidate, if_pos hcandidate, hcandidate]
    exact if_neg fun hp => by simp [caseClasses] at hp
  · have hlikely : ¬ (lowConfidence inp = true ∧ (band (calculateScore inp) = .p0 ∨
        band (calculateScore inp) = .p1)) := fun hlow =>
      Bool.false_ne_true ((h.resolve_left hcandidate).symm.trans hlow.1)
    rw [if_neg hcandidate, if_neg hcandidate, if_neg hlikely]

/-- What the matcher answers is likely. -/
theorem likely_evaluate [Packaging] (c : ParsedComponent) (advisory : OsvAdvisory)
    (assetContext : Option AssetContext) (scannerEvidence : Option ScannerEvidence)
    (vexStatus : Option String) (uuid : String) :
    Likely (evaluate c advisory assetContext scannerEvidence vexStatus uuid).matchClass
      (evaluate c advisory assetContext scannerEvidence vexStatus uuid).confidence := by
  have hvex : ∀ {r}, vexResult vexStatus uuid = some r → Likely r.matchClass r.confidence := by
    intro r h
    unfold vexResult at h
    split_ifs at h <;> cases h <;> exact likely_of_le _ (by norm_num [ExposureResult.plain])
  have hrange : ∀ {r}, rangeResult c advisory uuid = some r →
      Likely r.matchClass r.confidence := by
    intro r h
    unfold rangeResult at h
    split at h
    · dsimp only at h
      split_ifs at h <;> cases h
      · exact Or.inl rfl
      · exact likely_of_le _ (by norm_num [deterministicResult])
      · exact likely_of_le _ (by norm_num [ExposureResult.plain])
    · cases h
  have hfallback : Likely (fallbackResult c assetContext).matchClass
      (fallbackResult c assetContext).confidence := by
    unfold fallbackResult
    split
    · split
      · exact likely_of_le _ (by norm_num [ExposureResult.plain])
      · exact Or.inl rfl
    · exact Or.inl rfl
    · exact Or.inl rfl
  unfold evaluate
  split
  · exact likely_of_le _ (by norm_num [scannerResult])
  · split
    · exact hvex ‹_›
    · split
      · exact hrange ‹_›
      · exact hfallback

/-! ## The asset -/

/-- The input with what the inventory knows of the asset. -/
def PolicyInput.onAsset (inp : PolicyInput) (asset : Asset) : PolicyInput :=
  { inp with
    assetCriticality := asset.criticality
    internetExposure := asset.internetExposure.getD "internal" }

/-- The asset makes no difference: a confirmed match in the catalogue is urgent anyhow; where only
    the asset makes the match urgent, its score is at the top without it; and elsewhere the asset
    moves the score across no edge that counts. -/
def AssetCounted (inp : PolicyInput) (asset : Asset) : Prop :=
  confirmedEscalation inp = true ∨
    if hardEscalation (inp.onAsset asset) then 90 ≤ calculateScore inp
    else ∀ edge ∈ edges inp.matchClass,
      (edge ≤ calculateScore inp ↔ edge ≤ calculateScore (inp.onAsset asset))

omit [Python] in
theorem matchClass_of_hardEscalation {inp : PolicyInput} (h : hardEscalation inp = true) :
    inp.matchClass ∈ caseClasses := by
  simp only [hardEscalation, Bool.and_eq_true, Bool.or_eq_true, beq_iff_eq] at h
  obtain ⟨⟨-, hclass⟩, -⟩ := h
  simp only [caseClasses, List.mem_cons, List.not_mem_nil, or_false]
  exact hclass.symm

/-- Without the asset the policy gives the priority it would give with it exactly when the asset is
    counted. -/
theorem uplifted_onAsset_iff {inp : PolicyInput} (asset : Asset)
    (h : Likely inp.matchClass inp.matchConfidence) (hhard : hardEscalation inp = false) :
    uplifted inp = uplifted (inp.onAsset asset) ↔ AssetCounted inp asset := by
  have hclass : (inp.onAsset asset).matchClass = inp.matchClass := rfl
  have hwithout : Escalated inp ↔ confirmedEscalation inp = true := by simp [Escalated, hhard]
  have hwith : Escalated (inp.onAsset asset) ↔
      hardEscalation (inp.onAsset asset) = true ∨ confirmedEscalation inp = true := Iff.rfl
  have hlikely : Likely (inp.onAsset asset).matchClass (inp.onAsset asset).matchConfidence := h
  rw [uplifted_eq h, uplifted_eq hlikely, hclass]
  simp only [hwithout, hwith]
  unfold AssetCounted
  by_cases hurgent : confirmedEscalation inp = true
  · simp [hurgent]
  by_cases hasset : hardEscalation (inp.onAsset asset) = true
  · have hcase : inp.matchClass ∈ caseClasses :=
      hclass ▸ matchClass_of_hardEscalation hasset
    simp [hurgent, hasset, grade_eq_p0_iff hcase]
  · simp [hurgent, hasset, grade_eq_iff]

/-! ## Stored priorities -/

/-- What `_priority_for` asks the policy about a finding, over the rows `h`. -/
def Finding.input (f : Finding) (s : Sources) (h : Hub) : PolicyInput :=
  policyInput f.vulnerabilityId f.result.matchClass f.result.confidence
    (s.isKev h f.vulnerabilityId) (s.epssFor f.vulnerabilityId)

omit [Python] in
/-- The asset a finding is bound to. -/
def Finding.asset (f : Finding) (h : Hub) : Option Asset := f.assetId.bind h.assets.find?

/-- The round of a finding, from `h₁` to `h₂`, goes by the policy's answer for its asset: with the
    exposure it stores, and with the case it opens, if it opens one. -/
structure Finding.FollowsAsset (f : Finding) (s : Sources) (h : Hub) (asset : Asset)
    (h₁ h₂ : Hub) : Prop where
  exposure : ∃ e, h₂.exposureAt f.key = some e ∧
    e.priority = some (uplifted ((f.input s h).onAsset asset))
  cases : ∀ c ∈ h₂.cases.rows, h₁.case? c.id = none →
    c.priority = (uplifted ((f.input s h).onAsset asset)).value

variable {o : Handling} {eventId : String} {i : ℕ} {f : Finding} {h h₁ h₂ : Hub}

/-- A round goes by the answer for the asset when the asset makes no difference to it. -/
theorem Finding.Round.followsAsset_iff (hround : f.Round o eventId i h₁ h₂)
    (hsame : SameInputs h h₁) (asset : Asset) : f.FollowsAsset o.sources h asset h₁ h₂ ↔
      uplifted (f.input o.sources h) = uplifted ((f.input o.sources h).onAsset asset) := by
  have hpriority : f.priority o.sources h₁ = uplifted (f.input o.sources h) := hsame.priority f _
  have hstored : (f.outcome o eventId i h₁).priority = some (uplifted (f.input o.sources h)) := by
    rw [Finding.priority_outcome, hpriority]
  constructor
  · intro hfollows
    obtain ⟨e, he, hanswer⟩ := hfollows.exposure
    rw [hround.exposureAt] at he
    cases he
    exact Option.some.inj (hstored.symm.trans hanswer)
  · intro heq
    refine ⟨⟨_, hround.exposureAt, by rw [hstored, heq]⟩, fun c hc hnew => ?_⟩
    rw [(hround.of_new_case hc hnew).1, hpriority, heq]

variable [Packaging] {event : OutboxEvent}

/-- What a bill of materials finds is likely. -/
theorem likely_of_sbomFound {fs : List Finding} (hfs : sbomFound o event h = .ok fs)
    (hf : f ∈ fs) : Likely f.result.matchClass f.result.confidence := by
  obtain ⟨_, _, _, _, rfl⟩ := mem_sbomFound hfs hf
  exact likely_evaluate _ _ _ _ _ _

/-- **Escalation of stored exposures.** A bill of materials is handled to its end. A finding that is
    bound to an asset is stored, and its case opened, with the policy's answer for that asset exactly
    when the asset makes no difference to the answer. -/
theorem storedPriority_followsAsset_iff
    (htype : event.eventType = "vulnops.sbom.processed.v1") {summary : String} {t : Session Hub}
    (hrun : (handleSbomProcessed o event).run (Session.fresh h) = (.returned summary, t))
    {pre post : List Finding} (hfs : sbomFound o event h = .ok (pre ++ f :: post)) :
    ∃ h₁ h₂, Rounds o event.id 0 pre h h₁ ∧ f.Round o event.id pre.length h₁ h₂ ∧
      Rounds o event.id (pre.length + 1) post h₂ t.db ∧
      ((∀ g ∈ post, g.key ≠ f.key) → t.db.exposureAt f.key = h₂.exposureAt f.key) ∧
      ((∀ asset, f.asset h = some asset → f.FollowsAsset o.sources h asset h₁ h₂) ↔
        ∀ asset, f.asset h = some asset → AssetCounted (f.input o.sources h) asset) := by
  have hhandler : handlerOf event.eventType = some handleSbomProcessed := by
    rw [htype]
    rfl
  have hfound : findingsOf o event h = sbomFound o event h := by
    unfold findingsOf
    rw [if_pos htype]
  obtain ⟨fs, h', hfs', rfl, hrounds⟩ := rounds_of_returned hhandler hrun
  rw [hfound, hfs] at hfs'
  cases hfs'
  obtain ⟨h₁, h₂, hpre, hround, hpost⟩ := hrounds.split
  rw [Nat.zero_add] at hround hpost
  refine ⟨h₁, h₂, hpre, hround, hpost, fun hlast => hpost.exposureAt_of_ne hlast, ?_⟩
  have hlikely : Likely (f.input o.sources h).matchClass (f.input o.sources h).matchConfidence :=
    likely_of_sbomFound hfs (by simp)
  -- without the asset its criticality counts as medium
  have hhard : hardEscalation (f.input o.sources h) = false := by
    simp [hardEscalation, Finding.input, policyInput]
  refine forall_congr' fun asset => imp_congr_right fun _ => ?_
  rw [hround.followsAsset_iff hpre.sameInputs, uplifted_onAsset_iff asset hlikely hhard]

end Policy

/-- The vulnerability of the package is in the catalogue. -/
def sampleExploited : Sources :=
  { sampleSources [sampleAdvisory [sampleAffected "PyPI" "pkg:pypi/urllib3"]] with
    kev := some ⟨some ["GHSA-1"]⟩ }

theorem sampleExploited_run : ∃ summary t, (@handleSbomProcessed asciiPython dottedPackaging
    (sampleHandling sampleExploited) sampleSbomEvent).run (Session.fresh sampleInventory)
      = (.returned summary, t) :=
  Program.exists_run_of_isReturned (by decide +kernel)

theorem sampleExploited_found : ∃ f, @sbomFound asciiPython dottedPackaging
    (sampleHandling sampleExploited) sampleSbomEvent sampleInventory = .ok [f] ∧
    f.asset sampleInventory = some sampleCritical ∧
    sampleExploited.isKev sampleInventory f.vulnerabilityId = true ∧
    f.result.matchClass ∈ caseClasses ∧ 7 / 10 ≤ f.result.confidence :=
  ⟨_, rfl, by decide +kernel, by decide +kernel, by decide +kernel, by decide +kernel⟩

/-- The asset is critical and faces the internet, but the exposure is not urgent. -/
theorem escalation_not_stored : ¬ ∀ (_ : Python) (_ : Packaging) (o : Handling)
    (event : OutboxEvent) (h : Hub) (summary : String) (t : Session Hub) (f : Finding)
    (asset : Asset), event.eventType = "vulnops.sbom.processed.v1" →
    (handleSbomProcessed o event).run (Session.fresh h) = (.returned summary, t) →
    sbomFound o event h = .ok [f] → f.asset h = some asset → asset.criticality = "critical" →
    asset.internetExposure = some "external" →
    o.sources.isKev h f.vulnerabilityId = true → f.result.matchClass ∈ caseClasses →
    7 / 10 ≤ f.result.confidence →
    ∃ e, t.db.exposureAt f.key = some e ∧ e.priority = some .p0 := by
  intro h
  obtain ⟨summary, t, hrun⟩ := sampleExploited_run
  obtain ⟨f, hfound, hasset, hkev, hclass, hconfidence⟩ := sampleExploited_found
  have hstored : ∀ e ∈ ((@handleSbomProcessed asciiPython dottedPackaging
      (sampleHandling sampleExploited) sampleSbomEvent).run
        (Session.fresh sampleInventory)).2.db.exposures.rows, e.priority = some .p3 := by
    decide +kernel
  obtain ⟨e, he, hp0⟩ := h asciiPython dottedPackaging _ _ _ _ _ _ _ rfl hrun hfound hasset rfl rfl
    hkev hclass hconfidence
  rw [hrun] at hstored
  have hp3 := hstored e (Hub.exposureAt_eq_some he).1
  rw [hp0] at hp3
  cases hp3

/-- Its round goes by the medium asset. -/
theorem storedPriority_followsAsset_iff_critical : ∃ (f : Finding) (h₁ h₂ : Hub),
    f.asset sampleInventory = some sampleCritical ∧
    @Finding.Round asciiPython (sampleHandling sampleExploited) "evt_1" 0 f h₁ h₂ ∧
    ((∀ asset, f.asset sampleInventory = some asset →
      @Finding.FollowsAsset asciiPython f sampleExploited sampleInventory asset h₁ h₂) ↔
      ∀ asset, f.asset sampleInventory = some asset →
        AssetCounted (f.input sampleExploited sampleInventory) asset) := by
  obtain ⟨summary, t, hrun⟩ := sampleExploited_run
  obtain ⟨f, hfound, hasset, -⟩ := sampleExploited_found
  obtain ⟨h₁, h₂, -, hround, -, -, hiff⟩ := @storedPriority_followsAsset_iff asciiPython
    (sampleHandling sampleExploited) f sampleInventory dottedPackaging sampleSbomEvent rfl summary t
    hrun [] [] hfound
  exact ⟨f, h₁, h₂, hasset, hround, hiff⟩

end VulnOpsHub
