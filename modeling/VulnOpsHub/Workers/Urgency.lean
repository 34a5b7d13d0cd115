import VulnOpsHub.Workers.Priorities

set_option autoImplicit false

/-! # Urgency

The answer of the policy against the order of its inputs: a factor that gets worse never makes a
vulnerability less urgent, neither in the policy nor after the uplift of `_priority_for`. All that
matters of the arithmetic is that rounding keeps the order, so the answer is monotone over exact
numbers and in double precision alike. -/

namespace VulnOpsHub

open RiskPolicyEngine (band candidateBand calculateScore hardEscalation confirmedEscalation
  criticalityWeight exposureWeight downgrade lowConfidence weightedExploitability)

/-! ## Scales -/

/-- `b` stands on the scale where `a` does, or after it. -/
def Rises {α : Type} (scale : List α) (a b : α) : Prop := a = b ∨ [a, b].Sublist scale

/-- What holds of a value and every later one holds along the scale. -/
theorem Rises.of_pairwise {α : Type} {scale : List α} {a b : α} {R : α → α → Prop}
    (hrefl : ∀ x, R x x) (hscale : scale.Pairwise R) (h : Rises scale a b) : R a b := by
  rcases h with rfl | h
  · exact hrefl a
  · simpa using hscale.sublist h

def criticalityScale : List String := ["low", "medium", "high", "critical"]

def exposureScale : List String := ["internal", "unknown", "external"]

def classScale : List MatchClass := [.candidate, .corroborated, .deterministic, .confirmed]

/-- More critical assets weigh more, and nothing is above the critical ones. -/
theorem criticality_rises {a b : String} (h : Rises criticalityScale a b) :
    criticalityWeight a ≤ criticalityWeight b ∧ (a = "critical" → b = "critical") := by
  refine Rises.of_pairwise (R := fun a b => criticalityWeight a ≤ criticalityWeight b ∧
    (a = "critical" → b = "critical")) (fun _ => ⟨le_rfl, id⟩) ?_ h
  simp [criticalityScale, criticalityWeight]
  norm_num

/-- Likewise for the exposure of an asset. -/
theorem exposure_rises {a b : String} (h : Rises exposureScale a b) :
    exposureWeight a ≤ exposureWeight b ∧ (a = "external" → b = "external") := by
  refine Rises.of_pairwise (R := fun a b => exposureWeight a ≤ exposureWeight b ∧
    (a = "external" → b = "external")) (fun _ => ⟨le_rfl, id⟩) ?_ h
  simp [exposureScale, exposureWeight]
  norm_num

/-- A class that opens cases stays one on the way up, a confirmed match stays confirmed, and no
    class becomes a candidate. -/
theorem class_rises {a b : MatchClass} (h : Rises classScale a b) :
    (a ∈ caseClasses → b ∈ caseClasses) ∧ (a = .confirmed → b = .confirmed) ∧
      (b = .candidate → a = .candidate) := by
  refine Rises.of_pairwise (R := fun a b => (a ∈ caseClasses → b ∈ caseClasses) ∧
    (a = .confirmed → b = .confirmed) ∧ (b = .candidate → a = .candidate))
    (fun _ => ⟨id, id, id⟩) ?_ h
  simp [classScale, caseClasses]

/-! ## Worse inputs -/

/-- Every factor of `inp'` is as bad as that of `inp`, or worse; a missing score counts as zero. -/
structure PolicyInput.AsBad (inp inp' : PolicyInput) : Prop where
  kev : inp.kev = true → inp'.kev = true
  epssScore : inp.epssScore.UpTo inp'.epssScore
  epssPercentile : (inp.epssPercentile.getD 0).UpTo (inp'.epssPercentile.getD 0)
  cvssScore : (inp.cvssScore.getD 0).UpTo (inp'.cvssScore.getD 0)
  matchConfidence : inp.matchConfidence.UpTo inp'.matchConfidence
  assetCriticality : Rises criticalityScale inp.assetCriticality inp'.assetCriticality
  internetExposure : Rises exposureScale inp.internetExposure inp'.internetExposure
  matchClass : Rises classScale inp.matchClass inp'.matchClass

theorem PolicyInput.AsBad.refl (inp : PolicyInput) : inp.AsBad inp :=
  ⟨id, .refl _, .refl _, .refl _, .refl _, Or.inl rfl, Or.inl rfl, Or.inl rfl⟩

/-- One factor gets worse and the others stay as they are. -/
inductive PolicyInput.Worsens (inp : PolicyInput) : PolicyInput → Prop
  | kev (h : inp.kev = false) : Worsens inp { inp with kev := true }
  | epssScore (score : Number) (h : inp.epssScore.le score = true) :
      Worsens inp { inp with epssScore := score }
  | epssPercentile (percentile : Option Number)
      (h : (inp.epssPercentile.getD 0).le (percentile.getD 0) = true) :
      Worsens inp { inp with epssPercentile := percentile }
  | cvssScore (score : Option Number) (h : (inp.cvssScore.getD 0).le (score.getD 0) = true) :
      Worsens inp { inp with cvssScore := score }
  | matchConfidence (confidence : Number) (h : inp.matchConfidence.le confidence = true) :
      Worsens inp { inp with matchConfidence := confidence }
  | assetCriticality (criticality : String)
      (h : Rises criticalityScale inp.assetCriticality criticality) :
      Worsens inp { inp with assetCriticality := criticality }
  | internetExposure (exposure : String)
      (h : Rises exposureScale inp.internetExposure exposure) :
      Worsens inp { inp with internetExposure := exposure }
  | matchClass (matchClass : MatchClass) (h : Rises classScale inp.matchClass matchClass) :
      Worsens inp { inp with matchClass := matchClass }

theorem PolicyInput.Worsens.asBad {inp inp' : PolicyInput} (h : inp.Worsens inp') :
    inp.AsBad inp' := by
  have hrefl := PolicyInput.AsBad.refl inp
  induction h with
  | kev => exact { hrefl with kev := fun _ => rfl }
  | epssScore _ h => exact { hrefl with epssScore := Or.inr h }
  | epssPercentile _ h => exact { hrefl with epssPercentile := Or.inr h }
  | cvssScore _ h => exact { hrefl with cvssScore := Or.inr h }
  | matchConfidence _ h => exact { hrefl with matchConfidence := Or.inr h }
  | assetCriticality _ h => exact { hrefl with assetCriticality := h }
  | internetExposure _ h => exact { hrefl with internetExposure := h }
  | matchClass _ h => exact { hrefl with matchClass := h }

variable {inp inp' : PolicyInput} {r : Rounding}

/-- A percentile of zero adds nothing anyway. -/
theorem weightedExploitability_eq (hr : r.Lawful) (inp : PolicyInput) :
    weightedExploitability inp r = ((inp.epssScore.round r).scale r 20).add r
      (((inp.epssPercentile.getD 0).round r).scale r 5) := by
  unfold weightedExploitability
  dsimp only
  split_ifs with hzero
  · have hnothing : (0 : Number).scale r 5 = 0 := by
      rw [Number.zero_def, Number.scale, mul_zero]
      exact hr.zero
    rw [hzero, hnothing, (Number.Of.scale hr _ _).add_zero]
  · rfl

theorem PolicyInput.AsBad.weightedExploitability_atMost (hr : r.Lawful) (h : inp.AsBad inp') :
    (weightedExploitability inp r).AtMost (weightedExploitability inp' r) := by
  rw [weightedExploitability_eq hr, weightedExploitability_eq hr]
  exact ((h.epssScore.round hr).atMost.scale hr (by norm_num)).add hr
    ((h.epssPercentile.round hr).atMost.scale hr (by norm_num))

/-- The clamp keeps the order of the sums, and every term of the sum grows with its factor. -/
theorem PolicyInput.AsBad.calculateScore_le (hr : r.Lawful) (h : inp.AsBad inp') :
    calculateScore inp r ≤ calculateScore inp' r := by
  have hcvss := (h.cvssScore.round hr).atMost.scale hr (by norm_num : (0 : ℚ) < 5)
  have hasset : (Number.finite (criticalityWeight inp.assetCriticality
        + exposureWeight inp.internetExposure)).AtMost
      (.finite (criticalityWeight inp'.assetCriticality + exposureWeight inp'.internetExposure)) :=
    add_le_add (criticality_rises h.assetCriticality).1 (exposure_rises h.internetExposure).1
  have hconfidence := ((h.matchConfidence.round hr).atMost.add hr
    (Number.AtMost.refl (Number.neg (.finite (1 / 2))))).scale hr (by norm_num : (0 : ℚ) < 10)
  exact (((hcvss.add hr (h.weightedExploitability_atMost hr)).add hr hasset).add hr
    hconfidence).clamp_le 0 100

/-- The hard rules ask for the worst of each factor they name. -/
theorem PolicyInput.AsBad.escalated (hr : r.Lawful) (h : inp.AsBad inp') (he : Escalated inp r) :
    Escalated inp' r := by
  obtain ⟨hcase, hconfirmed, -⟩ := class_rises h.matchClass
  have hcritical := (criticality_rises h.assetCriticality).2
  have hexternal := (exposure_rises h.internetExposure).2
  simp only [Escalated, hardEscalation, confirmedEscalation, Bool.and_eq_true, Bool.or_eq_true,
    beq_iff_eq] at he ⊢
  simp only [caseClasses, List.mem_cons, List.not_mem_nil, or_false] at hcase
  rcases he with ⟨⟨⟨⟨hkev, hc⟩, hx⟩, hclass⟩, hlikely⟩ | ⟨⟨hkev, hclass⟩, hepss⟩
  · exact Or.inl ⟨⟨⟨⟨h.kev hkev, hcritical hc⟩, hexternal hx⟩, (hcase hclass.symm).symm⟩,
      (h.matchConfidence.round hr).le_of_le hlikely⟩
  · exact Or.inr ⟨⟨h.kev hkev, hconfirmed hclass⟩, (h.epssScore.round hr).lt_of_lt hepss⟩

/-! ## The answer -/

theorem rank_le_downgrade (p : Priority) : p.rank ≤ (downgrade p).rank := by
  cases p <;> decide

theorem rank_downgrade_le {p p' : Priority} (h : p'.rank ≤ p.rank) :
    (downgrade p').rank ≤ (downgrade p).rank := by
  cases p <;> cases p' <;> revert h <;> decide

theorem rank_band_le {s s' : ℚ} (h : s ≤ s') : (band s').rank ≤ (band s).rank :=
  (rank_band_le_iff s s').2 ⟨h.trans', h.trans', h.trans', h.trans'⟩

/-- Even a downgraded score is as urgent as the same score of a candidate. -/
theorem rank_downgrade_band_le (s : ℚ) : (downgrade (band s)).rank ≤ (candidateBand s).rank := by
  unfold band candidateBand
  split_ifs <;> simp [downgrade, Priority.rank]

/-- The normal path: a band, one tier lower when the match is hardly likely. -/
def tempered (low : Bool) (score : ℚ) : Priority :=
  if low then downgrade (band score) else band score

theorem rank_tempered_le {low low' : Bool} {s s' : ℚ} (hlow : low' = true → low = true)
    (hs : s ≤ s') : (tempered low' s').rank ≤ (tempered low s).rank := by
  have hband := rank_band_le hs
  unfold tempered
  split_ifs with h' h h
  · exact rank_downgrade_le hband
  · exact absurd (hlow h') h
  · exact hband.trans (rank_le_downgrade _)
  · exact hband

theorem rank_tempered_le_candidateBand {low : Bool} {s s' : ℚ} (hs : s ≤ s') :
    (tempered low s').rank ≤ (candidateBand s).rank := by
  have htempered : (tempered low s').rank ≤ (downgrade (band s')).rank := by
    unfold tempered
    split_ifs
    · exact le_rfl
    · exact rank_le_downgrade _
  exact htempered.trans ((rank_downgrade_le (rank_band_le hs)).trans (rank_downgrade_band_le s))

section Policy

variable [Python]

/-- The three paths of the policy. -/
theorem evaluate_priority (inp : PolicyInput) (r : Rounding) :
    (RiskPolicyEngine.evaluate inp r).priority =
      if Escalated inp r then .p0
      else if inp.matchClass = .candidate then candidateBand (calculateScore inp r)
      else tempered (lowConfidence inp r) (calculateScore inp r) := by
  have hkeep : ∀ p : Priority, ¬ (p = .p0 ∨ p = .p1) → downgrade p = p := by
    intro p hp
    cases p <;> simp_all [downgrade]
  unfold RiskPolicyEngine.evaluate tempered
  by_cases hhard : hardEscalation inp r = true
  · have hescalated : Escalated inp r := Or.inl hhard
    rw [if_pos hhard, if_pos hescalated]
  by_cases hconfirmed : confirmedEscalation inp r = true
  · have hescalated : Escalated inp r := Or.inr hconfirmed
    rw [if_neg hhard, if_pos hconfirmed, if_pos hescalated]
  have hnot : ¬ Escalated inp r := not_or.2 ⟨hhard, hconfirmed⟩
  rw [if_neg hhard, if_neg hconfirmed, if_neg hnot]
  by_cases hcandidate : inp.matchClass = .candidate
  · rw [if_pos hcandidate, if_pos hcandidate]
  rw [if_neg hcandidate, if_neg hcandidate]
  by_cases hlow : lowConfidence inp r = true
  · by_cases htop : band (calculateScore inp r) = .p0 ∨ band (calculateScore inp r) = .p1
    · rw [if_pos ⟨hlow, htop⟩, if_pos hlow]
    · -- The map of downgrades leaves the lower bands as they are.
      rw [if_neg fun h => htop h.2, if_pos hlow, hkeep _ htop]
  · rw [if_neg fun h => hlow h.1, if_neg hlow]

/-- The worse input gets the more urgent answer. -/
theorem PolicyInput.AsBad.rank_evaluate_le (hr : r.Lawful) (h : inp.AsBad inp') :
    (RiskPolicyEngine.evaluate inp' r).priority.rank ≤
      (RiskPolicyEngine.evaluate inp r).priority.rank := by
  have hscore := h.calculateScore_le hr
  rw [evaluate_priority, evaluate_priority]
  by_cases he' : Escalated inp' r
  · rw [if_pos he']
    exact Nat.zero_le _
  rw [if_neg he', if_neg (mt (h.escalated hr) he')]
  by_cases hcandidate' : inp'.matchClass = .candidate
  · rw [if_pos hcandidate', if_pos ((class_rises h.matchClass).2.2 hcandidate')]
    exact (rank_candidateBand_le_iff _ _).2 ⟨hscore.trans', hscore.trans'⟩
  rw [if_neg hcandidate']
  by_cases hcandidate : inp.matchClass = .candidate
  · rw [if_pos hcandidate]
    exact rank_tempered_le_candidateBand hscore
  · rw [if_neg hcandidate]
    exact rank_tempered_le (h.matchConfidence.round hr).lt_of_lt' hscore

omit [Python] in
/-- The uplift keeps the order, for a class that opens cases stays one on the way up. -/
theorem rank_uplift_le {c c' : MatchClass} {p p' : Priority}
    (hclass : c ∈ caseClasses → c' ∈ caseClasses) (h : p'.rank ≤ p.rank) :
    (uplift c' p').rank ≤ (uplift c p).rank := by
  unfold uplift
  split_ifs with h' hp hp
  · exact le_rfl
  · have hnot : p ≠ .p4 ∨ c ∉ caseClasses := by tauto
    rcases hnot with hne | hnot
    · rw [h'.1] at h
      cases p <;> simp_all [Priority.rank]
    · rw [h'.1] at h
      exact le_trans (by decide) h
  · have hne : p' ≠ .p4 := fun he => h' ⟨he, hclass hp.2⟩
    cases p' <;> simp_all [Priority.rank]
  · exact h

/-- No factor that gets worse makes the answer less urgent, before or after the uplift. -/
theorem PolicyInput.Worsens.rank_le (hr : r.Lawful) (h : inp.Worsens inp') :
    (RiskPolicyEngine.evaluate inp' r).priority.rank ≤
        (RiskPolicyEngine.evaluate inp r).priority.rank ∧
      (uplift inp'.matchClass (RiskPolicyEngine.evaluate inp' r).priority).rank ≤
        (uplift inp.matchClass (RiskPolicyEngine.evaluate inp r).priority).rank :=
  ⟨h.asBad.rank_evaluate_le hr,
    rank_uplift_le (class_rises h.asBad.matchClass).1 (h.asBad.rank_evaluate_le hr)⟩

/-- Priority is monotone over exact numbers: no factor that gets worse makes the answer of the
    policy, or what `_priority_for` makes of it, less urgent. -/
theorem rank_le_of_worsens (h : inp.Worsens inp') :
    (RiskPolicyEngine.evaluate inp' unrounded).priority.rank ≤
        (RiskPolicyEngine.evaluate inp unrounded).priority.rank ∧
      (uplift inp'.matchClass (RiskPolicyEngine.evaluate inp' unrounded).priority).rank ≤
        (uplift inp.matchClass (RiskPolicyEngine.evaluate inp unrounded).priority).rank :=
  h.rank_le unrounded_lawful

/-- Priority is monotone in double precision too. -/
theorem PolicyInput.Worsens.rank_uplifted_le (h : inp.Worsens inp') :
    (uplifted inp').rank ≤ (uplifted inp).rank :=
  (h.rank_le binary64_lawful).2

end Policy

/-- A match on a critical asset that faces the internet. -/
def exposedInput : PolicyInput where
  vulnerabilityId := "CVE-2024-3094"
  assetCriticality := "critical"
  internetExposure := "external"

/-- An entry in the catalogue makes it urgent. -/
theorem rank_le_of_worsens_kev :
    (@RiskPolicyEngine.evaluate asciiPython { exposedInput with kev := true } unrounded).priority.rank ≤
        (@RiskPolicyEngine.evaluate asciiPython exposedInput unrounded).priority.rank ∧
      (uplift .deterministic (@RiskPolicyEngine.evaluate asciiPython
          { exposedInput with kev := true } unrounded).priority).rank ≤
        (uplift .deterministic (@RiskPolicyEngine.evaluate asciiPython
          exposedInput unrounded).priority).rank :=
  @rank_le_of_worsens exposedInput { exposedInput with kev := true } asciiPython
    (PolicyInput.Worsens.kev rfl)

end VulnOpsHub
