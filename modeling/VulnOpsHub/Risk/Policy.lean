import VulnOpsHub.Lib.Floats
import VulnOpsHub.Matching.Service

set_option autoImplicit false

/-! # The risk policy

`RiskPolicyEngine` (`risk/policy.py`): hard escalation rules first, then a score of impact,
exploitability, asset context and confidence. The source computes in double precision; the rounding
is a parameter here, so that the policy can also be read with exact numbers. Numbers of the input may
be given as decimals, and are rounded where they are read. The explanation text, which nothing reads,
is left out. -/

namespace VulnOpsHub

/-- A priority, `P0` being the most urgent. -/
inductive Priority where
  | p0
  | p1
  | p2
  | p3
  | p4
deriving DecidableEq, Repr

namespace Priority

def value : Priority → String
  | .p0 => "P0"
  | .p1 => "P1"
  | .p2 => "P2"
  | .p3 => "P3"
  | .p4 => "P4"

/-- The place in the order of urgency, the most urgent first. -/
def rank : Priority → ℕ
  | .p0 => 0
  | .p1 => 1
  | .p2 => 2
  | .p3 => 3
  | .p4 => 4

end Priority

structure PolicyInput where
  vulnerabilityId : String
  kev : Bool := false
  epssScore : Number := 0
  epssPercentile : Option Number := none
  cvssScore : Option Number := none
  cvssVector : Option String := none
  assetCriticality : String := "medium"
  internetExposure : String := "internal"
  matchConfidence : Number := .finite (9 / 10)
  matchClass : MatchClass := .deterministic
  ageDays : Option ℤ := none
  dataSensitivity : Option String := none
deriving DecidableEq, Repr

/-- A value of the audit record. -/
inductive Factor where
  | flag (b : Bool)
  | number (x : Option Number)
  | text (s : Option String)
deriving DecidableEq, Repr

structure PolicyResult where
  priority : Priority
  policyVersion : String
  escalated : Bool
  factors : List (String × Factor)
  reasons : List String
  score : ℚ

namespace RiskPolicyEngine

/-- The default `policy_version` of the engine. -/
def policyVersion : String := "risk-2026-09-01"

/-- `criticality_weights.get(asset_criticality, 5)`. -/
def criticalityWeight (criticality : String) : ℚ :=
  if criticality = "critical" then 20
  else if criticality = "high" then 15
  else if criticality = "medium" then 10
  else 5

/-- `exposure_weights.get(internet_exposure, 2)`. -/
def exposureWeight (exposure : String) : ℚ :=
  if exposure = "external" then 10
  else if exposure = "unknown" then 5
  else 2

section Arithmetic

variable (inp : PolicyInput) (r : Rounding := binary64)

/-- The part of the score that EPSS contributes; a percentile of zero counts as none. -/
def weightedExploitability : Number :=
  let score := (inp.epssScore.round r).scale r 20
  let percentile := (inp.epssPercentile.getD 0).round r
  if percentile = 0 then score else score.add r (percentile.scale r 5)

/-- `_calculate_score`. -/
def calculateScore : ℚ :=
  let weightedImpact := ((inp.cvssScore.getD 0).round r).scale r 5
  let weightedAsset := criticalityWeight inp.assetCriticality + exposureWeight inp.internetExposure
  let confidenceAdj := ((inp.matchConfidence.round r).sub r (.finite (1 / 2))).scale r 10
  let total := ((weightedImpact.add r (weightedExploitability inp r)).add r (.finite weightedAsset)).add
    r confidenceAdj
  total.clamp 0 100

/-- KEV on a critical asset that faces the internet. -/
def hardEscalation : Bool :=
  inp.kev && inp.assetCriticality == "critical" && inp.internetExposure == "external" &&
    (inp.matchClass == .deterministic || inp.matchClass == .confirmed) &&
    (r (7 / 10)).le (inp.matchConfidence.round r)

/-- Confirmed, in KEV and likely to be exploited. -/
def confirmedEscalation : Bool :=
  inp.kev && inp.matchClass == .confirmed && Number.lt (.finite (1 / 2)) (inp.epssScore.round r)

/-- The match is hardly likely. -/
def lowConfidence : Bool := (inp.matchConfidence.round r).lt (.finite (1 / 2))

end Arithmetic

/-- The priority bands of the normal path. -/
def band (score : ℚ) : Priority :=
  if 90 ≤ score then .p0
  else if 70 ≤ score then .p1
  else if 40 ≤ score then .p2
  else if 20 ≤ score then .p3
  else .p4

/-- The bands of a candidate, which is never urgent. -/
def candidateBand (score : ℚ) : Priority :=
  if 70 ≤ score then .p2
  else if 40 ≤ score then .p3
  else .p4

/-- `downgrade_map.get(priority, priority)`. -/
def downgrade : Priority → Priority
  | .p0 => .p1
  | .p1 => .p2
  | priority => priority

/-- The inputs, captured for audit. -/
def factors (inp : PolicyInput) : List (String × Factor) :=
  [("kev", .flag inp.kev), ("epss", .number inp.epssScore),
    ("epss_percentile", .number inp.epssPercentile), ("cvss", .number inp.cvssScore),
    ("cvss_vector", .text inp.cvssVector), ("asset_criticality", .text inp.assetCriticality),
    ("internet_exposure", .text inp.internetExposure),
    ("match_confidence", .number inp.matchConfidence), ("match_class", .text inp.matchClass.value)]

/-- The text of a float. -/
def floatText [Python] : Number → String
  | .finite x => pyStr (.float x)
  | .infinite negative => if negative then "-inf" else "inf"
  | .nan => "nan"

/-- `evaluate`. -/
def evaluate [Python] (inp : PolicyInput) (r : Rounding := binary64) : PolicyResult :=
  if hardEscalation inp r then
    { priority := .p0
      policyVersion := policyVersion
      escalated := true
      factors := factors inp ++ [("hard_escalation", .text "kev_critical_internet")]
      reasons := ["kev_escalation"]
      score := 100 }
  else if confirmedEscalation inp r then
    { priority := .p0
      policyVersion := policyVersion
      escalated := true
      factors := factors inp ++ [("hard_escalation", .text "kev_confirmed_high_epss")]
      reasons := ["kev_confirmed"]
      score := 95 }
  else
    let score := calculateScore inp r
    if inp.matchClass = .candidate then
      { priority := candidateBand score
        policyVersion := policyVersion
        escalated := false
        factors := factors inp ++
          [("candidate_limitation", .text "candidate matches require review, cannot be P0")]
        reasons := ["candidate_requires_review"]
        score := score }
    else if lowConfidence inp r ∧ (band score = .p0 ∨ band score = .p1) then
      { priority := downgrade (band score)
        policyVersion := policyVersion
        escalated := false
        factors := factors inp
        reasons := ["confidence_adjustment " ++ floatText inp.matchConfidence
          ++ " downgrades " ++ (band score).value ++ "->" ++ (downgrade (band score)).value]
        score := score }
    else
      { priority := band score
        policyVersion := policyVersion
        escalated := false
        factors := factors inp
        reasons := []
        score := score }

/-- In double precision a score of 40 may come out just below. -/
example : calculateScore
    { vulnerabilityId := "CVE-2024-3094"
      epssScore := .finite (94 / 100)
      epssPercentile := some (.finite (88 / 100))
      matchConfidence := .finite (98 / 100) } < 40 := by
  decide +kernel

end RiskPolicyEngine

end VulnOpsHub
