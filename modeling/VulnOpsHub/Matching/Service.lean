import VulnOpsHub.Matching.Versioning

set_option autoImplicit false

/-! # The matching service

`MatchingService` (`matching/service.py`): package identity and the evaluation of a component
against an OSV-shaped advisory. A key an advisory may leave out is an `Option`, or the default the
code reads in its place; confidences are exact. -/

namespace VulnOpsHub

/-! ## Components and advisories -/

/-- A component of a software bill of materials, as the SBOM parser delivers it. -/
structure ParsedComponent where
  rawName : String
  rawVersion : Option String
  purl : Option String
  ecosystem : Option String
  normalizedName : Option String
  cpe : Option String
  versionScheme : Option String
  dependencyPath : Option String
deriving DecidableEq, Repr

structure OsvPackage where
  ecosystem : Option String
  purl : Option String
  name : Option String
deriving DecidableEq, Repr

/-- An event of a range: an object of strings. -/
abbrev OsvEvent := List (String × String)

structure OsvRange where
  type : Option String
  events : List OsvEvent
deriving DecidableEq, Repr

structure OsvAffected where
  package : OsvPackage
  ranges : List OsvRange
  versions : List String
deriving DecidableEq, Repr

/-- An advisory in the shape of OSV. -/
structure OsvAdvisory where
  id : Option String
  vulnerabilityId : Option String
  aliases : Option (List String)
  summary : Option String
  details : Option String
  affected : List OsvAffected
  references : List (Option String)
deriving DecidableEq, Repr

/-- The keys of the scanner evidence the matcher reads. -/
structure ScannerEvidence where
  scannerConfirmed : Json
  findingId : Option Json

/-- The key of the asset context the matcher reads. -/
structure AssetContext where
  secondSignal : Json

/-! ## Results -/

inductive MatchClass where
  | confirmed
  | deterministic
  | corroborated
  | candidate
  | notAffected
deriving DecidableEq, Repr

def MatchClass.value : MatchClass → String
  | .confirmed => "confirmed"
  | .deterministic => "deterministic"
  | .corroborated => "corroborated"
  | .candidate => "candidate"
  | .notAffected => "not_affected"

structure MatchExplanation where
  decision : MatchClass
  confidence : ℚ
  matcherVersion : String
  componentIdentity : Option String
  vulnerability : String
  rules : List String
  evidenceRefs : List String
  limitations : List String
deriving DecidableEq

structure ExposureResult where
  matchClass : MatchClass
  confidence : ℚ
  shouldCreateCase : Bool
  caseId : Option String
  matchedRules : List String
  limitations : List String
  matcherVersion : String
  explanation : Option MatchExplanation
deriving DecidableEq

/-- `MATCHER_VERSION`. -/
def MatchingService.matcherVersion : String := "2026.1"

/-- A result that opens no case and carries no explanation. -/
def ExposureResult.plain (matchClass : MatchClass) (confidence : ℚ)
    (rules limitations : List String) : ExposureResult where
  matchClass := matchClass
  confidence := confidence
  shouldCreateCase := false
  caseId := none
  matchedRules := rules
  limitations := limitations
  matcherVersion := MatchingService.matcherVersion
  explanation := none

/-- `f"case_{uuid.uuid4().hex[:8]}"`. -/
def newCaseId (uuid : String) : String := "case_" ++ String.ofList (uuid.toList.take 8)

section Matching

variable [Python]

/-! ## Package identity -/

/-- `_strip_purl_identity`. -/
def stripPurlIdentity (purl : Option String) : Option String :=
  (nonEmpty purl).map fun purl =>
    let p := splitHead '@' (splitHead '#' (splitHead '?' purl.toList))
    String.ofList ((Python.lower (String.ofList p)).toList.rdropWhile (· = '/'))

/-- A name and, where it has one, its last path segment. -/
def nameForms (name : String) : List String :=
  if '/' ∈ name.toList then [name, String.ofList (splitLast '/' name.toList)] else [name]

/-- The name a component goes by: its normalized name, or else its raw name. -/
def componentName (c : ParsedComponent) : String :=
  strip (Python.lower (orElse c.normalizedName c.rawName))

/-- `_package_identity_matches`. -/
def packageIdentityMatches (c : ParsedComponent) (pkg : OsvPackage) : Bool :=
  match nonEmpty pkg.purl, nonEmpty c.purl with
  | some _, some _ =>
      match nonEmpty (stripPurlIdentity c.purl), nonEmpty (stripPurlIdentity pkg.purl) with
      | some componentId, some affectedId => componentId = affectedId
      | _, _ => false
  | _, _ =>
      match nonEmpty pkg.name with
      | some name => (nameForms (componentName c)).any (· ∈ nameForms (strip (Python.lower name)))
      | none => false

/-! ## Ranges -/

variable [Packaging]

/-- The three scalars the event loop keeps. -/
structure RangeBounds where
  introduced : Option String
  fixed : Option String
  lastAffected : Option String
deriving DecidableEq, Repr

/-- One round of the event loop. -/
def RangeBounds.update (b : RangeBounds) (event : OsvEvent) : RangeBounds where
  introduced := (event.lookup "introduced").or b.introduced
  fixed := (event.lookup "fixed").or b.fixed
  lastAffected := (event.lookup "lastAffected").or b.lastAffected

def eventBounds (events : List OsvEvent) : RangeBounds :=
  events.foldl RangeBounds.update ⟨none, none, none⟩

/-- The body of the loop over an entry's ranges. -/
def rangeContains (version : String) (range : OsvRange) : Bool :=
  let b := eventBounds range.events
  isVersionInRange version b.introduced b.fixed b.lastAffected

omit [Packaging] in
/-- Whether the entry's ecosystem, if it names one, lets the component's `eco` pass. -/
def ecosystemPasses (eco : Option String) (aff : OsvAffected) : Bool :=
  match nonEmpty aff.package.ecosystem with
  | none => true
  | some e => normalizeEcosystem (some e) = eco || normalizeEcosystem (some e) = some "generic"

/-- The loop over the affected entries, with the flags `matched` and `identity_matched`. -/
def matchAffected (c : ParsedComponent) (eco : Option String) (version : String) :
    List OsvAffected → Bool → Bool × Bool
  | [], identityMatched => (false, identityMatched)
  | aff :: rest, identityMatched =>
      if !ecosystemPasses eco aff then matchAffected c eco version rest identityMatched
      else if !packageIdentityMatches c aff.package then
        matchAffected c eco version rest identityMatched
      else if aff.ranges.any (rangeContains version) || aff.versions.contains version then
        (true, true)
      else matchAffected c eco version rest true

/-! ## Evaluation -/

def advisoryId (advisory : OsvAdvisory) : String :=
  orElse advisory.id (orElse advisory.vulnerabilityId "unknown")

/-- Step 1: scanner-confirmed evidence. -/
def scannerResult (c : ParsedComponent) (advisory : OsvAdvisory) (evidence : ScannerEvidence)
    (uuid : String) : ExposureResult where
  matchClass := .confirmed
  confidence := 99 / 100
  shouldCreateCase := true
  caseId := some (newCaseId uuid)
  matchedRules := ["scanner.confirmed", "asset.service-context"]
  limitations := []
  matcherVersion := MatchingService.matcherVersion
  explanation := some
    { decision := .confirmed
      confidence := 99 / 100
      matcherVersion := MatchingService.matcherVersion
      componentIdentity := some (orElse c.purl (orElse c.cpe c.rawName))
      vulnerability := advisoryId advisory
      rules := ["scanner.confirmed"]
      evidenceRefs := [pyStr (evidence.findingId.getD (.str "ev_scanner"))]
      limitations := [] }

/-- Step 2: a VEX disposition. -/
def vexResult (vexStatus : Option String) (uuid : String) : Option ExposureResult :=
  if vexStatus = some "not_affected" then
    some (.plain .notAffected (95 / 100) ["vex.not_affected"] [])
  else if vexStatus = some "affected" then
    some
      { ExposureResult.plain .confirmed (98 / 100) ["vex.affected"] [] with
        shouldCreateCase := true
        caseId := some (newCaseId uuid) }
  else none

def deterministicResult (c : ParsedComponent) (advisory : OsvAdvisory) (purl uuid : String) :
    ExposureResult where
  matchClass := .deterministic
  confidence := 93 / 100
  shouldCreateCase := true
  caseId := some (newCaseId uuid)
  matchedRules := ["osv.purl-range", "asset.service-context"]
  limitations := []
  matcherVersion := MatchingService.matcherVersion
  explanation := some
    { decision := .deterministic
      confidence := 93 / 100
      matcherVersion := MatchingService.matcherVersion
      componentIdentity := c.purl
      vulnerability := advisoryId advisory
      rules := ["osv.purl-range"]
      evidenceRefs := [purl]
      limitations := [] }

def hasRanges (advisory : OsvAdvisory) : Bool :=
  advisory.affected.any fun aff => !aff.ranges.isEmpty || !aff.versions.isEmpty

/-- Step 3: purl and ecosystem ranges; `none` falls through. -/
def rangeResult (c : ParsedComponent) (advisory : OsvAdvisory) (uuid : String) :
    Option ExposureResult :=
  match nonEmpty c.purl, nonEmpty c.rawVersion with
  | some purl, some version =>
      let eco := normalizeEcosystem c.ecosystem
      if !supportsEcosystem eco then
        some (.plain .candidate (2 / 5) ["unsupported.ecosystem"]
          ["unsupported version scheme: " ++ c.ecosystem.getD "None"])
      else
        let (matched, identityMatched) := matchAffected c eco version advisory.affected false
        if matched then some (deterministicResult c advisory purl uuid)
        else if identityMatched && hasRanges advisory then
          some (.plain .notAffected (85 / 100) ["osv.purl-range.not_affected"] [])
        else none
  | _, _ => none

/-- Steps 4 and 5 and the fallbacks. -/
def fallbackResult (c : ParsedComponent) (assetContext : Option AssetContext) : ExposureResult :=
  match nonEmpty c.purl, nonEmpty c.cpe with
  | none, some _ =>
      if assetContext.any (·.secondSignal.truthy) then
        .plain .corroborated (65 / 100) ["cpe.corroborated", "inventory.second_signal"]
          ["CPE mapping requires review"]
      else
        .plain .candidate (35 / 100) ["cpe.candidate"] ["CPE/name heuristic only - review required"]
  | none, none => .plain .candidate (3 / 10) ["name.candidate"] ["incomplete version data"]
  | some _, _ => .plain .candidate (2 / 5) ["candidate.fallback"] ["no deterministic match"]

/-- `MatchingService.evaluate`. -/
def evaluate (c : ParsedComponent) (advisory : OsvAdvisory) (assetContext : Option AssetContext)
    (scannerEvidence : Option ScannerEvidence) (vexStatus : Option String) (uuid : String) :
    ExposureResult :=
  match scannerEvidence.filter (·.scannerConfirmed.truthy) with
  | some evidence => scannerResult c advisory evidence uuid
  | none =>
      match vexResult vexStatus uuid with
      | some result => result
      | none =>
          match rangeResult c advisory uuid with
          | some result => result
          | none => fallbackResult c assetContext

/-! ## What an evaluation answers -/

/-- The entry is about the component, and its ecosystem does not rule it out. -/
def applies (c : ParsedComponent) (aff : OsvAffected) : Bool :=
  ecosystemPasses (normalizeEcosystem c.ecosystem) aff && packageIdentityMatches c aff.package

omit [Python] in
/-- The entry has the version in a range or in its list. -/
def covers (version : String) (aff : OsvAffected) : Bool :=
  aff.ranges.any (rangeContains version) || aff.versions.contains version

theorem matchAffected_fst (c : ParsedComponent) (version : String) (affected : List OsvAffected)
    (b : Bool) : (matchAffected c (normalizeEcosystem c.ecosystem) version affected b).1
      = affected.any fun aff => applies c aff && covers version aff := by
  induction affected generalizing b with
  | nil => rfl
  | cons aff rest ih =>
      unfold matchAffected applies covers
      rw [List.any_cons]
      split_ifs with heco hid hcov
      · rw [ih]; simp_all [applies, covers]
      · rw [ih]; simp_all [applies, covers]
      · simp_all
      · rw [ih]; simp_all [applies, covers]

/-- Short of a match, the loop has seen every entry. -/
theorem matchAffected_snd (c : ParsedComponent) (version : String) (affected : List OsvAffected)
    (b : Bool) (h : (affected.any fun aff => applies c aff && covers version aff) = false) :
    (matchAffected c (normalizeEcosystem c.ecosystem) version affected b).2
      = (b || affected.any (applies c)) := by
  induction affected generalizing b with
  | nil => simp [matchAffected]
  | cons aff rest ih =>
      rw [List.any_cons, Bool.or_eq_false_iff] at h
      have hrest := ih (h := h.2)
      unfold matchAffected
      rw [List.any_cons]
      split_ifs with heco hid hcov
      · rw [hrest]; simp_all [applies]
      · rw [hrest]; simp_all [applies]
      · simp_all [applies, covers]
      · rw [hrest]; simp_all [applies]

section Evaluate

variable {c : ParsedComponent} {advisory : OsvAdvisory} {assetContext : Option AssetContext}
  {uuid : String}

/-- Without purl or version nothing is decided by ranges. -/
theorem evaluate_eq_fallback (h : nonEmpty c.purl = none ∨ nonEmpty c.rawVersion = none) :
    evaluate c advisory assetContext none none uuid = fallbackResult c assetContext := by
  have hnone : rangeResult c advisory uuid = none := by
    unfold rangeResult
    rcases h with h | h
    · rw [h]
    · rw [h]; cases nonEmpty c.purl <;> rfl
  show (match rangeResult c advisory uuid with
    | some result => result
    | none => fallbackResult c assetContext) = _
  rw [hnone]

theorem evaluate_of_missing (h : nonEmpty c.purl = none ∨ nonEmpty c.rawVersion = none) :
    (evaluate c advisory assetContext none none uuid).matchClass = .candidate ∨
      (evaluate c advisory assetContext none none uuid).matchClass = .corroborated := by
  rw [evaluate_eq_fallback h]
  unfold fallbackResult
  split
  · split
    · exact Or.inr rfl
    · exact Or.inl rfl
  · exact Or.inl rfl
  · exact Or.inl rfl

/-- With a purl and a version the class is decided by the entries that apply. -/
theorem evaluate_of_range {purl version : String} (hp : nonEmpty c.purl = some purl)
    (hv : nonEmpty c.rawVersion = some version) :
    (evaluate c advisory assetContext none none uuid).matchClass =
      if supportsEcosystem (normalizeEcosystem c.ecosystem) then
        if advisory.affected.any fun aff => applies c aff && covers version aff then .deterministic
        else if advisory.affected.any (applies c) && hasRanges advisory then .notAffected
        else .candidate
      else .candidate := by
  have hfallback : (fallbackResult c assetContext).matchClass = .candidate := by
    unfold fallbackResult
    rw [hp]
    cases nonEmpty c.cpe <;> rfl
  show (match rangeResult c advisory uuid with
    | some result => result
    | none => fallbackResult c assetContext).matchClass = _
  unfold rangeResult
  rw [hp, hv]
  dsimp only
  cases hsupports : supportsEcosystem (normalizeEcosystem c.ecosystem) with
  | false => rfl
  | true =>
      rw [if_neg (by simp), if_pos rfl, matchAffected_fst]
      cases hmatched : advisory.affected.any fun aff => applies c aff && covers version aff with
      | true => rfl
      | false =>
          rw [matchAffected_snd c version _ _ hmatched, Bool.false_or]
          cases advisory.affected.any (applies c) && hasRanges advisory with
          | true => rfl
          | false => exact hfallback

theorem evaluate_deterministic_iff :
    (evaluate c advisory assetContext none none uuid).matchClass = .deterministic ↔
      ∃ purl version, nonEmpty c.purl = some purl ∧ nonEmpty c.rawVersion = some version ∧
        supportsEcosystem (normalizeEcosystem c.ecosystem) = true ∧
        ∃ aff ∈ advisory.affected, applies c aff = true ∧ covers version aff = true := by
  cases hp : nonEmpty c.purl with
  | none =>
      constructor
      · intro h
        rcases evaluate_of_missing (Or.inl hp) with hm | hm <;> rw [hm] at h <;> cases h
      · rintro ⟨purl, version, h, -⟩
        cases h
  | some purl =>
      cases hv : nonEmpty c.rawVersion with
      | none =>
          constructor
          · intro h
            rcases evaluate_of_missing (Or.inr hv) with hm | hm <;> rw [hm] at h <;> cases h
          · rintro ⟨purl', version, -, h, -⟩
            cases h
      | some version =>
          rw [evaluate_of_range hp hv]
          constructor
          · intro h
            split_ifs at h with hsupports hany
            obtain ⟨aff, haff, hboth⟩ := List.any_eq_true.1 hany
            rw [Bool.and_eq_true] at hboth
            exact ⟨purl, version, rfl, rfl, hsupports, aff, haff, hboth⟩
          · rintro ⟨_, _, hp', hv', hsupports, aff, haff, hboth⟩
            cases hp'
            cases hv'
            rw [if_pos hsupports, if_pos]
            exact List.any_eq_true.2 ⟨aff, haff, by rw [hboth.1, hboth.2]; rfl⟩

/-- A result that speaks about the package needs an entry that applies to it. -/
theorem exists_applies_of_evaluate
    (h : (evaluate c advisory assetContext none none uuid).matchClass = .deterministic ∨
      (evaluate c advisory assetContext none none uuid).matchClass = .notAffected) :
    ∃ aff ∈ advisory.affected, applies c aff = true := by
  cases hp : nonEmpty c.purl with
  | none => rcases evaluate_of_missing (Or.inl hp) with hm | hm <;> rw [hm] at h <;> simp at h
  | some purl =>
      cases hv : nonEmpty c.rawVersion with
      | none => rcases evaluate_of_missing (Or.inr hv) with hm | hm <;> rw [hm] at h <;> simp at h
      | some version =>
          rw [evaluate_of_range hp hv] at h
          split_ifs at h with hsupports hany hother
          · obtain ⟨aff, haff, hboth⟩ := List.any_eq_true.1 hany
            exact ⟨aff, haff, (Bool.and_eq_true_iff.1 hboth).1⟩
          · exact List.any_eq_true.1 (Bool.and_eq_true_iff.1 hother).1
          · simp at h
          · simp at h

/-- Every result names the rules it is by. -/
theorem evaluate_rules {scannerEvidence : Option ScannerEvidence} {vexStatus : Option String} :
    (evaluate c advisory assetContext scannerEvidence vexStatus uuid).matchedRules ≠ [] := by
  have hvex : ∀ {result}, vexResult vexStatus uuid = some result → result.matchedRules ≠ [] := by
    intro result h
    unfold vexResult at h
    split_ifs at h
    · cases h; simp [ExposureResult.plain]
    · cases h; simp [ExposureResult.plain]
  have hrange : ∀ {result}, rangeResult c advisory uuid = some result →
      result.matchedRules ≠ [] := by
    intro result h
    unfold rangeResult at h
    split at h
    · dsimp only at h
      split_ifs at h
      · cases h; simp [ExposureResult.plain]
      · cases h; simp [deterministicResult]
      · cases h; simp [ExposureResult.plain]
    · cases h
  have hfallback : (fallbackResult c assetContext).matchedRules ≠ [] := by
    unfold fallbackResult
    split
    · split <;> simp [ExposureResult.plain]
    · simp [ExposureResult.plain]
    · simp [ExposureResult.plain]
  unfold evaluate
  split
  · simp [scannerResult]
  · split
    · exact hvex ‹_›
    · split
      · exact hrange ‹_›
      · exact hfallback

end Evaluate

end Matching

end VulnOpsHub
