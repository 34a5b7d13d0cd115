import VulnOpsHub.Workers.Effects
import VulnOpsHub.Matching.Justification

set_option autoImplicit false

/-! # Findings about one vulnerability

DefectDojo and Wazuh report a vulnerability of a package, and OSV is asked about the package alone:
its records may be about any vulnerability. What the class an exposure is stored with has to do with
the records about the vulnerability it is stored under. -/

namespace VulnOpsHub

/-! ## Results that ranges decide -/

/-- The class is by the ranges of an advisory, with the rules it is by. -/
def RangeDerived (matchClass : MatchClass) (rules : List String) : Prop :=
  matchClass = .deterministic ∨
    (matchClass = .notAffected ∧ rules = ["osv.purl-range.not_affected"])

section Matching

variable [Python]

omit [Python] in
theorem fallbackResult_class (c : ParsedComponent) (assetContext : Option AssetContext) :
    (fallbackResult c assetContext).matchClass = .candidate ∨
      (fallbackResult c assetContext).matchClass = .corroborated := by
  unfold fallbackResult
  split
  · split
    · exact Or.inr rfl
    · exact Or.inl rfl
  · exact Or.inl rfl
  · exact Or.inl rfl

variable [Packaging] {c : ParsedComponent} {advisory : OsvAdvisory}
  {assetContext : Option AssetContext} {uuid : String}

/-- Where ranges have nothing to say, the advisory does not matter. -/
theorem evaluate_of_silent
    (h : ComparesVersions c → ∀ aff ∈ advisory.affected, applies c aff = false) :
    (evaluate c advisory assetContext none none uuid).matchClass
      = (fallbackResult c assetContext).matchClass := by
  cases hp : nonEmpty c.purl with
  | none =>
      have hnone : rangeResult c advisory uuid = none := by
        unfold rangeResult
        rw [hp]
      simp only [evaluate, vexResult, hnone]
      rfl
  | some purl =>
      cases hv : nonEmpty c.rawVersion with
      | none =>
          have hnone : rangeResult c advisory uuid = none := by
            unfold rangeResult
            rw [hp, hv]
          simp only [evaluate, vexResult, hnone]
          rfl
      | some version =>
          have hfallback : (fallbackResult c assetContext).matchClass = .candidate := by
            unfold fallbackResult
            rw [hp]
            cases nonEmpty c.cpe <;> rfl
          rw [evaluate_of_range hp hv, hfallback]
          by_cases hsupports : supportsEcosystem (normalizeEcosystem c.ecosystem) = true
          · have hsilent := h ⟨by rw [hp]; rfl, by rw [hv]; rfl, hsupports⟩
            have hany : advisory.affected.any (applies c) = false := by
              simpa using hsilent
            have hhit : (advisory.affected.any fun aff => applies c aff && covers version aff)
                = false := by
              simp only [List.any_eq_false, Bool.and_eq_true, not_and]
              intro aff haff happlies
              rw [hsilent aff haff] at happlies
              cases happlies
            simp [hany, hhit]
          · rw [if_neg hsupports]

end Matching

section Binding

variable [Python] [Packaging]

/-! ## Reports -/

/-- An event that reports a vulnerability of a component, as its handler reads it. -/
inductive Report where
  | defectdojo (fields : DojoFields)
  | wazuh (fields : WazuhFields)

namespace Report

def cve : Report → String
  | .defectdojo fields => fields.cve
  | .wazuh fields => fields.cve

def purl : Report → Option String
  | .defectdojo fields => fields.purl
  | .wazuh fields => fields.purl

def version : Report → Option String
  | .defectdojo fields => fields.componentVersion
  | .wazuh fields => fields.componentVersion

/-- A scanner has verified the finding. -/
def verified : Report → Bool
  | .defectdojo fields => fields.verified
  | .wazuh _ => false

omit [Packaging] in
def component : Report → ParsedComponent
  | .defectdojo fields =>
      componentFromFields fields.componentName fields.componentVersion fields.purl
  | .wazuh fields => componentFromFields fields.componentName fields.componentVersion fields.purl

def finding (s : Sources) (report : Report) (records : List (AdvisoryRecord OsvAdvisory))
    (uuid : String) : Finding :=
  match report with
  | .defectdojo fields => dojoFinding s fields records uuid
  | .wazuh fields => wazuhFinding s fields records uuid

/-- The event is a report. -/
def Of (report : Report) (event : OutboxEvent) : Prop :=
  match report with
  | .defectdojo fields => event.eventType = "vulnops.evidence.defectdojo.ingested.v1" ∧
      DojoFields.decode event.payload.orEmpty = .ok (.inr fields)
  | .wazuh fields => event.eventType = "vulnops.evidence.wazuh.ingested.v1" ∧
      WazuhFields.decode event.payload.orEmpty = .ok (.inr fields)

/-- What the matcher says of a record to which no scanner and no VEX statement is opposed. -/
def answer (report : Report) (r : AdvisoryRecord OsvAdvisory) (uuid : String) : ExposureResult :=
  evaluate report.component (identified (advisoryFromRecord r) report.cve) none none none uuid

/-- Ranges decide the class: no scanner and no VEX statement does, the version is compared, and the
    purl names a package. -/
structure Ranged (s : Sources) (report : Report) : Prop where
  unverified : report.verified = false
  noStatement : s.vexStatusFor report.cve = none
  compares : ComparesVersions report.component
  named : (nonEmpty (stripPurlIdentity report.purl)).isSome

end Report

/-- Two advisories say the same of a component: whether it is hit, and short of that, whether they
    speak of it. -/
def SayTheSame (c : ParsedComponent) (advisory advisory' : OsvAdvisory) : Prop :=
  ∀ version, nonEmpty c.rawVersion = some version →
    (Hit c advisory version ↔ Hit c advisory' version) ∧
      (¬ Hit c advisory version → (SpeaksOf c advisory ↔ SpeaksOf c advisory'))

/-- A record as the adapter makes it of a vulnerability. -/
def FromOsv (r : AdvisoryRecord OsvAdvisory) : Prop :=
  ∃ now url idx uuid vuln, OSVAdapter.record now url idx uuid vuln = .ok r

/-- What is promised of the exposure `e` a report with some records is stored in. -/
structure CveBinding (s : Sources) (report : Report) (records : List (AdvisoryRecord OsvAdvisory))
    (uuid : String) (e : Exposure) : Prop where
  /-- A class by ranges is the answer to a record about the vulnerability. -/
  bound : ∀ rules, e.matchedRules = some rules → RangeDerived e.matchClass rules →
    ∃ r ∈ records, osvRecordMatchesCve r report.cve = true ∧
      (report.answer r uuid).matchClass = e.matchClass
  /-- With the same records about it, among any others and in any order, it gets the same class. -/
  independent : ∀ records', (∀ r ∈ records', FromOsv r) →
    (records'.filter fun r => osvRecordMatchesCve r report.cve).Perm
      (records.filter fun r => osvRecordMatchesCve r report.cve) →
    (report.finding s records' uuid).result.matchClass = e.matchClass

/-- If ranges decide, the handler selects among the records, and those about the vulnerability say
    the same. -/
def Report.Binds (s : Sources) (report : Report) (records : List (AdvisoryRecord OsvAdvisory)) :
    Prop :=
  report.Ranged s → (∃ fields, report = .wazuh fields) ∧
    ∀ r ∈ records, ∀ r' ∈ records, osvRecordMatchesCve r report.cve = true →
      osvRecordMatchesCve r' report.cve = true →
      SayTheSame report.component (advisoryFromRecord r) (advisoryFromRecord r')

/-! ## The result of a report -/

omit [Packaging] in
/-- What speaks for the finding apart from the records. -/
def Report.evidence : Report → Option ScannerEvidence
  | .defectdojo fields =>
      if fields.verified then some ⟨.bool true, some (.str fields.findingId)⟩ else none
  | .wazuh _ => none

def Report.evaluated (s : Sources) (report : Report) (advisory : OsvAdvisory) (uuid : String) :
    ExposureResult :=
  evaluate report.component advisory none report.evidence
    (if report.verified then none else s.vexStatusFor report.cve) uuid

omit [Packaging] in
theorem Sources.vexStatusFor_cases (s : Sources) (cve : String) : s.vexStatusFor cve = none ∨
    s.vexStatusFor cve = some "affected" ∨ s.vexStatusFor cve = some "not_affected" := by
  unfold Sources.vexStatusFor
  split
  · exact Or.inl rfl
  · split
    · exact Or.inl rfl
    · exact VexClient.getStatus_cases _

omit [Packaging] in
/-- A package without a name is only known by its purl. -/
theorem applies_of_unnamed {c : ParsedComponent} {aff : OsvAffected} (hp : (nonEmpty c.purl).isSome)
    (hname : aff.package.name = none) (h : nonEmpty (stripPurlIdentity c.purl) = none) :
    applies c aff = false := by
  obtain ⟨purl, hpurl⟩ := Option.isSome_iff_exists.1 hp
  have hidentity : packageIdentityMatches c aff.package = false := by
    unfold packageIdentityMatches
    rw [hpurl, hname]
    cases nonEmpty aff.package.purl with
    | none => rfl
    | some q => simp [h]
  simp [applies, hidentity]

omit [Python] [Packaging] in
theorem affectedOfRange_name {rng : RecordRange} {aff : OsvAffected}
    (h : affectedOfRange rng = some aff) : aff.package.name = none := by
  unfold affectedOfRange at h
  dsimp only at h
  split_ifs at h
  cases h
  rfl

/-- The advisories the handlers evaluate name no packages. -/
def Unnamed (advisory : OsvAdvisory) : Prop := ∀ aff ∈ advisory.affected, aff.package.name = none

omit [Python] [Packaging] in
theorem unnamed_bare (cve : String) : Unnamed (bareAdvisory cve) := fun _ h => by cases h

omit [Python] [Packaging] in
theorem unnamed_identified (r : AdvisoryRecord OsvAdvisory) (cve : String) :
    Unnamed (identified (advisoryFromRecord r) cve) := by
  intro aff haff
  obtain ⟨rng, -, hrng⟩ := List.mem_filterMap.1 haff
  exact affectedOfRange_name hrng

variable {s : Sources} {report : Report} {advisory : OsvAdvisory} {uuid : String}

/-- A verified finding is confirmed. -/
theorem Report.evaluated_of_verified (h : report.verified = true) :
    (report.evaluated s advisory uuid).matchClass = .confirmed := by
  cases report with
  | wazuh fields => cases h
  | defectdojo fields =>
      have hverified : fields.verified = true := h
      unfold Report.evaluated Report.evidence
      dsimp only
      rw [if_pos hverified]
      rfl

theorem Report.evaluated_of_unverified (h : report.verified = false) :
    report.evaluated s advisory uuid
      = evaluate report.component advisory none none (s.vexStatusFor report.cve) uuid := by
  cases report with
  | wazuh fields => rfl
  | defectdojo fields =>
      have hverified : fields.verified = false := h
      simp [Report.evaluated, Report.evidence, Report.verified, hverified]

/-- Where ranges decide, the class is the matcher's answer on the advisory alone. -/
theorem Report.Ranged.evaluated_eq (h : report.Ranged s) : report.evaluated s advisory uuid
    = evaluate report.component advisory none none none uuid := by
  rw [Report.evaluated_of_unverified h.unverified, h.noStatement]

omit [Packaging] in
theorem Report.component_purl (report : Report) : report.component.purl = report.purl := by
  cases report <;> rfl

omit [Packaging] in
theorem Report.component_version (report : Report) :
    report.component.rawVersion = report.version := by
  cases report <;> rfl

/-- Where they do not, the advisory does not matter, and the class is not by its ranges. -/
theorem Report.evaluated_of_not_ranged (h : ¬ report.Ranged s) (hunnamed : Unnamed advisory) :
    (report.evaluated s advisory uuid).matchClass
        = (report.evaluated s (bareAdvisory report.cve) "").matchClass ∧
      ¬ RangeDerived (report.evaluated s advisory uuid).matchClass
        (report.evaluated s advisory uuid).matchedRules := by
  by_cases hverified : report.verified = true
  · rw [Report.evaluated_of_verified hverified, Report.evaluated_of_verified hverified]
    exact ⟨rfl, by simp [RangeDerived]⟩
  · rw [Bool.not_eq_true] at hverified
    rw [Report.evaluated_of_unverified hverified, Report.evaluated_of_unverified hverified]
    rcases s.vexStatusFor_cases report.cve with hvex | hvex | hvex
    · have hsilent : ∀ {advisory}, Unnamed advisory → ComparesVersions report.component →
          ∀ aff ∈ advisory.affected, applies report.component aff = false := by
        intro advisory hunnamed hcompares aff haff
        refine applies_of_unnamed hcompares.1 (hunnamed aff haff) ?_
        rw [← Option.not_isSome_iff_eq_none, report.component_purl]
        exact fun hnamed => h ⟨hverified, hvex, hcompares, hnamed⟩
      rw [hvex, evaluate_of_silent (hsilent hunnamed),
        evaluate_of_silent (hsilent (unnamed_bare report.cve))]
      refine ⟨rfl, ?_⟩
      rcases fallbackResult_class report.component none with hclass | hclass <;>
        simp [RangeDerived, hclass]
    · rw [hvex]
      exact ⟨rfl, by simp [RangeDerived, evaluate, vexResult, ExposureResult.plain]⟩
    · rw [hvex]
      exact ⟨rfl, by simp [RangeDerived, evaluate, vexResult, ExposureResult.plain]⟩

/-! ## Wazuh -/

omit [Python] [Packaging] in
/-- Without a bound record no class that opens a case stands; otherwise the result's class does. -/
theorem wazuhAdjusted_class (fields : WazuhFields) (osvCveBound : Bool) (result : ExposureResult) :
    (wazuhAdjusted fields osvCveBound result).matchClass =
      if ((nonEmpty fields.purl).isSome && !osvCveBound) ∧ result.matchClass ∈ caseClasses
      then .candidate else result.matchClass := by
  unfold wazuhAdjusted
  split_ifs <;> rfl

omit [Python] [Packaging] in
theorem wazuhAdjusted_rangeDerived {fields : WazuhFields} {osvCveBound : Bool}
    {result : ExposureResult}
    (h : RangeDerived (wazuhAdjusted fields osvCveBound result).matchClass
      (wazuhAdjusted fields osvCveBound result).matchedRules) :
    RangeDerived result.matchClass result.matchedRules := by
  unfold wazuhAdjusted at h
  split_ifs at h
  · simp [RangeDerived] at h
  · exact h

omit [Packaging] in
/-- Whether a record is bound depends on the records about the vulnerability alone. -/
theorem isSome_selectOsvRecordForCve (records : List (AdvisoryRecord OsvAdvisory)) (cve : String) :
    (selectOsvRecordForCve records cve).isSome
      = !(records.filter fun r => osvRecordMatchesCve r cve).isEmpty := by
  unfold selectOsvRecordForCve
  induction records with
  | nil => rfl
  | cons r rest ih => cases h : osvRecordMatchesCve r cve <;> simp [h, ih]

theorem wazuhFinding_result (s : Sources) (fields : WazuhFields)
    (records : List (AdvisoryRecord OsvAdvisory)) (uuid : String) :
    (wazuhFinding s fields records uuid).result =
      wazuhAdjusted fields (selectOsvRecordForCve records fields.cve).isSome
        ((Report.wazuh fields).evaluated s
          (wazuhAdvisory fields.cve (selectOsvRecordForCve records fields.cve)) uuid) := rfl

omit [Python] [Packaging] in
theorem unnamed_dojoAdvisory (cve : String) (records : List (AdvisoryRecord OsvAdvisory)) :
    Unnamed (dojoAdvisory cve records) := by
  cases records with
  | nil => exact unnamed_bare cve
  | cons r rest => exact unnamed_identified r cve

omit [Python] [Packaging] in
theorem unnamed_wazuhAdvisory (cve : String) (bound : Option (AdvisoryRecord OsvAdvisory)) :
    Unnamed (wazuhAdvisory cve bound) := by
  cases bound with
  | none => exact unnamed_bare cve
  | some r => exact unnamed_identified r cve

/-! ## Where ranges do not decide -/

variable {records records' : List (AdvisoryRecord OsvAdvisory)} {uuid' : String}

theorem Report.not_rangeDerived (h : ¬ report.Ranged s) :
    ¬ RangeDerived (report.finding s records uuid).result.matchClass
      (report.finding s records uuid).result.matchedRules := by
  cases report with
  | defectdojo fields => exact (Report.evaluated_of_not_ranged h (unnamed_dojoAdvisory _ _)).2
  | wazuh fields =>
      intro hderived
      exact (Report.evaluated_of_not_ranged h (unnamed_wazuhAdvisory _ _)).2
        (wazuhAdjusted_rangeDerived hderived)

theorem Report.finding_class_of_not_ranged (h : ¬ report.Ranged s)
    (hperm : (records'.filter fun r => osvRecordMatchesCve r report.cve).Perm
      (records.filter fun r => osvRecordMatchesCve r report.cve)) :
    (report.finding s records' uuid').result.matchClass
      = (report.finding s records uuid).result.matchClass := by
  cases report with
  | defectdojo fields =>
      exact (Report.evaluated_of_not_ranged h (unnamed_dojoAdvisory _ _)).1.trans
        (Report.evaluated_of_not_ranged h (unnamed_dojoAdvisory _ _)).1.symm
  | wazuh fields =>
      have hsome : (selectOsvRecordForCve records' fields.cve).isSome
          = (selectOsvRecordForCve records fields.cve).isSome := by
        rw [isSome_selectOsvRecordForCve, isSome_selectOsvRecordForCve]
        exact congrArg (!·) hperm.isEmpty_eq
      have hclass : ((Report.wazuh fields).evaluated s
          (wazuhAdvisory fields.cve (selectOsvRecordForCve records' fields.cve)) uuid').matchClass
          = ((Report.wazuh fields).evaluated s
            (wazuhAdvisory fields.cve (selectOsvRecordForCve records fields.cve)) uuid).matchClass :=
        (Report.evaluated_of_not_ranged h (unnamed_wazuhAdvisory _ _)).1.trans
          (Report.evaluated_of_not_ranged h (unnamed_wazuhAdvisory _ _)).1.symm
      show (wazuhFinding s fields records' uuid').result.matchClass
        = (wazuhFinding s fields records uuid).result.matchClass
      rw [wazuhFinding_result, wazuhFinding_result, wazuhAdjusted_class, wazuhAdjusted_class, hsome,
        hclass]

/-! ## Where they do -/

/-- Two records give a component the same class exactly when they say the same of it. -/
theorem Report.Ranged.answer_eq_iff (h : report.Ranged s) (r r' : AdvisoryRecord OsvAdvisory) :
    (report.answer r uuid).matchClass = (report.answer r' uuid').matchClass ↔
      SayTheSame report.component (advisoryFromRecord r) (advisoryFromRecord r') := by
  obtain ⟨hpurl, hversion, hsupported⟩ := h.compares
  obtain ⟨purl, hp⟩ := Option.isSome_iff_exists.1 hpurl
  obtain ⟨version, hv⟩ := Option.isSome_iff_exists.1 hversion
  unfold Report.answer
  rw [matchClass_eq_iff hp hv]
  unfold SayTheSame
  rw [hv]
  constructor
  · intro hsame v' hv'
    cases hv'
    exact hsame hsupported
  · intro hsame _
    exact hsame version rfl

/-- A bound record decides. -/
theorem Report.Ranged.wazuh_class {fields : WazuhFields} (h : (Report.wazuh fields).Ranged s)
    {r : AdvisoryRecord OsvAdvisory} (hselect : selectOsvRecordForCve records fields.cve = some r) :
    (wazuhFinding s fields records uuid).result.matchClass
      = ((Report.wazuh fields).answer r uuid).matchClass := by
  rw [wazuhFinding_result, hselect, wazuhAdjusted_class, if_neg (by simp), h.evaluated_eq]
  rfl

/-- Without one the class is by no range. -/
theorem Report.Ranged.wazuh_unbound {fields : WazuhFields} (h : (Report.wazuh fields).Ranged s)
    (uuid : String)
    (hselect : selectOsvRecordForCve records fields.cve = none) :
    (wazuhFinding s fields records uuid).result.matchClass = .candidate ∨
      (wazuhFinding s fields records uuid).result.matchClass = .corroborated := by
  rw [wazuhFinding_result, hselect, wazuhAdjusted_class, h.evaluated_eq]
  split_ifs with hcase
  · exact Or.inl rfl
  · rw [evaluate_of_silent fun _ aff haff => by cases haff]
    exact fallbackResult_class _ _

/-! ## Records about other vulnerabilities -/

omit [Packaging] in
/-- An id that is not the vulnerability's. -/
def strayId (cve : String) : String :=
  if Python.upper cve = "CVE-2000-0001" then "CVE-2000-0002" else "CVE-2000-0001"

omit [Packaging] in
/-- A vulnerability under such an id. -/
def strayVuln (cve : String) (affected : List OsvAffected) : OsvAdvisory where
  id := some (strayId cve)
  vulnerabilityId := none
  aliases := none
  summary := none
  details := none
  affected := affected
  references := []

omit [Packaging] in
theorem upper_strayId_ne (cve : String) : Python.upper (strayId cve) ≠ Python.upper cve := by
  have hfirst : Python.upper "CVE-2000-0001" = "CVE-2000-0001" :=
    (Python.upper_ascii _ (by decide)).trans (by decide)
  have hsecond : Python.upper "CVE-2000-0002" = "CVE-2000-0002" :=
    (Python.upper_ascii _ (by decide)).trans (by decide)
  unfold strayId
  split_ifs with h
  · rw [hsecond, h]
    decide
  · rw [hfirst]
    exact fun he => h he.symm

omit [Packaging] in
/-- OSV may answer with a record about it. -/
theorem exists_strayRecord (cve : String) (affected : List OsvAffected) :
    ∃ r, FromOsv r ∧ osvRecordMatchesCve r cve = false ∧
      r.affectedRanges = OSVAdapter.affectedRanges (strayVuln cve affected) := by
  have hid : OSVAdapter.vulnId (strayVuln cve affected) "" = .ok (strayId cve) := by
    have hne : nonEmpty (strayVuln cve affected).id = some (strayId cve) := by
      refine nonEmpty_eq_some.2 ⟨rfl, ?_⟩
      unfold strayId
      split <;> decide
    unfold OSVAdapter.vulnId
    rw [hne]
  have hrecord : ∃ r, OSVAdapter.record (.utc 0) "" 0 "" (strayVuln cve affected) = .ok r ∧
      r.vulnerabilityId = strayId cve ∧ r.aliases = [] := by
    unfold OSVAdapter.record
    rw [hid]
    exact ⟨_, rfl, rfl, rfl⟩
  obtain ⟨r, hr, hrid, haliases⟩ := hrecord
  refine ⟨r, ⟨_, _, _, _, _, hr⟩, ?_, OSVAdapter.affectedRanges_of_record hr⟩
  simp [osvRecordMatchesCve, hrid, haliases, upper_strayId_ne]

/-- Where ranges decide, such a record may be answered by any class: with a range that begins with
    the first version and has no end, it is a deterministic match, … -/
theorem Report.Ranged.exists_hit (h : report.Ranged s) (uuid : String) : ∃ r, FromOsv r ∧
    osvRecordMatchesCve r report.cve = false ∧
      (report.answer r uuid).matchClass = .deterministic := by
  obtain ⟨hpurl, hversion, hsupported⟩ := h.compares
  obtain ⟨purl, hp⟩ := Option.isSome_iff_exists.1 hpurl
  obtain ⟨version, hv⟩ := Option.isSome_iff_exists.1 hversion
  obtain ⟨identity, hidentity⟩ := Option.isSome_iff_exists.1 h.named
  rw [← report.component_purl] at hidentity
  let rng : OsvRange := ⟨none, [[("introduced", "0")]]⟩
  let aff : OsvAffected := ⟨⟨none, report.component.purl, none⟩, [rng], []⟩
  obtain ⟨r, hosv, hmatches, hranges⟩ := exists_strayRecord report.cve [aff]
  refine ⟨r, hosv, hmatches, evaluate_deterministic_iff.2 ⟨purl, version, hp, hv, hsupported, ?_⟩⟩
  have happlies : applies report.component aff = true := by
    have hpasses : ecosystemPasses (normalizeEcosystem report.component.ecosystem) aff = true := rfl
    have hmatch : packageIdentityMatches report.component aff.package = true := by
      unfold packageIdentityMatches
      rw [hp, hidentity]
      simp
    simp [applies, hpasses, hmatch]
  have hhit : Hit report.component (advisoryFromRecord r) version := by
    refine (hit_rebuilt hp hranges).2 ⟨rng, mem_survivors.2 ⟨aff, List.mem_singleton_self _,
      happlies, ?_, List.mem_singleton_self _, rfl⟩, rfl⟩
    rw [hp]
    rfl
  exact hhit

/-- … and without entries it is none. -/
theorem Report.exists_miss (report : Report) (uuid : String) : ∃ r, FromOsv r ∧
    osvRecordMatchesCve r report.cve = false ∧
      (report.answer r uuid).matchClass ≠ .deterministic := by
  obtain ⟨r, hosv, hmatches, hranges⟩ := exists_strayRecord report.cve []
  refine ⟨r, hosv, hmatches, fun hclass => ?_⟩
  obtain ⟨purl, version, hp, hv, -, hhit⟩ := evaluate_deterministic_iff.1 hclass
  have hhit' : Hit report.component (advisoryFromRecord r) version := hhit
  obtain ⟨rng, hrng, -⟩ := (hit_rebuilt hp hranges).1 hhit'
  obtain ⟨aff, haff, -⟩ := mem_survivors.1 hrng
  cases haff

/-! ## The binding -/

/-- The exposure `e` is stored with the report's result. -/
structure Report.StoredIn (s : Sources) (report : Report)
    (records : List (AdvisoryRecord OsvAdvisory)) (uuid : String) (e : Exposure) : Prop where
  matchClass : e.matchClass = (report.finding s records uuid).result.matchClass
  rules : e.matchedRules = some (report.finding s records uuid).result.matchedRules

variable {e : Exposure}

theorem cveBinding_of_not_ranged (hstored : report.StoredIn s records uuid e)
    (h : ¬ report.Ranged s) : CveBinding s report records uuid e where
  bound := by
    intro rules hrules hderived
    rw [hstored.rules] at hrules
    cases hrules
    rw [hstored.matchClass] at hderived
    exact absurd hderived (Report.not_rangeDerived h)
  independent := by
    intro records' _ hperm
    rw [hstored.matchClass]
    exact Report.finding_class_of_not_ranged h hperm

/-- DefectDojo's handler takes the first record, so that ranges decide by a record about anything. -/
theorem not_cveBinding_defectdojo {fields : DojoFields} (h : (Report.defectdojo fields).Ranged s)
    (hosv : ∀ r ∈ records, FromOsv r) :
    ¬ CveBinding s (.defectdojo fields) records uuid e := by
  intro hbinding
  have hclass : ∀ r, FromOsv r → osvRecordMatchesCve r fields.cve = false →
      ((Report.defectdojo fields).answer r uuid).matchClass = e.matchClass := by
    intro r hr hmatches
    have hsame := hbinding.independent (r :: records)
      (fun r' hr' => (List.mem_cons.1 hr').elim (fun he => he ▸ hr) (hosv r'))
      (by
        have hcve : (Report.defectdojo fields).cve = fields.cve := rfl
        rw [List.filter_cons, hcve, hmatches]
        exact .refl _)
    rw [← hsame]
    exact (congrArg ExposureResult.matchClass h.evaluated_eq).symm
  obtain ⟨r, hr, hmatches, hhit⟩ := h.exists_hit uuid
  obtain ⟨r', hr', hmatches', hmiss⟩ := Report.exists_miss (.defectdojo fields) uuid
  exact hmiss ((hclass r' hr' hmatches').trans ((hclass r hr hmatches).symm.trans hhit))

omit [Packaging] in
theorem mem_of_selectOsvRecordForCve {cve : String} {r : AdvisoryRecord OsvAdvisory}
    (h : selectOsvRecordForCve records cve = some r) :
    r ∈ records ∧ osvRecordMatchesCve r cve = true :=
  ⟨List.mem_of_find?_eq_some h, List.find?_some (p := fun r => osvRecordMatchesCve r cve) h⟩

/-- Wazuh's handler binds when the records about the vulnerability say the same. -/
theorem cveBinding_wazuh {fields : WazuhFields}
    (hstored : (Report.wazuh fields).StoredIn s records uuid e)
    (h : (Report.wazuh fields).Ranged s)
    (hsame : ∀ r ∈ records, ∀ r' ∈ records, osvRecordMatchesCve r fields.cve = true →
      osvRecordMatchesCve r' fields.cve = true →
      SayTheSame (Report.wazuh fields).component (advisoryFromRecord r) (advisoryFromRecord r')) :
    CveBinding s (.wazuh fields) records uuid e where
  bound := by
    intro rules hrules hderived
    have hclass : e.matchClass = (wazuhFinding s fields records uuid).result.matchClass :=
      hstored.matchClass
    cases hselect : selectOsvRecordForCve records fields.cve with
    | none =>
        rw [hclass] at hderived
        rcases h.wazuh_unbound uuid hselect with hnone | hnone
        · simp [RangeDerived, hnone] at hderived
        · simp [RangeDerived, hnone] at hderived
    | some r =>
        obtain ⟨hr, hmatches⟩ := mem_of_selectOsvRecordForCve hselect
        exact ⟨r, hr, hmatches, by rw [hclass, h.wazuh_class hselect]⟩
  independent := by
    intro records' _ hperm
    have hclass : e.matchClass = (wazuhFinding s fields records uuid).result.matchClass :=
      hstored.matchClass
    have hsome : (selectOsvRecordForCve records' fields.cve).isSome
        = (selectOsvRecordForCve records fields.cve).isSome := by
      rw [isSome_selectOsvRecordForCve, isSome_selectOsvRecordForCve]
      exact congrArg (!·) hperm.isEmpty_eq
    show (wazuhFinding s fields records' uuid).result.matchClass = e.matchClass
    rw [hclass]
    cases hselect : selectOsvRecordForCve records fields.cve with
    | none =>
        have hselect' : selectOsvRecordForCve records' fields.cve = none := by
          rw [hselect] at hsome
          exact Option.not_isSome_iff_eq_none.1 (by simp [hsome])
        rw [wazuhFinding_result, wazuhFinding_result, hselect, hselect']
    | some r =>
        obtain ⟨r', hselect'⟩ := Option.isSome_iff_exists.1 (hsome.trans (by rw [hselect]; rfl))
        obtain ⟨hr, hmatches⟩ := mem_of_selectOsvRecordForCve hselect
        obtain ⟨hr', hmatches'⟩ := mem_of_selectOsvRecordForCve hselect'
        have hmem : r' ∈ records :=
          (List.mem_filter.1 (hperm.subset (List.mem_filter.2 ⟨hr', hmatches'⟩))).1
        rw [h.wazuh_class hselect, h.wazuh_class hselect', h.answer_eq_iff]
        exact hsame r' hmem r hr hmatches' hmatches

/-- Otherwise their order decides. -/
theorem sayTheSame_of_cveBinding {fields : WazuhFields}
    (h : (Report.wazuh fields).Ranged s) (hosv : ∀ r ∈ records, FromOsv r)
    (hbinding : CveBinding s (.wazuh fields) records uuid e) :
    ∀ r ∈ records, ∀ r' ∈ records, osvRecordMatchesCve r fields.cve = true →
      osvRecordMatchesCve r' fields.cve = true →
      SayTheSame (Report.wazuh fields).component (advisoryFromRecord r) (advisoryFromRecord r') := by
  -- put a record about the vulnerability first
  have hclass : ∀ r ∈ records, osvRecordMatchesCve r fields.cve = true →
      ((Report.wazuh fields).answer r uuid).matchClass = e.matchClass := by
    intro r hr hmatches
    have hperm : (r :: records.erase r).Perm records := (List.perm_cons_erase hr).symm
    have hselect : selectOsvRecordForCve (r :: records.erase r) fields.cve = some r := by
      unfold selectOsvRecordForCve
      rw [List.find?_cons_of_pos (by exact hmatches)]
    rw [← h.wazuh_class hselect]
    exact hbinding.independent _ (fun r' hr' => hosv r' (hperm.subset hr')) (hperm.filter _)
  intro r hr r' hr' hmatches hmatches'
  exact (h.answer_eq_iff r r').1 ((hclass r hr hmatches).trans (hclass r' hr' hmatches').symm)

theorem cveBinding_iff (hstored : report.StoredIn s records uuid e)
    (hosv : ∀ r ∈ records, FromOsv r) :
    CveBinding s report records uuid e ↔ report.Binds s records := by
  by_cases h : report.Ranged s
  · cases report with
    | defectdojo fields =>
        refine ⟨fun hbinding => absurd hbinding (not_cveBinding_defectdojo h hosv), fun hbinds => ?_⟩
        obtain ⟨⟨_, hwazuh⟩, -⟩ := hbinds h
        cases hwazuh
    | wazuh fields =>
        refine ⟨fun hbinding _ => ⟨⟨fields, rfl⟩, ?_⟩, fun hbinds => ?_⟩
        · exact sayTheSame_of_cveBinding h hosv hbinding
        · exact cveBinding_wazuh hstored h (hbinds h).2
  · exact ⟨fun _ hranged => absurd hranged h, fun _ => cveBinding_of_not_ranged hstored h⟩

/-! ## The stored exposure -/

omit [Python] [Packaging] in
theorem fromOsv_of_records {now : Datetime} {url : String} {uuids : ℕ → ℕ → String}
    {raw : OsvResponse} (h : OSVAdapter.records now url uuids raw = .ok records) :
    ∀ r ∈ records, FromOsv r := by
  unfold OSVAdapter.records at h
  split at h
  · cases h
  · obtain ⟨batches, hbatches, h⟩ := except_bind_eq_ok.1 h
    cases h
    intro r hr
    obtain ⟨batch, hbatch, hmem⟩ := List.mem_flatten.1 hr
    obtain ⟨result, -, hresult⟩ := exists_of_mem_mapM hbatches hbatch
    obtain ⟨vuln, -, hvuln⟩ := exists_of_mem_mapM hresult hmem
    exact ⟨_, _, _, _, _, hvuln⟩

omit [Python] [Packaging] in
theorem fromOsv_of_recordsFor {purl version : Option String}
    (h : s.recordsFor purl version = .ok records) : ∀ r ∈ records, FromOsv r := by
  unfold Sources.recordsFor at h
  split at h
  · unfold Sources.lookupBatch OSVAdapter.lookupBatch at h
    dsimp only at h
    split at h
    · split at h
      · cases h
      · exact fromOsv_of_records h
    · exact fromOsv_of_records h
  · cases h
    intro r hr
    cases hr

omit [Python] [Packaging] in
/-- A result with rules is stored with them. -/
theorem UpsertArgs.matchedRules_outcome {a : UpsertArgs} {rules : List String}
    (hrules : a.matchedRules = some rules) (hne : rules ≠ []) (env : CallEnv)
    (existing : Option Exposure) : (a.outcome env existing).matchedRules = some rules := by
  cases existing with
  | none => exact hrules
  | some e =>
      show ((a.matchedRules.filter (· ≠ [])).or e.matchedRules) = some rules
      simp [hrules, hne]

theorem Report.finding_rules : (report.finding s records uuid).result.matchedRules ≠ [] := by
  cases report with
  | defectdojo fields => exact evaluate_rules
  | wazuh fields =>
      show (wazuhAdjusted fields _ _).matchedRules ≠ []
      unfold wazuhAdjusted
      split_ifs
      · simp
      · exact evaluate_rules

/-- The key a report is stored under. -/
def Report.key (report : Report) : ExposureKey :=
  match report with
  | .defectdojo fields =>
      ⟨fields.organizationId, fields.cve, "defectdojo:" ++ fields.findingId, none⟩
  | .wazuh fields => ⟨fields.organizationId, fields.cve, "wazuh:" ++ fields.agentId, none⟩

theorem Report.key_finding : (report.finding s records uuid).key = report.key := by
  cases report <;> rfl

variable {o : Handling} {event : OutboxEvent} {h : Hub}

theorem Report.Of.findings (hreport : report.Of event)
    (hrecords : o.sources.recordsFor report.purl report.version = .ok records) :
    findingsOf o event h = .ok [report.finding o.sources records (o.uuid 0 11)] := by
  cases report with
  | defectdojo fields =>
      obtain ⟨htype, hdecode⟩ := hreport
      have hfound : o.sources.recordsFor fields.purl fields.componentVersion = .ok records :=
        hrecords
      unfold findingsOf
      rw [htype, if_neg (by decide), if_pos rfl]
      unfold dojoFound
      rw [hdecode]
      simp only [except_ok_bind, hfound]
      rfl
  | wazuh fields =>
      obtain ⟨htype, hdecode⟩ := hreport
      have hfound : o.sources.recordsFor fields.purl fields.componentVersion = .ok records :=
        hrecords
      unfold findingsOf
      rw [htype, if_neg (by decide), if_neg (by decide), if_pos rfl]
      unfold wazuhFound
      rw [hdecode]
      simp only [except_ok_bind, hfound]
      rfl

/-- What the event's handler leaves under the report's key. -/
theorem Report.Of.stored (hreport : report.Of event)
    (hrecords : o.sources.recordsFor report.purl report.version = .ok records)
    {handler : Handling → OutboxEvent → HubProg String}
    (hhandler : handlerOf event.eventType = some handler) {summary : String} {t : Session Hub}
    (hrun : (handler o event).run (Session.fresh h) = (.returned summary, t)) :
    ∃ e, t.db.exposureAt report.key = some e ∧
      report.StoredIn o.sources records (o.uuid 0 11) e := by
  obtain ⟨fs, h', hfs, rfl, hrounds⟩ := rounds_of_returned hhandler hrun
  rw [hreport.findings hrecords] at hfs
  cases hfs
  cases hrounds with
  | cons round rest =>
      cases rest
      have hat := round.exposureAt
      rw [Report.key_finding] at hat
      refine ⟨_, hat, ?_, ?_⟩
      · exact Finding.matchClass_outcome _ _ _ _ _
      · exact UpsertArgs.matchedRules_outcome rfl Report.finding_rules _ _

/-- **CVE binding.** The exposure a DefectDojo or Wazuh report is stored in is under the reported
    vulnerability, and bound to the records about it exactly when ranges do not decide its class, or
    the report is Wazuh's and those records say the same. -/
theorem storedExposure_bound_iff (hreport : report.Of event)
    (hrecords : o.sources.recordsFor report.purl report.version = .ok records)
    {handler : Handling → OutboxEvent → HubProg String}
    (hhandler : handlerOf event.eventType = some handler) {summary : String} {t : Session Hub}
    (hrun : (handler o event).run (Session.fresh h) = (.returned summary, t)) :
    ∃ e, t.db.exposureAt report.key = some e ∧ e.vulnerabilityId = report.cve ∧
      (CveBinding o.sources report records (o.uuid 0 11) e ↔ report.Binds o.sources records) := by
  obtain ⟨e, he, hstored⟩ := hreport.stored hrecords hhandler hrun
  refine ⟨e, he, ?_, cveBinding_iff hstored (fromOsv_of_recordsFor hrecords)⟩
  have hkey : e.key = report.key := (Hub.exposureAt_eq_some he).2
  have hid : e.vulnerabilityId = report.key.vulnerabilityId :=
    congrArg ExposureKey.vulnerabilityId hkey
  rw [hid]
  cases report <;> rfl

end Binding

/-- DefectDojo reports a vulnerability of a package. -/
def sampleDojoEvent : OutboxEvent :=
  sampleEvent "vulnops.evidence.defectdojo.ingested.v1"
    [("finding_id", .str "7"), ("cve", .str "CVE-2026-1234"), ("purl", .str "pkg:pypi/urllib3"),
      ("component_name", .str "urllib3"), ("component_version", .str "1.26.18")]

def sampleDojoFields : DojoFields where
  findingId := "7"
  cve := "CVE-2026-1234"
  organizationId := "default"
  purl := some "pkg:pypi/urllib3"
  componentName := "urllib3"
  componentVersion := some "1.26.18"
  verified := false
  assetId := none
  jiraKey := none

/-- Wazuh does. -/
def sampleWazuhFields : WazuhFields where
  agentId := "3"
  cve := "CVE-2026-1234"
  organizationId := "default"
  purl := some "pkg:pypi/urllib3"
  componentName := "urllib3"
  componentVersion := some "1.26.18"
  derivedPurl := false
  assetId := none

/-- OSV knows another vulnerability of the package. -/
def sampleStray : Sources :=
  sampleSources [{ sampleAdvisory [sampleAffected "PyPI" "pkg:pypi/urllib3"] with
    aliases := some ["CVE-2021-33503"] }]

/-- The other vulnerability makes DefectDojo's finding deterministic. -/
theorem stored_not_bound : ¬ ∀ (_ : Python) (_ : Packaging) (o : Handling) (event : OutboxEvent)
    (h : Hub) (report : Report) (records : List (AdvisoryRecord OsvAdvisory))
    (handler : Handling → OutboxEvent → HubProg String) (summary : String) (t : Session Hub),
    report.Of event → o.sources.recordsFor report.purl report.version = .ok records →
    handlerOf event.eventType = some handler →
    (handler o event).run (Session.fresh h) = (.returned summary, t) →
    ∃ e, t.db.exposureAt report.key = some e ∧
      CveBinding o.sources report records (o.uuid 0 11) e := by
  intro h
  have hrecords : ∃ records, sampleStray.recordsFor sampleDojoFields.purl
      sampleDojoFields.componentVersion = .ok records ∧
      ∀ r ∈ records, @osvRecordMatchesCve asciiPython r "CVE-2026-1234" = false :=
    ⟨_, rfl, by decide +kernel⟩
  obtain ⟨records, hrecords, hstray⟩ := hrecords
  have hreturned : ((@handleDefectdojoIngested asciiPython dottedPackaging
      (sampleHandling sampleStray) sampleDojoEvent).run (Session.fresh Hub.empty)).1.isReturned
        = true := by decide +kernel
  have hclass : ((@handleDefectdojoIngested asciiPython dottedPackaging
      (sampleHandling sampleStray) sampleDojoEvent).run (Session.fresh Hub.empty)).2.db.exposures.rows.all
        (fun e => e.matchClass = .deterministic ∧ e.matchedRules.isSome) = true := by decide +kernel
  obtain ⟨summary, t, hrun⟩ := Program.exists_run_of_isReturned hreturned
  obtain ⟨e, he, hbinding⟩ := h asciiPython dottedPackaging (sampleHandling sampleStray)
    sampleDojoEvent Hub.empty (.defectdojo sampleDojoFields) records _ summary t ⟨rfl, rfl⟩ hrecords
    rfl hrun
  rw [hrun] at hclass
  obtain ⟨hdeterministic, hrules⟩ := of_decide_eq_true
    (List.all_eq_true.1 hclass e (Hub.exposureAt_eq_some he).1)
  obtain ⟨rules, hrules⟩ := Option.isSome_iff_exists.1 hrules
  obtain ⟨r, hr, hmatches, -⟩ := @CveBinding.bound asciiPython dottedPackaging _ _ _ _ _ hbinding
    rules hrules (Or.inl hdeterministic)
  have hno := hstray r hr
  have hcve : @osvRecordMatchesCve asciiPython r "CVE-2026-1234" = true := hmatches
  rw [hcve] at hno
  cases hno

/-- Wazuh's finding is not bound to it. -/
theorem storedExposure_bound_iff_wazuh : ∃ (records : List (AdvisoryRecord OsvAdvisory))
    (t : Session Hub) (e : Exposure),
    sampleStray.recordsFor sampleWazuhFields.purl sampleWazuhFields.componentVersion = .ok records ∧
    t.db.exposureAt (Report.wazuh sampleWazuhFields).key = some e ∧
    e.vulnerabilityId = sampleWazuhFields.cve ∧
    (@CveBinding asciiPython dottedPackaging sampleStray (.wazuh sampleWazuhFields) records
        ((sampleHandling sampleStray).uuid 0 11) e ↔
      @Report.Binds asciiPython dottedPackaging sampleStray (.wazuh sampleWazuhFields) records) := by
  have hreturned : ((@handleWazuhIngested asciiPython dottedPackaging
      (sampleHandling sampleStray) sampleWazuhEvent).run (Session.fresh Hub.empty)).1.isReturned
        = true := by decide +kernel
  obtain ⟨summary, t, hrun⟩ := Program.exists_run_of_isReturned hreturned
  have hrecords : ∃ records, sampleStray.recordsFor sampleWazuhFields.purl
      sampleWazuhFields.componentVersion = .ok records := ⟨_, rfl⟩
  obtain ⟨records, hrecords⟩ := hrecords
  obtain ⟨e, he, hcve, hiff⟩ := @storedExposure_bound_iff asciiPython dottedPackaging
    (.wazuh sampleWazuhFields) records (sampleHandling sampleStray) sampleWazuhEvent Hub.empty
    ⟨rfl, rfl⟩ hrecords _ rfl summary t hrun
  exact ⟨records, t, e, hrecords, he, hcve, hiff⟩

end VulnOpsHub
