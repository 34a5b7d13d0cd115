import VulnOpsHub.Matching.Ranges
import VulnOpsHub.Intelligence.Osv

set_option autoImplicit false

/-! # Components and advisories of the orchestrator

`workers/orchestration.py` evaluates components made of an event's fields against advisories rebuilt
from records. What the matcher answers on a rebuilt advisory, and when that is what it answers on
the original. -/

namespace VulnOpsHub

/-! ## Components -/

section Components

variable [Python]

/-- `_component_from_fields`. -/
def componentFromFields (rawName : String) (rawVersion purl : Option String) : ParsedComponent :=
  let ecosystem := (nonEmpty purl).bind fun purl =>
    if "pkg:".toList <+: purl.toList then
      some (Python.lower (String.ofList (splitHead '/' (purl.toList.drop 4))))
    else none
  { rawName := rawName
    rawVersion := rawVersion
    purl := purl
    ecosystem := ecosystem
    normalizedName := some rawName
    cpe := none
    versionScheme := ecosystem
    dependencyPath := none }

end Components

/-! ## The conversion -/

/-- The events of a range that have a truthy value. -/
def recordEvents (rng : RecordRange) : List OsvEvent :=
  ((nonEmpty rng.introduced).map fun i => [("introduced", i)]).toList ++
    ((nonEmpty rng.fixed).map fun f => [("fixed", f)]).toList

/-- The body of the loop of `_advisory_from_record`; a range without events is dropped. -/
def affectedOfRange (rng : RecordRange) : Option OsvAffected :=
  let events := recordEvents rng
  if events = [] then none
  else some
    { package := ⟨rng.ecosystem, rng.purl, none⟩
      ranges := [⟨some (orElse rng.type "ECOSYSTEM"), events⟩]
      versions := [] }

/-- `_advisory_from_record`. -/
def advisoryFromRecord {Content : Type} (record : AdvisoryRecord Content) : OsvAdvisory where
  id := some record.vulnerabilityId
  vulnerabilityId := none
  aliases := some record.aliases
  summary := none
  details := none
  affected := record.affectedRanges.filterMap affectedOfRange
  references := []

/-! ## What is left of a range -/

/-- The range ends with a truthy `introduced` or `fixed`. -/
def bounded (rng : OsvRange) : Bool :=
  (nonEmpty (eventBounds rng.events).introduced).isSome ||
    (nonEmpty (eventBounds rng.events).fixed).isSome

/-- The entry a range of a package comes back as. -/
def rebuiltEntry (pkg : OsvPackage) (rng : OsvRange) : OsvAffected where
  package := ⟨pkg.ecosystem, pkg.purl, none⟩
  ranges := [⟨some (orElse rng.type "ECOSYSTEM"), recordEvents (OSVAdapter.recordRange pkg rng)⟩]
  versions := []

theorem recordEvents_eq_nil {rng : RecordRange} :
    recordEvents rng = [] ↔ nonEmpty rng.introduced = none ∧ nonEmpty rng.fixed = none := by
  unfold recordEvents
  cases nonEmpty rng.introduced <;> cases nonEmpty rng.fixed <;> simp

theorem eventBounds_recordEvents (rng : RecordRange) :
    eventBounds (recordEvents rng) = ⟨nonEmpty rng.introduced, nonEmpty rng.fixed, none⟩ := by
  unfold recordEvents
  cases nonEmpty rng.introduced <;> cases nonEmpty rng.fixed <;> rfl

theorem affectedOfRange_recordRange (pkg : OsvPackage) (rng : OsvRange) :
    affectedOfRange (OSVAdapter.recordRange pkg rng) =
      if bounded rng then some (rebuiltEntry pkg rng) else none := by
  unfold affectedOfRange bounded
  dsimp only
  by_cases h : recordEvents (OSVAdapter.recordRange pkg rng) = []
  · obtain ⟨hi, hf⟩ := recordEvents_eq_nil.1 h
    rw [OSVAdapter.recordRange_introduced] at hi
    rw [OSVAdapter.recordRange_fixed] at hf
    rw [if_pos h, hi, hf]
    rfl
  · rw [if_neg h, if_pos]
    · rfl
    · rw [recordEvents_eq_nil, OSVAdapter.recordRange_introduced, OSVAdapter.recordRange_fixed] at h
      revert h
      cases nonEmpty (eventBounds rng.events).introduced <;>
        cases nonEmpty (eventBounds rng.events).fixed <;> simp

/-- The entries of the rebuilt advisory. -/
theorem mem_affected_rebuilt {Content : Type} {r : AdvisoryRecord Content} {vuln : OsvAdvisory}
    (hr : r.affectedRanges = OSVAdapter.affectedRanges vuln) {aff' : OsvAffected} :
    aff' ∈ (advisoryFromRecord r).affected ↔
      ∃ aff ∈ vuln.affected, ∃ rng ∈ aff.ranges, bounded rng = true ∧
        aff' = rebuiltEntry aff.package rng := by
  unfold advisoryFromRecord OSVAdapter.affectedRanges at *
  simp only [hr, List.mem_filterMap, List.mem_flatMap, List.mem_map]
  constructor
  · rintro ⟨_, ⟨aff, haff, rng, hrng, rfl⟩, h⟩
    rw [affectedOfRange_recordRange] at h
    split_ifs at h with hb
    exact ⟨aff, haff, rng, hrng, hb, (Option.some.inj h).symm⟩
  · rintro ⟨aff, haff, rng, hrng, hb, rfl⟩
    exact ⟨_, ⟨aff, haff, rng, hrng, rfl⟩, by rw [affectedOfRange_recordRange, if_pos hb]⟩

section Evaluate

variable [Python] [Packaging]

/-! ## What the matcher answers on a rebuilt advisory -/

/-- Between the range's `introduced` and `fixed`, whatever its last affected version. -/
def betweenEnds (version : String) (rng : OsvRange) : Bool :=
  isVersionInRange version (eventBounds rng.events).introduced (eventBounds rng.events).fixed none

/-- The ranges by which a rebuilt advisory speaks about the component: those with an end, of entries
    that apply and have a purl. -/
def survivors (c : ParsedComponent) (vuln : OsvAdvisory) : List OsvRange :=
  vuln.affected.flatMap fun aff =>
    if applies c aff && (nonEmpty aff.package.purl).isSome then aff.ranges.filter bounded else []

omit [Packaging] in
theorem mem_survivors {c : ParsedComponent} {vuln : OsvAdvisory} {rng : OsvRange} :
    rng ∈ survivors c vuln ↔ ∃ aff ∈ vuln.affected, applies c aff = true ∧
      (nonEmpty aff.package.purl).isSome ∧ rng ∈ aff.ranges ∧ bounded rng = true := by
  simp only [survivors, List.mem_flatMap]
  refine exists_congr fun aff => and_congr_right fun _ => ?_
  split_ifs with h
  · simp_all
  · simp_all

omit [Packaging] in
/-- A rebuilt entry has lost its name. -/
theorem applies_rebuiltEntry {c : ParsedComponent} {purl : String}
    (hp : nonEmpty c.purl = some purl) (aff : OsvAffected) (rng : OsvRange) : applies c (rebuiltEntry aff.package rng) =
      (applies c aff && (nonEmpty aff.package.purl).isSome) := by
  have hname : nonEmpty none = none := rfl
  unfold applies ecosystemPasses packageIdentityMatches rebuiltEntry
  rw [hp, hname]
  cases nonEmpty aff.package.purl with
  | none => simp
  | some q => simp

omit [Python] in
theorem covers_rebuiltEntry (version : String) (pkg : OsvPackage) (rng : OsvRange) :
    covers version (rebuiltEntry pkg rng) = betweenEnds version rng := by
  have hidem : ∀ s : Option String, nonEmpty (nonEmpty s) = nonEmpty s := by
    intro s
    simp [nonEmpty, Option.filter_filter]
  simp [covers, rebuiltEntry, rangeContains, eventBounds_recordEvents, betweenEnds,
    isVersionInRange, hidem]

/-- An entry that applies covers the version. -/
def Hit (c : ParsedComponent) (vuln : OsvAdvisory) (version : String) : Prop :=
  ∃ aff ∈ vuln.affected, applies c aff = true ∧ covers version aff = true

instance (c : ParsedComponent) (vuln : OsvAdvisory) (version : String) :
    Decidable (Hit c vuln version) :=
  inferInstanceAs
    (Decidable (∃ aff ∈ vuln.affected, applies c aff = true ∧ covers version aff = true))

/-- An entry applies, and some entry says which versions are affected. -/
def SpeaksOf (c : ParsedComponent) (vuln : OsvAdvisory) : Prop :=
  (∃ aff ∈ vuln.affected, applies c aff = true) ∧ hasRanges vuln = true

instance (c : ParsedComponent) (vuln : OsvAdvisory) : Decidable (SpeaksOf c vuln) :=
  inferInstanceAs
    (Decidable ((∃ aff ∈ vuln.affected, applies c aff = true) ∧ hasRanges vuln = true))

variable {c : ParsedComponent} {vuln : OsvAdvisory} {r : AdvisoryRecord OsvAdvisory}
  {purl version : String}

omit [Packaging] in
/-- The entries of a rebuilt advisory that apply are those of the surviving ranges. -/
theorem exists_rebuilt_iff (hp : nonEmpty c.purl = some purl)
    (hr : r.affectedRanges = OSVAdapter.affectedRanges vuln) {P : OsvAffected → Prop}
    {Q : OsvRange → Prop} (hPQ : ∀ pkg rng, P (rebuiltEntry pkg rng) ↔ Q rng) :
    (∃ aff ∈ (advisoryFromRecord r).affected, applies c aff = true ∧ P aff) ↔
      ∃ rng ∈ survivors c vuln, Q rng := by
  constructor
  · rintro ⟨_, haff', happlies, hP⟩
    obtain ⟨aff, haff, rng, hrng, hb, rfl⟩ := (mem_affected_rebuilt hr).1 haff'
    rw [applies_rebuiltEntry hp, Bool.and_eq_true] at happlies
    exact ⟨rng, mem_survivors.2 ⟨aff, haff, happlies.1, happlies.2, hrng, hb⟩, (hPQ _ _).1 hP⟩
  · rintro ⟨rng, hsurvivor, hQ⟩
    obtain ⟨aff, haff, happlies, hpurl, hrng, hb⟩ := mem_survivors.1 hsurvivor
    refine ⟨_, (mem_affected_rebuilt hr).2 ⟨aff, haff, rng, hrng, hb, rfl⟩, ?_, (hPQ _ _).2 hQ⟩
    rw [applies_rebuiltEntry hp, happlies, hpurl]
    rfl

theorem hit_rebuilt (hp : nonEmpty c.purl = some purl)
    (hr : r.affectedRanges = OSVAdapter.affectedRanges vuln) :
    Hit c (advisoryFromRecord r) version ↔
      ∃ rng ∈ survivors c vuln, betweenEnds version rng = true :=
  exists_rebuilt_iff hp hr fun pkg rng => by rw [covers_rebuiltEntry]

omit [Python] [Packaging] in
/-- A rebuilt advisory has a range as soon as it has an entry. -/
theorem hasRanges_rebuilt (hr : r.affectedRanges = OSVAdapter.affectedRanges vuln)
    {aff' : OsvAffected} (h : aff' ∈ (advisoryFromRecord r).affected) :
    hasRanges (advisoryFromRecord r) = true := by
  obtain ⟨aff, -, rng, -, -, rfl⟩ := (mem_affected_rebuilt hr).1 h
  exact List.any_eq_true.2 ⟨_, h, rfl⟩

omit [Packaging] in
theorem speaksOf_rebuilt (hp : nonEmpty c.purl = some purl)
    (hr : r.affectedRanges = OSVAdapter.affectedRanges vuln) :
    SpeaksOf c (advisoryFromRecord r) ↔ survivors c vuln ≠ [] := by
  have hiff := exists_rebuilt_iff (P := fun _ => True) (Q := fun _ => True) hp hr
    fun _ _ => Iff.rfl
  simp only [and_true] at hiff
  unfold SpeaksOf
  constructor
  · rintro ⟨happlies, -⟩
    obtain ⟨rng, hrng⟩ := hiff.1 happlies
    exact List.ne_nil_of_mem hrng
  · intro hne
    obtain ⟨aff, haff, happlies⟩ := hiff.2 (List.exists_mem_of_ne_nil _ hne)
    exact ⟨⟨aff, haff, happlies⟩, hasRanges_rebuilt hr haff⟩

omit [Packaging] in
/-- What survives belongs to an entry that applied before. -/
theorem speaksOf_of_survivors (h : survivors c vuln ≠ []) : SpeaksOf c vuln := by
  obtain ⟨rng, hrng⟩ := List.exists_mem_of_ne_nil _ h
  obtain ⟨aff, haff, happlies, -, hmem, -⟩ := mem_survivors.1 hrng
  refine ⟨⟨aff, haff, happlies⟩, List.any_eq_true.2 ⟨aff, haff, ?_⟩⟩
  cases hranges : aff.ranges with
  | nil => simp [hranges] at hmem
  | cons => rfl

/-! ## The round trip -/

/-- Two advisories get the same class when they agree on hits and, short of a hit, on whether they
    speak of the component. -/
theorem matchClass_eq_iff {advisory advisory' : OsvAdvisory}
    {assetContext assetContext' : Option AssetContext} {uuid uuid' : String}
    (hp : nonEmpty c.purl = some purl) (hv : nonEmpty c.rawVersion = some version) :
    (evaluate c advisory assetContext none none uuid).matchClass
        = (evaluate c advisory' assetContext' none none uuid').matchClass ↔
      (supportsEcosystem (normalizeEcosystem c.ecosystem) = true →
        (Hit c advisory version ↔ Hit c advisory' version) ∧
        (¬ Hit c advisory version → (SpeaksOf c advisory ↔ SpeaksOf c advisory'))) := by
  have hhit : ∀ a : OsvAdvisory, Hit c a version ↔
      (a.affected.any fun aff => applies c aff && covers version aff) = true := by
    intro a
    simp [Hit]
  have hspeaks : ∀ a : OsvAdvisory, SpeaksOf c a ↔
      (a.affected.any (applies c) && hasRanges a) = true := by
    intro a
    simp [SpeaksOf]
  rw [evaluate_of_range hp hv, evaluate_of_range hp hv]
  simp only [hhit, hspeaks]
  cases supportsEcosystem (normalizeEcosystem c.ecosystem) with
  | false => simp
  | true =>
      cases advisory.affected.any fun aff => applies c aff && covers version aff <;>
        cases advisory'.affected.any fun aff => applies c aff && covers version aff <;>
        cases advisory.affected.any (applies c) && hasRanges advisory <;>
        cases advisory'.affected.any (applies c) && hasRanges advisory' <;> simp

/-- What the matcher needs survives the round trip: a version is covered exactly when it is between
    the ends of a surviving range, and an advisory that speaks of the component without a hit has
    one. -/
structure Survives (c : ParsedComponent) (vuln : OsvAdvisory) (version : String) : Prop where
  hits : Hit c vuln version ↔ ∃ rng ∈ survivors c vuln, betweenEnds version rng = true
  speaks : ¬ Hit c vuln version → SpeaksOf c vuln → survivors c vuln ≠ []

/-- **The record round trip.** A component with a purl and a version gets the same class from the
    raw vulnerability and from the record made of it exactly when its ecosystem is not supported or
    what the matcher needs survives. -/
theorem sameClass_iff_survives {now : Datetime} {url uuid uuid₁ uuid₂ : String} {idx : ℕ}
    (assetContext : Option AssetContext) (hrecord : OSVAdapter.record now url idx uuid vuln = .ok r)
    (hp : nonEmpty c.purl = some purl) (hv : nonEmpty c.rawVersion = some version) :
    (evaluate c vuln assetContext none none uuid₁).matchClass
        = (evaluate c (advisoryFromRecord r) assetContext none none uuid₂).matchClass ↔
      (supportsEcosystem (normalizeEcosystem c.ecosystem) = true → Survives c vuln version) := by
  have hr := OSVAdapter.affectedRanges_of_record hrecord
  rw [matchClass_eq_iff hp hv, hit_rebuilt hp hr, speaksOf_rebuilt hp hr]
  refine imp_congr_right fun _ => ⟨fun h => ⟨h.1, fun hnot hspeaks => (h.2 hnot).1 hspeaks⟩, ?_⟩
  intro h
  exact ⟨h.hits, fun hnot => ⟨h.speaks hnot, speaksOf_of_survivors⟩⟩

end Evaluate

/-- An entry that lists the affected version. -/
def sampleListed : OsvAffected where
  package := ⟨some "PyPI", some "pkg:pypi/urllib3", some "urllib3"⟩
  ranges := []
  versions := ["1.0"]

/-- A list of versions is lost. -/
theorem roundTrip_changes_class : ¬ ∀ (_ : Python) (_ : Packaging) (c : ParsedComponent)
    (vuln : OsvAdvisory) (r : AdvisoryRecord OsvAdvisory) (now : Datetime) (url uuid : String),
    OSVAdapter.record now url 0 uuid vuln = .ok r → (nonEmpty c.purl).isSome →
      (nonEmpty c.rawVersion).isSome →
      (evaluate c vuln none none none uuid).matchClass
        = (evaluate c (advisoryFromRecord r) none none none uuid).matchClass := by
  intro h
  have hsame := h asciiPython dottedPackaging (sampleUrllib "1.0") (sampleAdvisory [sampleListed]) _
    (.utc 0) "" "" rfl (by decide +kernel) (by decide +kernel)
  revert hsame
  decide +kernel

/-- A range with an end and a purl survives. -/
theorem sameClass_iff_survives_range : ∃ r,
    OSVAdapter.record (.utc 0) "" 0 "" (sampleAdvisory [sampleAffected "PyPI" "pkg:pypi/urllib3"])
      = .ok r ∧
    (@evaluate asciiPython dottedPackaging (sampleUrllib "1.0")
        (sampleAdvisory [sampleAffected "PyPI" "pkg:pypi/urllib3"]) none none none "").matchClass
      = (@evaluate asciiPython dottedPackaging (sampleUrllib "1.0") (advisoryFromRecord r)
          none none none "").matchClass := by
  refine ⟨_, rfl, (@sameClass_iff_survives asciiPython dottedPackaging _ _ _ "pkg:pypi/urllib3"
    "1.0" (.utc 0) "" "" "" "" 0 none rfl (by decide +kernel) (by decide +kernel)).2 fun _ => ?_⟩
  refine @Survives.mk asciiPython dottedPackaging _ _ _ ?_ ?_
  · decide +kernel
  · decide +kernel

end VulnOpsHub
