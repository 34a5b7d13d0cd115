import VulnOpsHub.Matching.Justification

set_option autoImplicit false

/-! # What justifies a clearance

The matcher answers `not_affected` when an entry is about the component, no such entry has its
version, and any entry of the advisory has ranges or versions at all. Here is when such an answer is
justified by the entries about the component. -/

namespace VulnOpsHub

/-- The entry itself says which versions are affected. -/
def OsvAffected.CarriesVersions (aff : OsvAffected) : Prop := aff.ranges ≠ [] ∨ aff.versions ≠ []

instance (aff : OsvAffected) : Decidable aff.CarriesVersions :=
  inferInstanceAs (Decidable (aff.ranges ≠ [] ∨ aff.versions ≠ []))

section Clearance

variable [Python]

/-- The entries that apply clear the version, by a reading of what is inside a range: one of them
    says which versions are affected, and none of them has this one. -/
structure Cleared (inside : OsvRange → Prop) (c : ParsedComponent) (advisory : OsvAdvisory)
    (v : String) : Prop where
  carries : ∃ aff ∈ advisory.affected, applies c aff = true ∧ aff.CarriesVersions
  excluded : ∀ aff ∈ advisory.affected, applies c aff = true →
    v ∉ aff.versions ∧ ∀ range ∈ aff.ranges, ¬ inside range

/-- A `not_affected` answer is justified, by a reading of what is inside a range. -/
def ClearedAnswer (inside : String → OsvRange → Prop) (c : ParsedComponent)
    (advisory : OsvAdvisory) (result : ExposureResult) : Prop :=
  result.matchClass = .notAffected →
    ∃ v, c.rawVersion = some v ∧ Cleared (inside v) c advisory v

/-- If the advisory has ranges or versions, and an entry applies, then one that applies has them. -/
def OwnVersions (c : ParsedComponent) (advisory : OsvAdvisory) : Prop :=
  (∃ aff ∈ advisory.affected, applies c aff = true) → hasRanges advisory = true →
    ∃ aff ∈ advisory.affected, applies c aff = true ∧ aff.CarriesVersions

instance (c : ParsedComponent) (advisory : OsvAdvisory) : Decidable (OwnVersions c advisory) :=
  inferInstanceAs (Decidable ((∃ aff ∈ advisory.affected, applies c aff = true) →
    hasRanges advisory = true →
    ∃ aff ∈ advisory.affected, applies c aff = true ∧ aff.CarriesVersions))

variable [Packaging]

/-- A range has the version inside as the matcher reads it. -/
def MatcherReads (v : String) (range : OsvRange) : Prop := rangeContains v range = true

/-- A range has the version inside as OSV has it. -/
def OsvReads (v : String) (range : OsvRange) : Prop := range.Versioned ∧ range.Inside v

/-- No range of an entry that applies has the version inside an interval which the matcher, by the
    last event of each kind, does not see; unless the matcher finds the version elsewhere. -/
def IntervalsSeen (c : ParsedComponent) (advisory : OsvAdvisory) (v : String) : Prop :=
  (∃ aff ∈ advisory.affected, applies c aff = true ∧ covers v aff = true) ∨
    ∀ aff ∈ advisory.affected, applies c aff = true → ∀ range ∈ aff.ranges,
      OsvReads v range → MatcherReads v range

variable {c : ParsedComponent} {advisory : OsvAdvisory} {assetContext : Option AssetContext}
  {uuid : String}

omit [Python] in
theorem not_covers_iff {v : String} {aff : OsvAffected} : ¬ covers v aff = true ↔
    v ∉ aff.versions ∧ ∀ range ∈ aff.ranges, ¬ MatcherReads v range := by
  unfold covers MatcherReads
  rw [Bool.or_eq_true, List.any_eq_true, List.contains_iff_mem]
  push Not
  exact and_comm

omit [Python] in
/-- An entry that has the version carries versions. -/
theorem carriesVersions_of_covers {v : String} {aff : OsvAffected} (h : covers v aff = true) :
    aff.CarriesVersions := by
  unfold covers at h
  rw [Bool.or_eq_true, List.any_eq_true, List.contains_iff_mem] at h
  rcases h with ⟨range, hrange, -⟩ | hlisted
  · exact Or.inl (List.ne_nil_of_mem hrange)
  · exact Or.inr (List.ne_nil_of_mem hlisted)

/-- When the matcher answers `not_affected`. -/
theorem evaluate_notAffected_iff :
    (evaluate c advisory assetContext none none uuid).matchClass = .notAffected ↔
      ∃ v, c.rawVersion = some v ∧ ComparesVersions c ∧
        (∃ aff ∈ advisory.affected, applies c aff = true) ∧ hasRanges advisory = true ∧
        ∀ aff ∈ advisory.affected, applies c aff = true → ¬ covers v aff = true := by
  by_cases hpresent : (nonEmpty c.purl).isSome ∧ (nonEmpty c.rawVersion).isSome
  · obtain ⟨purl, hp⟩ := Option.isSome_iff_exists.1 hpresent.1
    obtain ⟨v, hv⟩ := Option.isSome_iff_exists.1 hpresent.2
    have hraw : c.rawVersion = some v := (nonEmpty_eq_some.1 hv).1
    have hany : (advisory.affected.any fun aff => applies c aff && covers v aff) = true ↔
        ∃ aff ∈ advisory.affected, applies c aff = true ∧ covers v aff = true := by simp
    rw [evaluate_of_range hp hv]
    simp only [hraw, Option.some.injEq, exists_eq_left']
    split_ifs with hsupports hmatched hother
    · obtain ⟨aff, haff, happlies, hcovers⟩ := hany.1 hmatched
      exact iff_of_false nofun fun h => h.2.2.2 aff haff happlies hcovers
    · obtain ⟨hsome, hranges⟩ := Bool.and_eq_true_iff.1 hother
      refine iff_of_true rfl
        ⟨⟨hpresent.1, hpresent.2, hsupports⟩, List.any_eq_true.1 hsome, hranges, ?_⟩
      exact fun aff haff happlies hcovers => hmatched (hany.2 ⟨aff, haff, happlies, hcovers⟩)
    · exact iff_of_false nofun fun h =>
        hother (Bool.and_eq_true_iff.2 ⟨List.any_eq_true.2 h.2.1, h.2.2.1⟩)
    · exact iff_of_false nofun fun h => hsupports h.1.2.2
  · constructor
    · intro h
      have hmissing : nonEmpty c.purl = none ∨ nonEmpty c.rawVersion = none := by
        simpa [imp_iff_not_or] using hpresent
      rcases evaluate_of_missing hmissing with hclass | hclass <;> rw [hclass] at h <;> cases h
    · rintro ⟨v, -, hcompares, -⟩
      exact absurd ⟨hcompares.1, hcompares.2.1⟩ hpresent

/-- An advisory about the component that has ranges or versions has its version, or clears it. -/
theorem covered_or_notAffected {v : String} (hv : c.rawVersion = some v)
    (hcompares : ComparesVersions c) (hsome : ∃ aff ∈ advisory.affected, applies c aff = true)
    (hranges : hasRanges advisory = true) :
    (∃ aff ∈ advisory.affected, applies c aff = true ∧ covers v aff = true) ∨
      (evaluate c advisory assetContext none none uuid).matchClass = .notAffected := by
  by_cases hcovered : ∃ aff ∈ advisory.affected, applies c aff = true ∧ covers v aff = true
  · exact Or.inl hcovered
  · refine Or.inr (evaluate_notAffected_iff.2 ⟨v, hv, hcompares, hsome, hranges, ?_⟩)
    exact fun aff haff happlies hcovers => hcovered ⟨aff, haff, happlies, hcovers⟩

/-- Whatever is inside a range, a justified answer rests on an entry's own versions. -/
theorem ClearedAnswer.ownVersions {inside : String → OsvRange → Prop}
    (h : ClearedAnswer inside c advisory (evaluate c advisory assetContext none none uuid))
    (hcompares : ComparesVersions c) : OwnVersions c advisory := by
  intro hsome hranges
  obtain ⟨v, hv⟩ := Option.isSome_iff_exists.1 hcompares.2.1
  rcases covered_or_notAffected (nonEmpty_eq_some.1 hv).1 hcompares hsome hranges with
    ⟨aff, haff, happlies, hcovers⟩ | hclass
  · exact ⟨aff, haff, happlies, carriesVersions_of_covers hcovers⟩
  · obtain ⟨_, -, hcleared⟩ := h hclass
    exact hcleared.carries

/-- **Clearances are justified**, with ranges as the matcher reads them, exactly when the ranges and
    versions of an advisory are not only those of entries about other packages; and with ranges as
    OSV reads them, exactly when besides the matcher sees every interval the version is in. -/
theorem clearedAnswer_iff (c : ParsedComponent) (advisory : OsvAdvisory)
    (assetContext : Option AssetContext) (uuid : String) :
    (ClearedAnswer MatcherReads c advisory (evaluate c advisory assetContext none none uuid) ↔
      (ComparesVersions c → OwnVersions c advisory)) ∧
    (ClearedAnswer OsvReads c advisory (evaluate c advisory assetContext none none uuid) ↔
      (ComparesVersions c → OwnVersions c advisory ∧
        ((∃ aff ∈ advisory.affected, applies c aff = true) → hasRanges advisory = true →
          ∀ v, c.rawVersion = some v → IntervalsSeen c advisory v))) := by
  refine ⟨⟨ClearedAnswer.ownVersions, fun h hclass => ?_⟩,
    ⟨fun h hcompares => ⟨h.ownVersions hcompares, ?_⟩,
      fun h hclass => ?_⟩⟩
  · obtain ⟨v, hv, hcompares, hsome, hranges, hnot⟩ := evaluate_notAffected_iff.1 hclass
    exact ⟨v, hv, h hcompares hsome hranges, fun aff haff happlies =>
      not_covers_iff.1 (hnot aff haff happlies)⟩
  · intro hsome hranges v hv
    rcases covered_or_notAffected hv hcompares hsome hranges with hcovered | hclass
    · exact Or.inl hcovered
    · obtain ⟨w, hw, hcleared⟩ := h hclass
      obtain rfl : v = w := Option.some.inj (hv.symm.trans hw)
      exact Or.inr fun aff haff happlies range hrange hreads =>
        absurd hreads ((hcleared.excluded aff haff happlies).2 range hrange)
  · obtain ⟨v, hv, hcompares, hsome, hranges, hnot⟩ := evaluate_notAffected_iff.1 hclass
    obtain ⟨hown, hseen⟩ := h hcompares
    refine ⟨v, hv, hown hsome hranges, fun aff haff happlies => ?_⟩
    obtain ⟨hlisted, houtside⟩ := not_covers_iff.1 (hnot aff haff happlies)
    rcases hseen hsome hranges v hv with ⟨aff', haff', happlies', hcovers⟩ | hintervals
    · exact absurd hcovers (hnot aff' haff' happlies')
    · exact ⟨hlisted, fun range hrange hreads =>
        houtside range hrange (hintervals aff haff happlies range hrange hreads)⟩

end Clearance

/-- An entry about the package that says nothing about versions, and one about another package that
    does. -/
def sampleSilent : OsvAdvisory := sampleAdvisory
  [⟨⟨some "PyPI", some "pkg:pypi/urllib3", none⟩, [], []⟩,
    ⟨⟨some "PyPI", some "pkg:pypi/requests", none⟩,
      [⟨some "ECOSYSTEM", [[("introduced", "0")], [("fixed", "2.0")]]⟩], []⟩]

/-- The ranges of another package clear the component. -/
theorem clearance_not_justified : ¬ ∀ (_ : Python) (_ : Packaging) (c : ParsedComponent)
    (advisory : OsvAdvisory) (assetContext : Option AssetContext) (uuid : String),
      ClearedAnswer MatcherReads c advisory
        (evaluate c advisory assetContext none none uuid) := by
  intro h
  obtain ⟨_, -, hcleared⟩ := h asciiPython dottedPackaging (sampleUrllib "1.0") sampleSilent none ""
    (by decide +kernel)
  have hnot : ¬ ∃ aff ∈ sampleSilent.affected,
      @applies asciiPython (sampleUrllib "1.0") aff = true ∧ aff.CarriesVersions := by
    decide +kernel
  exact hnot (@Cleared.carries asciiPython _ _ _ _ hcleared)

end VulnOpsHub
