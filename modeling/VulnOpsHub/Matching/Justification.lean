import VulnOpsHub.Matching.Ranges

set_option autoImplicit false

/-! # What justifies a deterministic match

OSV knows three types of ranges and three kinds of events. A version is inside a range when it has
reached an `introduced` event and neither a `fixed` nor a `last_affected` event ends the interval
before it; the events of a `GIT` range are commits and say nothing about versions.

The matcher looks at no range's type, and reads the last bound under the key `lastAffected`. Here is
when its deterministic answers are justified all the same. -/

namespace VulnOpsHub

namespace OsvRange

/-- The versions of the events of a kind. -/
def bounds (kind : String) (range : OsvRange) : List String :=
  range.events.filterMap fun event => event.lookup kind

/-- Where the intervals of a range begin; a range without `introduced` begins before all versions. -/
def beginnings (range : OsvRange) : List String :=
  match range.bounds "introduced" with
  | [] => ["0"]
  | introduced => introduced

/-- The range is about versions. -/
def Versioned (range : OsvRange) : Prop :=
  range.type = some "ECOSYSTEM" ∨ range.type = some "SEMVER"

instance (range : OsvRange) : Decidable range.Versioned :=
  inferInstanceAs (Decidable (_ ∨ _))

section Membership

variable [Packaging]

/-- The version is at or past the beginning of an interval, in the order the matcher uses. -/
def Begun (v introduced : String) : Prop := introduced = "0" ∨ 0 ≤ compareVersions v introduced

instance (v introduced : String) : Decidable (Begun v introduced) :=
  inferInstanceAs (Decidable (_ ∨ _))

/-- The version is inside an interval of the range. -/
def Inside (range : OsvRange) (v : String) : Prop :=
  ∃ i ∈ range.beginnings, Begun v i ∧
    (∀ f ∈ range.bounds "fixed", Begun f i → compareVersions v f < 0) ∧
    ∀ l ∈ range.bounds "last_affected", Begun l i → compareVersions v l ≤ 0

instance (range : OsvRange) (v : String) : Decidable (range.Inside v) :=
  inferInstanceAs (Decidable (∃ i ∈ range.beginnings, Begun v i ∧
    (∀ f ∈ range.bounds "fixed", Begun f i → compareVersions v f < 0) ∧
    ∀ l ∈ range.bounds "last_affected", Begun l i → compareVersions v l ≤ 0))

/-- The version is above a `last_affected` version, and no later interval has begun. -/
def Exceeded (range : OsvRange) (v : String) : Prop :=
  ∃ l ∈ range.bounds "last_affected", 0 < compareVersions v l ∧
    ∀ i ∈ range.beginnings, Begun v i → Begun l i

instance (range : OsvRange) (v : String) : Decidable (range.Exceeded v) :=
  inferInstanceAs (Decidable (∃ l ∈ range.bounds "last_affected", 0 < compareVersions v l ∧
    ∀ i ∈ range.beginnings, Begun v i → Begun l i))

/-- A version beyond the last affected one is not inside. -/
theorem Exceeded.not_inside {range : OsvRange} {v : String} (h : range.Exceeded v) :
    ¬ range.Inside v := by
  obtain ⟨l, hl, habove, hlater⟩ := h
  rintro ⟨i, hi, hbegun, -, hlast⟩
  have hle := hlast l hl (hlater i hi hbegun)
  omega

end Membership

end OsvRange

section Justification

variable [Python] [Packaging]

/-- An entry of the component's package lists the version, or has it inside a range of versions. -/
def Justified (c : ParsedComponent) (advisory : OsvAdvisory) (v : String) : Prop :=
  ∃ aff ∈ advisory.affected, packageIdentityMatches c aff.package = true ∧
    (v ∈ aff.versions ∨ ∃ range ∈ aff.ranges, range.Versioned ∧ range.Inside v)

instance (c : ParsedComponent) (advisory : OsvAdvisory) (v : String) :
    Decidable (Justified c advisory v) :=
  inferInstanceAs (Decidable (∃ aff ∈ advisory.affected, packageIdentityMatches c aff.package = true ∧
    (v ∈ aff.versions ∨ ∃ range ∈ aff.ranges, range.Versioned ∧ range.Inside v)))

/-- A range by which the matcher finds the version: one of an entry that applies, which contains the
    version by the last event it has of each kind the matcher knows. -/
def Contributes (c : ParsedComponent) (advisory : OsvAdvisory) (v : String) (range : OsvRange) :
    Prop :=
  ∃ aff ∈ advisory.affected, applies c aff = true ∧ range ∈ aff.ranges ∧
    rangeContains v range = true

/-- The matcher compares versions at all: there is a purl, and its ecosystem is supported. -/
def ComparesVersions (c : ParsedComponent) : Prop :=
  (nonEmpty c.purl).isSome ∧ (nonEmpty c.rawVersion).isSome ∧
    supportsEcosystem (normalizeEcosystem c.ecosystem) = true

/-- A deterministic answer is justified, and comes from no range of commits and from none that the
    version is beyond. -/
def JustifiedAnswer (c : ParsedComponent) (advisory : OsvAdvisory) (v : String)
    (result : ExposureResult) : Prop :=
  result.matchClass = .deterministic →
    Justified c advisory v ∧ ∀ range, Contributes c advisory v range →
      range.type ≠ some "GIT" ∧ ¬ range.Exceeded v

/-- The ranges that contain the version by their last events may be relied on: none is of commits,
    the version is beyond none, and if there are any, a listed version or a range of versions bears
    them out. -/
structure ReliableRanges (c : ParsedComponent) (advisory : OsvAdvisory) (v : String) : Prop where
  versions : ∀ range, Contributes c advisory v range → range.type ≠ some "GIT"
  bounded : ∀ range, Contributes c advisory v range → ¬ range.Exceeded v
  borneOut : ∀ range, Contributes c advisory v range → Justified c advisory v

variable {c : ParsedComponent} {advisory : OsvAdvisory} {v : String}

/-- A listed version justifies itself. -/
theorem justified_of_listed {aff : OsvAffected} (haff : aff ∈ advisory.affected)
    (happlies : applies c aff = true) (hv : v ∈ aff.versions) : Justified c advisory v :=
  ⟨aff, haff, (Bool.and_eq_true_iff.1 happlies).2, Or.inl hv⟩

/-- A deterministic answer is by a listed version or by a range that contributes. -/
theorem justified_or_contributes {aff : OsvAffected} (haff : aff ∈ advisory.affected)
    (happlies : applies c aff = true) (hcovers : covers v aff = true) :
    Justified c advisory v ∨ ∃ range, Contributes c advisory v range := by
  unfold covers at hcovers
  rw [Bool.or_eq_true, List.any_eq_true, List.contains_iff_mem] at hcovers
  rcases hcovers with ⟨range, hrange, hcontains⟩ | hlisted
  · exact Or.inr ⟨range, aff, haff, happlies, hrange, hcontains⟩
  · exact Or.inl (justified_of_listed haff happlies hlisted)

/-- A range that contributes makes the answer deterministic. -/
theorem deterministic_of_contributes {assetContext : Option AssetContext} {uuid : String}
    (hv : c.rawVersion = some v) (hcompares : ComparesVersions c) {range : OsvRange}
    (hrange : Contributes c advisory v range) :
    (evaluate c advisory assetContext none none uuid).matchClass = .deterministic := by
  obtain ⟨hpurl, hversion, hsupported⟩ := hcompares
  obtain ⟨purl, hp⟩ := Option.isSome_iff_exists.1 hpurl
  obtain ⟨version, hversion⟩ := Option.isSome_iff_exists.1 hversion
  obtain rfl : v = version := by
    rw [hv] at hversion
    exact Option.some.inj (nonEmpty_eq_some.1 hversion).1
  obtain ⟨aff, haff, happlies, hmem, hcontains⟩ := hrange
  refine evaluate_deterministic_iff.2 ⟨purl, v, hp, hversion, hsupported, aff, haff, happlies, ?_⟩
  unfold covers
  rw [List.any_eq_true.2 ⟨range, hmem, hcontains⟩]
  rfl

/-- **Deterministic answers are justified** exactly when, for a component whose version is compared,
    the ranges that contain it by their last events may be relied on. -/
theorem justifiedAnswer_iff_reliableRanges (c : ParsedComponent) (advisory : OsvAdvisory)
    (v : String) (assetContext : Option AssetContext) (uuid : String) (hv : c.rawVersion = some v) :
    JustifiedAnswer c advisory v (evaluate c advisory assetContext none none uuid) ↔
      (ComparesVersions c → ReliableRanges c advisory v) := by
  constructor
  · intro h hcompares
    have hanswer : ∀ range, Contributes c advisory v range → _ := fun range hrange =>
      h (deterministic_of_contributes hv hcompares hrange)
    exact
      { versions := fun range hrange => ((hanswer range hrange).2 range hrange).1
        bounded := fun range hrange => ((hanswer range hrange).2 range hrange).2
        borneOut := fun range hrange => (hanswer range hrange).1 }
  · intro h hclass
    obtain ⟨purl, version, hp, hversion, hsupported, aff, haff, happlies, hcovers⟩ :=
      evaluate_deterministic_iff.1 hclass
    obtain rfl : v = version := by
      rw [hv] at hversion
      exact Option.some.inj (nonEmpty_eq_some.1 hversion).1
    have hreliable := h ⟨by rw [hp]; rfl, by rw [hversion]; rfl, hsupported⟩
    refine ⟨?_, fun range hrange => ⟨hreliable.versions range hrange,
      hreliable.bounded range hrange⟩⟩
    rcases justified_or_contributes haff happlies hcovers with hjustified | ⟨range, hrange⟩
    · exact hjustified
    · exact hreliable.borneOut range hrange

end Justification

/-- An entry for a pypi package whose range ends with a last affected version. -/
def sampleLastAffected : OsvAffected where
  package := ⟨some "PyPI", some "pkg:pypi/urllib3", none⟩
  ranges := [⟨some "ECOSYSTEM", [[("introduced", "0")], [("last_affected", "1.0")]]⟩]
  versions := []

/-- A version above the last affected one is matched. -/
theorem answer_not_justified : ¬ ∀ (_ : Python) (_ : Packaging) (c : ParsedComponent)
    (advisory : OsvAdvisory) (v : String) (assetContext : Option AssetContext) (uuid : String),
      c.rawVersion = some v →
      JustifiedAnswer c advisory v (evaluate c advisory assetContext none none uuid) := by
  intro h
  have hanswer := h asciiPython dottedPackaging (sampleUrllib "2.0")
    (sampleAdvisory [sampleLastAffected]) "2.0" none "" rfl (by decide +kernel)
  have hnot : ¬ @Justified asciiPython dottedPackaging (sampleUrllib "2.0")
      (sampleAdvisory [sampleLastAffected]) "2.0" := by decide +kernel
  exact hnot hanswer.1

/-- A range with an end of the other kind is reliable. -/
theorem justifiedAnswer_iff_reliableRanges_fixed :
    @JustifiedAnswer asciiPython dottedPackaging (sampleUrllib "2.1")
      (sampleAdvisory [sampleEntry sampleIntervals]) "2.1"
      (@evaluate asciiPython dottedPackaging (sampleUrllib "2.1")
        (sampleAdvisory [sampleEntry sampleIntervals]) none none none "") := by
  refine (@justifiedAnswer_iff_reliableRanges asciiPython dottedPackaging _ _ "2.1" none "" rfl).2
    fun _ => ?_
  have hrange : ∀ range, @Contributes asciiPython dottedPackaging (sampleUrllib "2.1")
      (sampleAdvisory [sampleEntry sampleIntervals]) "2.1" range →
      range = ⟨some "ECOSYSTEM", sampleIntervals.events⟩ := by
    rintro range ⟨aff, haff, -, hmem, -⟩
    obtain rfl := List.mem_singleton.1 haff
    exact List.mem_singleton.1 hmem
  refine @ReliableRanges.mk asciiPython dottedPackaging _ _ _ ?_ ?_ ?_
  · intro range h
    rw [hrange range h]
    decide
  · intro range h
    rw [hrange range h]
    decide +kernel
  · intro range _
    decide +kernel

end VulnOpsHub
