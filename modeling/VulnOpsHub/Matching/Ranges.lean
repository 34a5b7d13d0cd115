import VulnOpsHub.Matching.Identity
import Mathlib.Order.WithBot

set_option autoImplicit false

/-! # Ranges of several intervals

An OSV range lists the ends of half-open intervals of versions in increasing order. The matcher
keeps one `introduced` and one `fixed` of them all, so it decides membership in the last interval
only. -/

namespace VulnOpsHub

/-! ## Intervals and their events -/

/-- Versions from `introduced` on, up to but without `fixed`. -/
structure VersionInterval where
  introduced : String
  fixed : Option String
deriving DecidableEq, Repr

/-- The intervals of a range: only the last may be open. -/
structure IntervalList where
  closed : List (String × String)
  last : VersionInterval
deriving DecidableEq, Repr

namespace IntervalList

def intervals (l : IntervalList) : List VersionInterval :=
  l.closed.map (fun iv => ⟨iv.1, some iv.2⟩) ++ [l.last]

end IntervalList

def VersionInterval.events (iv : VersionInterval) : List OsvEvent :=
  [("introduced", iv.introduced)] :: (iv.fixed.map fun f => [("fixed", f)]).toList

/-- The events of a range with these intervals. -/
def IntervalList.events (l : IntervalList) : List OsvEvent :=
  l.intervals.flatMap VersionInterval.events

/-- The event loop keeps the last interval's beginning and the last end there is. -/
theorem foldl_closed_events (closed : List (String × String)) (b : RangeBounds) :
    ((closed.map fun iv => (⟨iv.1, some iv.2⟩ : VersionInterval)).flatMap
        VersionInterval.events).foldl RangeBounds.update b
      = ⟨(closed.getLast?.map (·.1)).or b.introduced, (closed.getLast?.map (·.2)).or b.fixed,
          b.lastAffected⟩ := by
  induction closed generalizing b with
  | nil => rfl
  | cons iv rest ih =>
      rw [List.map_cons, List.flatMap_cons, List.foldl_append, ih, List.getLast?_cons]
      cases rest.getLast? <;> rfl

theorem eventBounds_events (l : IntervalList) : eventBounds l.events
    = ⟨some l.last.introduced, l.last.fixed.or (l.closed.getLast?.map (·.2)), none⟩ := by
  unfold eventBounds IntervalList.events IntervalList.intervals
  rw [List.flatMap_append, List.foldl_append, foldl_closed_events]
  obtain ⟨closed, introduced, fixed⟩ := l
  cases fixed <;> simp [VersionInterval.events, RangeBounds.update]

section Membership

variable [Packaging]

/-! ## Membership -/

/-- The version is at or past the beginning of an interval; "0" is before all versions. -/
def Reaches (v introduced : String) : Prop :=
  introduced = "0" ∨ ∃ kv ki, versionKey v = some kv ∧ versionKey introduced = some ki ∧ ki ≤ kv

/-- The version is before the end of an interval. -/
def Precedes (v fixed : String) : Prop :=
  ∃ kv kf, versionKey v = some kv ∧ versionKey fixed = some kf ∧ kv < kf

def VersionInterval.Contains (iv : VersionInterval) (v : String) : Prop :=
  Reaches v iv.introduced ∧ ∀ f, iv.fixed = some f → Precedes v f

/-- The union of the intervals. -/
def IntervalList.Contains (l : IntervalList) (v : String) : Prop :=
  ∃ iv ∈ l.intervals, iv.Contains v

/-- The version and all ends of intervals are versions. -/
structure IntervalList.Comparable (l : IntervalList) (v : String) : Prop where
  version : (versionKey v).isSome
  introduced : ∀ iv ∈ l.intervals, iv.introduced = "0" ∨ (versionKey iv.introduced).isSome
  fixed : ∀ iv ∈ l.intervals, ∀ f, iv.fixed = some f → (versionKey f).isSome

/-- Where an interval begins in the order of versions. -/
def beginning (introduced : String) : Option (WithBot Packaging.Key) :=
  if introduced = "0" then some ⊥ else (versionKey introduced).map (↑)

/-- The ends of an interval in the order of versions. -/
def VersionInterval.ends (iv : VersionInterval) : List (WithBot Packaging.Key) :=
  (beginning iv.introduced).toList ++ ((iv.fixed.bind versionKey).map (↑)).toList

/-- The events are sorted: `introduced₁ < fixed₁ < introduced₂ < ...`. -/
def IntervalList.Sorted (l : IntervalList) : Prop :=
  (l.intervals.flatMap VersionInterval.ends).Pairwise (· < ·)

theorem reaches_iff {v i : String} (hv : (versionKey v).isSome)
    (hi : i = "0" ∨ (versionKey i).isSome) :
    Reaches v i ↔ ¬ (i ≠ "0" ∧ compareVersions v i < 0) := by
  unfold Reaches
  obtain ⟨kv, hkv⟩ := Option.isSome_iff_exists.1 hv
  by_cases hzero : i = "0"
  · simp [hzero]
  · obtain ⟨ki, hki⟩ := Option.isSome_iff_exists.1 (hi.resolve_left hzero)
    rw [compareVersions_neg hkv hki, hkv, hki]
    simp [hzero]

theorem precedes_iff {v f : String} (hv : (versionKey v).isSome) (hf : (versionKey f).isSome) :
    Precedes v f ↔ ¬ 0 ≤ compareVersions v f := by
  obtain ⟨kv, hkv⟩ := Option.isSome_iff_exists.1 hv
  obtain ⟨kf, hkf⟩ := Option.isSome_iff_exists.1 hf
  unfold Precedes
  rw [compareVersions_nonneg hkv hkf, hkv, hkf]
  simp

theorem nonEmpty_of_isSome {s : String} (h : (versionKey s).isSome) :
    nonEmpty (some s) = some s := by
  obtain ⟨k, hk⟩ := Option.isSome_iff_exists.1 h
  exact nonEmpty_eq_some.2 ⟨rfl, ne_empty_of_versionKey hk⟩

/-- On versions, `is_version_in_range` is membership in the interval. -/
theorem isVersionInRange_iff {v i : String} {fixed : Option String} (hv : (versionKey v).isSome)
    (hi : i = "0" ∨ (versionKey i).isSome) (hf : ∀ f, fixed = some f → (versionKey f).isSome) :
    isVersionInRange v (some i) fixed none = true ↔
      Reaches v i ∧ ∀ f, fixed = some f → Precedes v f := by
  have hine : nonEmpty (some i) = some i := by
    rcases hi with rfl | hi
    · rfl
    · exact nonEmpty_of_isSome hi
  unfold isVersionInRange
  rw [hine, reaches_iff hv hi]
  cases fixed with
  | none => simp [nonEmpty, or_iff_not_imp_left]
  | some f =>
      have hfixed := hf f rfl
      rw [nonEmpty_of_isSome hfixed]
      simp [precedes_iff hv hfixed, nonEmpty, or_iff_not_imp_left]

/-- In a sorted list the last interval begins past the end of the one before it. -/
theorem IntervalList.Sorted.lt_of_getLast? {l : IntervalList} (h : l.Sorted)
    {iv : String × String} (hiv : l.closed.getLast? = some iv) :
    ∀ x ∈ (VersionInterval.mk iv.1 (some iv.2)).ends, ∀ y ∈ l.last.ends, x < y := by
  unfold IntervalList.Sorted IntervalList.intervals at h
  rw [List.flatMap_append, List.pairwise_append] at h
  intro x hx y hy
  have hmem : iv ∈ l.closed := List.mem_of_getLast? hiv
  refine h.2.2 x (List.mem_flatMap.2 ⟨_, List.mem_map.2 ⟨iv, hmem, rfl⟩, hx⟩) y ?_
  exact List.mem_flatMap.2 ⟨l.last, List.mem_singleton.2 rfl, hy⟩

/-- So no version has reached the last interval and precedes that end. -/
theorem IntervalList.Sorted.not_precedes {l : IntervalList} (h : l.Sorted) {iv : String × String}
    (hiv : l.closed.getLast? = some iv) {v : String} (hreaches : Reaches v l.last.introduced) :
    ¬ Precedes v iv.2 := by
  rintro ⟨kv, kf, hkv, hkf, hlt⟩
  have hpair := h.lt_of_getLast? hiv
  have hend : (kf : WithBot Packaging.Key) ∈
      (VersionInterval.mk iv.1 (some iv.2)).ends := by
    simp [VersionInterval.ends, hkf]
  by_cases hzero : l.last.introduced = "0"
  · have hbegin : ⊥ ∈ l.last.ends := by simp [VersionInterval.ends, beginning, hzero]
    exact not_lt_bot (hpair _ hend _ hbegin)
  · obtain ⟨kv', ki, hkv', hki, hle⟩ := hreaches.resolve_left hzero
    rw [hkv] at hkv'
    cases hkv'
    have hbegin : (ki : WithBot Packaging.Key) ∈ l.last.ends := by
      simp [VersionInterval.ends, beginning, hzero, hki]
    have hpast : kf < ki := WithBot.coe_lt_coe.1 (hpair _ hend _ hbegin)
    exact lt_irrefl _ (hlt.trans (hpast.trans_le hle))

/-- The last end of a comparable list is a version. -/
theorem IntervalList.Comparable.lastEnd {l : IntervalList} {v f : String} (h : l.Comparable v)
    (hf : l.last.fixed.or (l.closed.getLast?.map (·.2)) = some f) : (versionKey f).isSome := by
  rcases Option.or_eq_some_iff.1 hf with hf | ⟨-, hf⟩
  · exact h.fixed _ (List.mem_append_right _ (List.mem_singleton.2 rfl)) f hf
  · obtain ⟨iv, hiv, rfl⟩ := Option.map_eq_some_iff.1 hf
    have hmem : iv ∈ l.closed := List.mem_of_getLast? hiv
    exact h.fixed _ (List.mem_append_left _ (List.mem_map.2 ⟨iv, hmem, rfl⟩)) _ rfl

/-- What the matcher sees of the range: the last interval, and that only if it is closed or the only
    one. With an open interval after closed ones, the loop pairs its beginning with the end before
    it. -/
theorem rangeContains_events {l : IntervalList} {v : String} {type : Option String}
    (hcomparable : l.Comparable v) (hsorted : l.Sorted) :
    rangeContains v ⟨type, l.events⟩ = true ↔
      l.last.Contains v ∧ (l.last.fixed.isSome ∨ l.closed = []) := by
  have hlast : l.last ∈ l.intervals := List.mem_append_right _ (List.mem_singleton.2 rfl)
  unfold rangeContains
  dsimp only
  rw [eventBounds_events, isVersionInRange_iff hcomparable.version
    (hcomparable.introduced _ hlast) fun f hf => hcomparable.lastEnd hf]
  unfold VersionInterval.Contains
  cases l.last.fixed with
  | some f => simp
  | none =>
      rw [Option.none_or]
      cases hc : l.closed.getLast? with
      | none => simp [List.getLast?_eq_none_iff.1 hc]
      | some iv =>
          have hne : l.closed ≠ [] := List.ne_nil_of_mem (List.mem_of_getLast? hc)
          simp only [Option.map_some, Option.some.injEq, forall_eq', hne, or_false,
            Option.isSome_none, Bool.false_eq_true, and_false, iff_false]
          rintro ⟨hreaches, hprecedes⟩
          exact hsorted.not_precedes hc hreaches hprecedes

/-! ## Advisories whose ranges list intervals -/

/-- The range lists the intervals of `l`, sorted, and the version compares with their ends. -/
structure ListsIntervals (v : String) (range : OsvRange) (l : IntervalList) : Prop where
  events : range.events = l.events
  comparable : l.Comparable v
  sorted : l.Sorted

namespace OsvAffected

/-- Every range of the entry lists intervals. -/
def WellFormed (aff : OsvAffected) (v : String) : Prop :=
  ∀ range ∈ aff.ranges, ∃ l, ListsIntervals v range l

/-- The version is in the union of the entry's intervals, or listed. -/
def Vulnerable (aff : OsvAffected) (v : String) : Prop :=
  (∃ range ∈ aff.ranges, ∃ l, ListsIntervals v range l ∧ l.Contains v) ∨ v ∈ aff.versions

/-- The version is listed, or in the last interval of a range that closes it or has no other. -/
def Seen (aff : OsvAffected) (v : String) : Prop :=
  (∃ range ∈ aff.ranges, ∃ l, ListsIntervals v range l ∧ l.last.Contains v ∧
    (l.last.fixed.isSome ∨ l.closed = [])) ∨ v ∈ aff.versions

end OsvAffected

theorem ListsIntervals.rangeContains_iff {v : String} {range : OsvRange} {l : IntervalList}
    (h : ListsIntervals v range l) : rangeContains v range = true ↔
      l.last.Contains v ∧ (l.last.fixed.isSome ∨ l.closed = []) := by
  obtain ⟨type, events⟩ := range
  obtain rfl : events = l.events := h.events
  exact rangeContains_events h.comparable h.sorted

theorem OsvAffected.WellFormed.covers_iff {aff : OsvAffected} {v : String}
    (h : aff.WellFormed v) : covers v aff = true ↔ aff.Seen v := by
  unfold covers OsvAffected.Seen
  rw [Bool.or_eq_true, List.any_eq_true, List.contains_iff_mem]
  refine or_congr_left (exists_congr fun range => and_congr_right fun hrange => ?_)
  constructor
  · intro hcontains
    obtain ⟨l, hl⟩ := h range hrange
    exact ⟨l, hl, hl.rangeContains_iff.1 hcontains⟩
  · rintro ⟨l, hl, hlast⟩
    exact hl.rangeContains_iff.2 hlast

theorem OsvAffected.Seen.vulnerable {aff : OsvAffected} {v : String} (h : aff.Seen v) :
    aff.Vulnerable v := by
  refine h.imp_left ?_
  rintro ⟨range, hrange, l, hl, hcontains, -⟩
  exact ⟨range, hrange, l, hl, _, List.mem_append_right _ (List.mem_singleton.2 rfl), hcontains⟩

end Membership

section Union

variable [Python]

/-- The matcher decides by ranges: the component has a purl of a supported ecosystem, and the guard
    lets the entry pass. -/
structure DecidedByRanges (c : ParsedComponent) (aff : OsvAffected) : Prop where
  purl : (nonEmpty c.purl).isSome
  supported : supportsEcosystem (normalizeEcosystem c.ecosystem) = true
  passes : ecosystemPasses (normalizeEcosystem c.ecosystem) aff = true

variable [Packaging]

/-- The version is vulnerable by an entry about the component's package. -/
def Affects (c : ParsedComponent) (advisory : OsvAdvisory) (v : String) : Prop :=
  ∃ aff ∈ advisory.affected, packageIdentityMatches c aff.package = true ∧ aff.Vulnerable v

/-- The matcher gets to see that. -/
def SeenToAffect (c : ParsedComponent) (advisory : OsvAdvisory) (v : String) : Prop :=
  ∃ aff ∈ advisory.affected, packageIdentityMatches c aff.package = true ∧
    DecidedByRanges c aff ∧ aff.Seen v

variable {c : ParsedComponent} {advisory : OsvAdvisory} {v : String}

theorem SeenToAffect.affects (h : SeenToAffect c advisory v) : Affects c advisory v := by
  obtain ⟨aff, haff, hidentity, -, hseen⟩ := h
  exact ⟨aff, haff, hidentity, hseen.vulnerable⟩

theorem deterministic_iff_seen {assetContext : Option AssetContext} {uuid : String}
    (hv : c.rawVersion = some v) (hversion : (versionKey v).isSome)
    (hwf : ∀ aff ∈ advisory.affected, packageIdentityMatches c aff.package = true →
      aff.WellFormed v) :
    (evaluate c advisory assetContext none none uuid).matchClass = .deterministic ↔
      SeenToAffect c advisory v := by
  rw [evaluate_deterministic_iff, hv, nonEmpty_of_isSome hversion]
  constructor
  · rintro ⟨purl, _, hp, hv', hsupported, aff, haff, happlies, hcovers⟩
    cases hv'
    obtain ⟨hpasses, hidentity⟩ := Bool.and_eq_true_iff.1 happlies
    refine ⟨aff, haff, hidentity, ⟨?_, hsupported, hpasses⟩, ?_⟩
    · exact Option.isSome_iff_exists.2 ⟨purl, hp⟩
    · exact (hwf aff haff hidentity).covers_iff.1 hcovers
  · rintro ⟨aff, haff, hidentity, ⟨hpurl, hsupported, hpasses⟩, hseen⟩
    obtain ⟨purl, hp⟩ := Option.isSome_iff_exists.1 hpurl
    refine ⟨purl, v, hp, rfl, hsupported, aff, haff, ?_, ?_⟩
    · exact Bool.and_eq_true_iff.2 ⟨hpasses, hidentity⟩
    · exact (hwf aff haff hidentity).covers_iff.2 hseen

/-- **Ranges of several intervals.** A component's evaluation answers whether its version is in the
    union of the intervals exactly when a version that is in it is one the event loop gets to
    see. -/
theorem deterministic_iff_affects_iff (assetContext : Option AssetContext) (uuid : String)
    (hv : c.rawVersion = some v) (hversion : (versionKey v).isSome)
    (hwf : ∀ aff ∈ advisory.affected, packageIdentityMatches c aff.package = true →
      aff.WellFormed v) :
    ((evaluate c advisory assetContext none none uuid).matchClass = .deterministic ↔
        Affects c advisory v) ↔
      (Affects c advisory v → SeenToAffect c advisory v) := by
  rw [deterministic_iff_seen hv hversion hwf]
  exact ⟨fun h => h.2, fun h => ⟨SeenToAffect.affects, h⟩⟩

end Union

/-- An entry for a pypi package with one range. -/
def sampleEntry (l : IntervalList) : OsvAffected where
  package := ⟨some "PyPI", some "pkg:pypi/urllib3", none⟩
  ranges := [⟨some "ECOSYSTEM", l.events⟩]
  versions := []

def sampleAdvisory (affected : List OsvAffected) : OsvAdvisory where
  id := some "GHSA-1"
  vulnerabilityId := none
  aliases := some []
  summary := none
  details := none
  affected := affected
  references := []

/-- Vulnerable up to 1.5, and again from 2.0 up to 2.3. -/
def sampleIntervals : IntervalList where
  closed := [("0", "1.5")]
  last := ⟨"2.0", some "2.3"⟩

/-- A version of the package. -/
def sampleUrllib (version : String) : ParsedComponent :=
  sampleComponent (some "pkg:pypi/urllib3") (some "pypi") "urllib3" version

theorem sampleIntervals_listed {v : String} (hv : (@versionKey dottedPackaging v).isSome) :
    @ListsIntervals dottedPackaging v ⟨some "ECOSYSTEM", sampleIntervals.events⟩
      sampleIntervals := by
  refine @ListsIntervals.mk dottedPackaging _ _ _ rfl ?_ ?_
  · refine @IntervalList.Comparable.mk dottedPackaging _ _ hv ?_ ?_
    · decide +kernel
    · decide +kernel
  · unfold IntervalList.Sorted
    decide +kernel

theorem sampleEntry_wellFormed {v : String} (hv : (@versionKey dottedPackaging v).isSome) :
    ∀ aff ∈ (sampleAdvisory [sampleEntry sampleIntervals]).affected,
      @packageIdentityMatches asciiPython (sampleUrllib v) aff.package = true →
        @OsvAffected.WellFormed dottedPackaging aff v := by
  intro aff haff _ range hrange
  obtain rfl := List.mem_singleton.1 haff
  obtain rfl := List.mem_singleton.1 hrange
  exact ⟨sampleIntervals, sampleIntervals_listed hv⟩

/-- The matcher clears a version of the first interval. -/
theorem ranges_not_union : ¬ ∀ (_ : Python) (_ : Packaging) (c : ParsedComponent)
    (advisory : OsvAdvisory) (v : String) (assetContext : Option AssetContext) (uuid : String),
      c.rawVersion = some v → (versionKey v).isSome →
      (∀ aff ∈ advisory.affected, packageIdentityMatches c aff.package = true →
        aff.WellFormed v) →
      ((evaluate c advisory assetContext none none uuid).matchClass = .deterministic ↔
        Affects c advisory v) := by
  intro h
  have hversion : (@versionKey dottedPackaging "1.0").isSome := by decide +kernel
  have hunion := h asciiPython dottedPackaging (sampleUrllib "1.0")
    (sampleAdvisory [sampleEntry sampleIntervals]) "1.0" none "" rfl hversion
    (sampleEntry_wellFormed hversion)
  have haffects : @Affects asciiPython dottedPackaging (sampleUrllib "1.0")
      (sampleAdvisory [sampleEntry sampleIntervals]) "1.0" := by
    refine ⟨_, List.mem_singleton.2 rfl, by decide +kernel, Or.inl ⟨_, List.mem_singleton.2 rfl,
      sampleIntervals, sampleIntervals_listed hversion, ⟨"0", some "1.5"⟩, by decide, Or.inl rfl,
      ?_⟩⟩
    intro f hf
    cases hf
    exact ⟨_, _, rfl, rfl, by decide +kernel⟩
  have hclass := hunion.2 haffects
  revert hclass
  decide +kernel

/-- It does find one of the last interval. -/
theorem deterministic_iff_affects_iff_last :
    (@evaluate asciiPython dottedPackaging (sampleUrllib "2.1")
      (sampleAdvisory [sampleEntry sampleIntervals]) none none none "").matchClass
        = .deterministic ↔
      @Affects asciiPython dottedPackaging (sampleUrllib "2.1")
        (sampleAdvisory [sampleEntry sampleIntervals]) "2.1" := by
  have hversion : (@versionKey dottedPackaging "2.1").isSome := by decide +kernel
  refine (@deterministic_iff_affects_iff asciiPython dottedPackaging _ _ "2.1" none "" rfl
    hversion (sampleEntry_wellFormed hversion)).2 fun _ => ?_
  refine ⟨_, List.mem_singleton.2 rfl, by decide +kernel, ?_, ?_⟩
  · exact @DecidedByRanges.mk asciiPython _ _ (by decide +kernel) (by decide +kernel)
      (by decide +kernel)
  · refine Or.inl ⟨_, List.mem_singleton.2 rfl, sampleIntervals, sampleIntervals_listed hversion,
      ⟨Or.inr ⟨_, _, rfl, rfl, by decide +kernel⟩, ?_⟩, Or.inl rfl⟩
    intro f hf
    cases hf
    exact ⟨_, _, rfl, rfl, by decide +kernel⟩

end VulnOpsHub
