import VulnOpsHub.Matching.Ranges
import Mathlib.Data.List.Forall2

set_option autoImplicit false

/-! # Rearranged and extended advisories

The loops of the matcher ask whether some entry has some range with the version. So the order of
entries, ranges and versions does not count, and what an advisory adds never takes a match away. -/

namespace VulnOpsHub

/-! ## Two advisories -/

/-- The same entry, with its ranges and its versions in another order. -/
structure OsvAffected.Reordered (aff aff' : OsvAffected) : Prop where
  package : aff'.package = aff.package
  ranges : aff.ranges.Perm aff'.ranges
  versions : aff.versions.Perm aff'.versions

/-- The same entries in another order, each reordered itself. -/
def OsvAdvisory.Reordered (advisory advisory' : OsvAdvisory) : Prop :=
  ∃ affected, advisory.affected.Perm affected ∧
    List.Forall₂ OsvAffected.Reordered affected advisory'.affected

/-- An entry about the same package with all the ranges and versions, and maybe more. -/
structure OsvAffected.Extended (aff aff' : OsvAffected) : Prop where
  package : aff'.package = aff.package
  ranges : aff.ranges ⊆ aff'.ranges
  versions : aff.versions ⊆ aff'.versions

/-- Every entry is still there, maybe extended; there may be others. -/
def OsvAdvisory.Extended (advisory advisory' : OsvAdvisory) : Prop :=
  ∀ aff ∈ advisory.affected, ∃ aff' ∈ advisory'.affected, aff.Extended aff'

theorem OsvAffected.Extended.refl (aff : OsvAffected) : aff.Extended aff :=
  ⟨rfl, List.Subset.refl _, List.Subset.refl _⟩

/-- Appended entries extend an advisory. -/
theorem OsvAdvisory.extended_append (advisory : OsvAdvisory) (more : List OsvAffected) :
    advisory.Extended { advisory with affected := advisory.affected ++ more } :=
  fun aff haff => ⟨aff, List.mem_append_left _ haff, OsvAffected.Extended.refl aff⟩

/-- So do ranges appended to its entries. -/
theorem OsvAdvisory.extended_map (advisory : OsvAdvisory) (more : OsvAffected → List OsvRange) :
    advisory.Extended { advisory with
      affected := advisory.affected.map fun aff => { aff with ranges := aff.ranges ++ more aff } } :=
  fun aff haff => ⟨_, List.mem_map.2 ⟨aff, haff, rfl⟩,
    ⟨rfl, List.subset_append_left _ _, List.Subset.refl _⟩⟩

theorem OsvAffected.Reordered.extended {aff aff' : OsvAffected} (h : aff.Reordered aff') :
    aff.Extended aff' ∧ aff'.Extended aff :=
  ⟨⟨h.package, h.ranges.subset, h.versions.subset⟩,
    ⟨h.package.symm, h.ranges.symm.subset, h.versions.symm.subset⟩⟩

/-- Entries paired off with extended ones are all still there. -/
theorem exists_extended {affected affected' : List OsvAffected}
    (h : List.Forall₂ OsvAffected.Extended affected affected') :
    ∀ aff ∈ affected, ∃ aff' ∈ affected', aff.Extended aff' := by
  induction h with
  | nil => simp
  | cons hentry _ ih =>
      intro aff haff
      rcases List.mem_cons.1 haff with rfl | haff
      · exact ⟨_, List.mem_cons_self, hentry⟩
      · obtain ⟨aff', haff', hextended⟩ := ih aff haff
        exact ⟨aff', List.mem_cons_of_mem _ haff', hextended⟩

/-- A reordered advisory extends the other, and the other way round. -/
theorem OsvAdvisory.Reordered.extended {advisory advisory' : OsvAdvisory}
    (h : advisory.Reordered advisory') :
    advisory.Extended advisory' ∧ advisory'.Extended advisory := by
  obtain ⟨affected, hperm, hentries⟩ := h
  constructor
  · intro aff haff
    exact exists_extended (hentries.imp fun _ _ h => h.extended.1) aff (hperm.mem_iff.1 haff)
  · intro aff' haff'
    have hback : List.Forall₂ OsvAffected.Extended advisory'.affected affected :=
      (hentries.imp fun _ _ h => h.extended.2).flip
    obtain ⟨aff, haff, hextended⟩ := exists_extended hback aff' haff'
    exact ⟨aff, hperm.mem_iff.2 haff, hextended⟩

/-! ## What the matcher finds -/

section Matching

variable [Python]

variable {c : ParsedComponent} {advisory advisory' : OsvAdvisory}
  {assetContext : Option AssetContext} {uuid uuid' : String}

theorem OsvAffected.Extended.applies_eq {aff aff' : OsvAffected} (h : aff.Extended aff') :
    applies c aff' = applies c aff := by
  unfold applies ecosystemPasses
  rw [h.package]

theorem OsvAdvisory.Extended.applies (h : advisory.Extended advisory')
    (hany : advisory.affected.any (applies c) = true) :
    advisory'.affected.any (VulnOpsHub.applies c) = true := by
  obtain ⟨aff, haff, happlies⟩ := List.any_eq_true.1 hany
  obtain ⟨aff', haff', hextended⟩ := h aff haff
  exact List.any_eq_true.2 ⟨aff', haff', hextended.applies_eq.trans happlies⟩

omit [Python] in
theorem OsvAdvisory.Extended.hasRanges (h : advisory.Extended advisory')
    (hany : hasRanges advisory = true) : VulnOpsHub.hasRanges advisory' = true := by
  obtain ⟨aff, haff, hcarries⟩ := List.any_eq_true.1 hany
  obtain ⟨aff', haff', hextended⟩ := h aff haff
  refine List.any_eq_true.2 ⟨aff', haff', ?_⟩
  simp only [Bool.or_eq_true, Bool.not_eq_true', List.isEmpty_eq_false_iff] at hcarries ⊢
  exact hcarries.imp (fun hne hnil => hne (List.subset_nil.1 (hnil ▸ hextended.ranges)))
    fun hne hnil => hne (List.subset_nil.1 (hnil ▸ hextended.versions))

variable [Packaging]

omit [Python] in
theorem OsvAffected.Extended.covers {aff aff' : OsvAffected} {version : String}
    (h : aff.Extended aff') (hcovers : covers version aff = true) :
    VulnOpsHub.covers version aff' = true := by
  unfold VulnOpsHub.covers at hcovers ⊢
  rw [Bool.or_eq_true, List.any_eq_true, List.contains_iff_mem] at hcovers ⊢
  exact hcovers.imp (fun ⟨range, hrange, hcontains⟩ => ⟨range, h.ranges hrange, hcontains⟩)
    fun hlisted => h.versions hlisted

/-- An entry that has the version still has it. -/
theorem OsvAdvisory.Extended.matched (h : advisory.Extended advisory') (version : String)
    (hany : (advisory.affected.any fun aff => VulnOpsHub.applies c aff && covers version aff)
      = true) :
    (advisory'.affected.any fun aff => VulnOpsHub.applies c aff && covers version aff) = true := by
  obtain ⟨aff, haff, hboth⟩ := List.any_eq_true.1 hany
  obtain ⟨aff', haff', hextended⟩ := h aff haff
  obtain ⟨happlies, hcovers⟩ := Bool.and_eq_true_iff.1 hboth
  exact List.any_eq_true.2 ⟨aff', haff', Bool.and_eq_true_iff.2
    ⟨hextended.applies_eq.trans happlies, hextended.covers hcovers⟩⟩

/-- Advisories that extend each other are read alike. -/
theorem matchClass_congr (h : advisory.Extended advisory') (h' : advisory'.Extended advisory) :
    (evaluate c advisory' assetContext none none uuid').matchClass =
      (evaluate c advisory assetContext none none uuid).matchClass := by
  by_cases hpresent : (nonEmpty c.purl).isSome ∧ (nonEmpty c.rawVersion).isSome
  · obtain ⟨purl, hp⟩ := Option.isSome_iff_exists.1 hpresent.1
    obtain ⟨version, hv⟩ := Option.isSome_iff_exists.1 hpresent.2
    rw [evaluate_of_range hp hv, evaluate_of_range hp hv,
      Bool.eq_iff_iff.2 ⟨h'.matched version, h.matched version⟩,
      Bool.eq_iff_iff.2 ⟨h'.applies (c := c), h.applies⟩,
      Bool.eq_iff_iff.2 ⟨h'.hasRanges, h.hasRanges⟩]
  · have hmissing : nonEmpty c.purl = none ∨ nonEmpty c.rawVersion = none := by
      simpa [imp_iff_not_or] using hpresent
    rw [evaluate_eq_fallback hmissing, evaluate_eq_fallback hmissing]

/-- A match stays a match. -/
theorem deterministic_of_extended (h : advisory.Extended advisory')
    (hclass : (evaluate c advisory assetContext none none uuid).matchClass = .deterministic) :
    (evaluate c advisory' assetContext none none uuid').matchClass = .deterministic := by
  obtain ⟨purl, version, hp, hv, hsupported, aff, haff, happlies, hcovers⟩ :=
    evaluate_deterministic_iff.1 hclass
  obtain ⟨aff', haff', hextended⟩ := h aff haff
  exact evaluate_deterministic_iff.2 ⟨purl, version, hp, hv, hsupported, aff', haff',
    hextended.applies_eq.trans happlies, hextended.covers hcovers⟩

/-- **Matching is order-free and monotone.** Reordered entries, ranges and versions keep the class,
    and further ones keep a deterministic match. -/
theorem matchClass_stable (c : ParsedComponent) (advisory advisory' : OsvAdvisory)
    (assetContext : Option AssetContext) (uuid uuid' : String) :
    (advisory.Reordered advisory' →
      (evaluate c advisory' assetContext none none uuid').matchClass =
        (evaluate c advisory assetContext none none uuid).matchClass) ∧
    (advisory.Extended advisory' →
      (evaluate c advisory assetContext none none uuid).matchClass = .deterministic →
        (evaluate c advisory' assetContext none none uuid').matchClass = .deterministic) :=
  ⟨fun h => matchClass_congr h.extended.1 h.extended.2, deterministic_of_extended⟩

end Matching

end VulnOpsHub
