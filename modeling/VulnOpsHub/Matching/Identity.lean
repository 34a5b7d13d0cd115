import VulnOpsHub.Matching.Purl

set_option autoImplicit false

/-! # Which entries speak about a component

Soundness of the identity check, and what the ecosystem guard in front of it lets pass. -/

namespace VulnOpsHub

/-! ## Different packages do not match -/

section Soundness

variable [Python]

/-- The package is the component's, as far as purls without a literal `@`, or names where a purl is
    missing, can tell. -/
structure SamePackage (c : ParsedComponent) (pkg : OsvPackage) : Prop where
  purls : ∀ p q : Purl, c.purl = some p.text → pkg.purl = some q.text → p.AtFree → q.AtFree →
    p.SameIdentity q
  names : nonEmpty c.purl = none ∨ nonEmpty pkg.purl = none →
    ∃ name, nonEmpty pkg.name = some name ∧
      lastSegment (componentName c) = lastSegment (strip (Python.lower name))

theorem samePackage_of_matches {c : ParsedComponent} {pkg : OsvPackage}
    (h : packageIdentityMatches c pkg = true) : SamePackage c pkg where
  purls := fun _ _ hp hq hpat hqat => (packageIdentityMatches_iff_same hp hq hpat hqat).1 h
  names := fun hmissing => (packageIdentityMatches_iff_segment hmissing).1 h

/-- **Package identity is sound.** An entry matches only when it is about the component's package,
    and a result that speaks about the package rests on such an entry. -/
theorem packageIdentity_sound [Packaging] (c : ParsedComponent) :
    (∀ pkg, packageIdentityMatches c pkg = true → SamePackage c pkg) ∧
    ∀ advisory assetContext uuid,
      ((evaluate c advisory assetContext none none uuid).matchClass = .deterministic →
        ∃ v, nonEmpty c.rawVersion = some v ∧
          ∃ aff ∈ advisory.affected, SamePackage c aff.package ∧ covers v aff = true) ∧
      ((evaluate c advisory assetContext none none uuid).matchClass = .notAffected →
        ∃ aff ∈ advisory.affected, SamePackage c aff.package) := by
  have hsame : ∀ aff, applies c aff = true → SamePackage c aff.package := fun aff h =>
    samePackage_of_matches (Bool.and_eq_true_iff.1 h).2
  refine ⟨fun pkg => samePackage_of_matches, fun advisory assetContext uuid => ⟨?_, ?_⟩⟩
  · intro h
    obtain ⟨-, v, -, hv, -, aff, haff, happlies, hcovers⟩ := evaluate_deterministic_iff.1 h
    exact ⟨v, hv, aff, haff, hsame aff happlies, hcovers⟩
  · intro h
    obtain ⟨aff, haff, happlies⟩ := exists_applies_of_evaluate (Or.inr h)
    exact ⟨aff, haff, hsame aff happlies⟩

end Soundness

/-- A purl of the given parts. -/
def Purl.ofParts (type : String) (namespaces : List String) (name : String)
    (h : ∀ s ∈ type.toList :: (namespaces.map String.toList ++ [name.toList]),
      s ≠ [] ∧ IsAscii s ∧ '/' ∉ s ∧ '?' ∉ s ∧ '#' ∉ s) : Purl where
  type := type.toList
  namespaces := namespaces.map String.toList
  name := name.toList
  version := none
  qualifiers := none
  subpath := none
  type_part := by
    obtain ⟨h₁, h₂, h₃, h₄, h₅⟩ := h _ List.mem_cons_self
    exact ⟨h₁, h₂, h₃, h₄, h₅⟩
  namespace_part := fun s hs => by
    obtain ⟨h₁, h₂, h₃, h₄, h₅⟩ := h s (List.mem_cons_of_mem _ (List.mem_append_left _ hs))
    exact ⟨h₁, h₂, h₃, h₄, h₅⟩
  name_part := by
    obtain ⟨h₁, h₂, h₃, h₄, h₅⟩ :=
      h _ (List.mem_cons_of_mem _ (List.mem_append_right _ (List.mem_singleton.2 rfl)))
    exact ⟨h₁, h₂, h₃, h₄, h₅⟩
  version_plain := by simp
  qualifiers_plain := by simp

/-- A component with a purl, or known by its name only. -/
def sampleComponent (purl ecosystem : Option String) (name version : String) : ParsedComponent where
  rawName := name
  rawVersion := some version
  purl := purl
  ecosystem := ecosystem
  normalizedName := none
  cpe := none
  versionScheme := ecosystem
  dependencyPath := none

/-- Two scoped npm packages are taken for one, and where one purl is missing a name matches another
    path's last segment. -/
theorem packageIdentity_not_sound :
    (¬ ∀ (_ : Python) (c : ParsedComponent) (pkg : OsvPackage) (p q : Purl),
      c.purl = some p.text → pkg.purl = some q.text → packageIdentityMatches c pkg = true →
        p.SameIdentity q) ∧
    ¬ ∀ (_ : Python) (c : ParsedComponent) (pkg : OsvPackage),
      (nonEmpty c.purl).isNone ≠ (nonEmpty pkg.purl).isNone → packageIdentityMatches c pkg = true →
        ∃ name, nonEmpty pkg.name = some name ∧ componentName c = strip (Python.lower name) := by
  constructor
  · intro h
    have hsame := h asciiPython
      (sampleComponent (some "pkg:npm/@angular/core") (some "npm") "core" "1.0")
      ⟨some "npm", some "pkg:npm/@babel/traverse", none⟩
      (.ofParts "npm" ["@angular"] "core" (by decide))
      (.ofParts "npm" ["@babel"] "traverse" (by decide))
      (by decide +kernel) (by decide +kernel) (by decide +kernel)
    revert hsame
    unfold Purl.SameIdentity
    decide +kernel
  · intro h
    obtain ⟨name, hname, hsame⟩ := h asciiPython
      (sampleComponent (some "pkg:npm/left/core") (some "npm") "left/core" "1.0")
      ⟨some "npm", none, some "right/core"⟩ (by decide +kernel) (by decide +kernel)
    cases hname
    revert hsame
    decide +kernel

/-! ## The ecosystem guard -/

section Guard

variable [Python]

/-- The ecosystem an entry names, if any, is one the guard reads as `t`: spelt like the purl type up
    to case, "generic", or "debian" for deb. -/
def EcosystemSpelt (t : String) (ecosystem : Option String) : Prop :=
  ∀ e, nonEmpty ecosystem = some e →
    Python.lower e = t ∨ Python.lower e = "generic" ∨ (Python.lower e = "debian" ∧ t = "deb")

theorem lower_supportedEcosystem {t : String} (h : t ∈ supportedEcosystems) :
    Python.lower t = t := by
  have hall : ∀ t ∈ supportedEcosystems, IsAscii t.toList ∧ asciiLower t = t := by decide +kernel
  rw [Python.lower_ascii t (hall t h).1, (hall t h).2]

/-- A supported ecosystem is its own normal form. -/
theorem normalizeEcosystem_supported {t : String} (h : t ∈ supportedEcosystems) :
    normalizeEcosystem (some t) = some t := by
  have hall : ∀ t ∈ supportedEcosystems, t ≠ "" ∧ ecosystemName t = t := by decide +kernel
  have hne : nonEmpty (some t) = some t := nonEmpty_eq_some.2 ⟨rfl, (hall t h).1⟩
  rw [normalizeEcosystem, hne, Option.map_some, lower_supportedEcosystem h, (hall t h).2]

theorem supportsEcosystem_supported {t : String} (h : t ∈ supportedEcosystems) :
    supportsEcosystem (some t) = true := by
  have hall : ∀ t ∈ supportedEcosystems, t ≠ "" := by decide +kernel
  have hne : nonEmpty (some t) = some t := nonEmpty_eq_some.2 ⟨rfl, hall t h⟩
  rw [supportsEcosystem, hne, Option.any_some, lower_supportedEcosystem h]
  exact decide_eq_true h

/-- What the guard lets pass for a component of a supported type. -/
theorem ecosystemPasses_iff {t : String} (ht : t ∈ supportedEcosystems) (aff : OsvAffected) :
    ecosystemPasses (some t) aff = true ↔ EcosystemSpelt t aff.package.ecosystem := by
  have hdebian : t ≠ "debian" := by
    rintro rfl
    revert ht
    decide
  unfold ecosystemPasses EcosystemSpelt
  cases he : nonEmpty aff.package.ecosystem with
  | none => simp
  | some e =>
      have hne : nonEmpty (some e) = some e := nonEmpty_eq_some.2 ⟨rfl, (nonEmpty_eq_some.1 he).2⟩
      simp only [normalizeEcosystem, hne, Option.map_some, Bool.or_eq_true, decide_eq_true_eq,
        Option.some.injEq, forall_eq']
      unfold ecosystemName
      by_cases hl : Python.lower e = "debian"
      · rw [if_pos hl, hl]
        grind
      · rw [if_neg hl]
        grind

variable [Packaging]

/-- The matcher is complete for the entry: the guard does not discard it, and a version in one of
    its ranges makes any advisory that contains it a deterministic match. -/
structure MatcherComplete (c : ParsedComponent) (aff : OsvAffected) : Prop where
  passes : ecosystemPasses (normalizeEcosystem c.ecosystem) aff = true
  deterministic : ∀ advisory assetContext uuid v, aff ∈ advisory.affected →
    nonEmpty c.rawVersion = some v → aff.ranges.any (rangeContains v) = true →
    (evaluate c advisory assetContext none none uuid).matchClass = .deterministic

/-- **Completeness over ecosystem names.** For a component of a supported purl type and an entry of
    the same package, the matcher is complete exactly when the guard knows the entry's spelling of
    the ecosystem. -/
theorem matcherComplete_iff_spelt {c : ParsedComponent} {aff : OsvAffected} {p q : Purl}
    (hp : c.purl = some p.text) (hq : aff.package.purl = some q.text) (hsame : p.SameIdentity q)
    (htype : String.ofList (lowerChars p.type) ∈ supportedEcosystems)
    (heco : c.ecosystem = some (String.ofList (lowerChars p.type))) :
    MatcherComplete c aff ↔
      EcosystemSpelt (String.ofList (lowerChars p.type)) aff.package.ecosystem := by
  have hnormal : normalizeEcosystem c.ecosystem = some (String.ofList (lowerChars p.type)) := by
    rw [heco, normalizeEcosystem_supported htype]
  rw [← ecosystemPasses_iff htype, ← hnormal]
  refine ⟨fun h => h.passes, fun hpasses => ⟨hpasses, ?_⟩⟩
  intro advisory assetContext uuid v haff hv hrange
  refine evaluate_deterministic_iff.2 ⟨p.text, v, ?_, hv, ?_, aff, haff, ?_, ?_⟩
  · rw [hp]
    exact nonEmpty_eq_some.2 ⟨rfl, p.text_ne_empty⟩
  · rw [hnormal]
    exact supportsEcosystem_supported htype
  · unfold applies
    rw [hpasses, packageIdentityMatches_of_same hp hq hsame]
    rfl
  · unfold covers
    rw [hrange]
    rfl

end Guard

/-- An entry with one range, from the first version up to 2.0. -/
def sampleAffected (ecosystem purl : String) : OsvAffected where
  package := ⟨some ecosystem, some purl, none⟩
  ranges := [⟨some "ECOSYSTEM", [[("introduced", "0")], [("fixed", "2.0")]]⟩]
  versions := []

/-- OSV says "Go" where purls say golang. -/
theorem matcher_not_complete : ¬ ∀ (_ : Python) (_ : Packaging) (c : ParsedComponent)
    (aff : OsvAffected) (p q : Purl), c.purl = some p.text → aff.package.purl = some q.text →
    p.SameIdentity q → String.ofList (lowerChars p.type) ∈ supportedEcosystems →
    c.ecosystem = some (String.ofList (lowerChars p.type)) → MatcherComplete c aff := by
  intro h
  obtain ⟨hpasses, -⟩ := h asciiPython dottedPackaging
    (sampleComponent (some "pkg:golang/github.com/gin-gonic/gin") (some "golang") "gin" "1.0")
    (sampleAffected "Go" "pkg:golang/github.com/gin-gonic/gin")
    (.ofParts "golang" ["github.com", "gin-gonic"] "gin" (by decide))
    (.ofParts "golang" ["github.com", "gin-gonic"] "gin" (by decide))
    (by decide +kernel) (by decide +kernel) ⟨rfl, rfl, rfl⟩ (by decide +kernel) (by decide +kernel)
  revert hpasses
  decide +kernel

/-- OSV's "PyPI" is known. -/
theorem matcherComplete_iff_spelt_pypi : @MatcherComplete asciiPython dottedPackaging
    (sampleComponent (some "pkg:pypi/urllib3") (some "pypi") "urllib3" "1.26.18")
    (sampleAffected "PyPI" "pkg:pypi/urllib3") := by
  refine (@matcherComplete_iff_spelt asciiPython dottedPackaging _ _
    (.ofParts "pypi" [] "urllib3" (by decide)) (.ofParts "pypi" [] "urllib3" (by decide))
    (by decide +kernel) (by decide +kernel) ⟨rfl, rfl, rfl⟩ (by decide +kernel)
    (by decide +kernel)).2 ?_
  intro e he
  cases he
  exact Or.inl (by decide +kernel)

end VulnOpsHub
