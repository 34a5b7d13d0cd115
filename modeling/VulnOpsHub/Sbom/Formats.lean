import VulnOpsHub.Matching.Identity
import VulnOpsHub.Sbom.Entries

set_option autoImplicit false

/-! # One list of packages in both formats

The same packages as a CycloneDX and as an SPDX document. The parsers take names, versions, purls and
CPEs alike, but where the purl names no ecosystem, `_parse_cyclonedx` falls back to `generic` and
`_parse_spdx` leaves it out. The matcher reads the ecosystem only of a component with a purl and a
version. -/

namespace VulnOpsHub

/-! ## What the matcher reads -/

/-- Components that the matcher cannot tell apart. -/
structure ParsedComponent.Alike (c c' : ParsedComponent) : Prop where
  rawName : c.rawName = c'.rawName
  rawVersion : nonEmpty c.rawVersion = nonEmpty c'.rawVersion
  purl : c.purl = c'.purl
  normalizedName : c.normalizedName = c'.normalizedName
  cpe : c.cpe = c'.cpe
  ecosystem : (nonEmpty c.purl).isSome → (nonEmpty c.rawVersion).isSome →
    c.ecosystem = c'.ecosystem

section Alike

variable [Python] [Packaging] {c c' : ParsedComponent}

omit [Packaging] in
theorem ParsedComponent.Alike.identity_eq (h : c.Alike c') (pkg : OsvPackage) :
    packageIdentityMatches c pkg = packageIdentityMatches c' pkg := by
  unfold packageIdentityMatches componentName
  rw [h.purl, h.normalizedName, h.rawName]

theorem ParsedComponent.Alike.matchAffected_eq (h : c.Alike c') (eco : Option String)
    (version : String) (affected : List OsvAffected) (b : Bool) :
    matchAffected c eco version affected b = matchAffected c' eco version affected b := by
  induction affected generalizing b with
  | nil => rfl
  | cons aff rest ih =>
      unfold matchAffected
      rw [h.identity_eq, ih, ih]

theorem ParsedComponent.Alike.rangeResult_eq (h : c.Alike c') (advisory : OsvAdvisory)
    (uuid : String) : rangeResult c advisory uuid = rangeResult c' advisory uuid := by
  cases hp : nonEmpty c.purl with
  | none =>
      have hp' : nonEmpty c'.purl = none := by rw [← h.purl, hp]
      simp only [rangeResult, hp, hp']
  | some purl =>
      have hp' : nonEmpty c'.purl = some purl := by rw [← h.purl, hp]
      cases hv : nonEmpty c.rawVersion with
      | none =>
          have hv' : nonEmpty c'.rawVersion = none := by rw [← h.rawVersion, hv]
          simp only [rangeResult, hp, hp', hv, hv']
      | some version =>
          have hv' : nonEmpty c'.rawVersion = some version := by rw [← h.rawVersion, hv]
          have heco : c.ecosystem = c'.ecosystem :=
            h.ecosystem (by rw [hp]; rfl) (by rw [hv]; rfl)
          simp only [rangeResult, hp', hv, hv', heco, h.matchAffected_eq, deterministicResult,
            h.purl]

/-- The matcher answers alike, with every advisory and all evidence. -/
theorem ParsedComponent.Alike.evaluate_eq (h : c.Alike c') (advisory : OsvAdvisory)
    (assetContext : Option AssetContext) (scannerEvidence : Option ScannerEvidence)
    (vexStatus : Option String) :
    evaluate c advisory assetContext scannerEvidence vexStatus =
      evaluate c' advisory assetContext scannerEvidence vexStatus := by
  funext uuid
  have hscanner : ∀ evidence, scannerResult c advisory evidence uuid
      = scannerResult c' advisory evidence uuid := by
    intro evidence
    unfold scannerResult
    rw [h.purl, h.cpe, h.rawName]
  have hfallback : fallbackResult c assetContext = fallbackResult c' assetContext := by
    unfold fallbackResult
    rw [h.purl, h.cpe]
  simp only [evaluate, hscanner, hfallback, h.rangeResult_eq]

end Alike

namespace Sbom

/-! ## Packages and documents -/

/-- A package of a list, whatever the format. -/
structure Package where
  name : String
  version : String
  purl : Option String
  cpe : Option String

/-- The entry of `components` for a package. -/
structure CyclonedxEntry (p : Package) (entry : Json) : Prop where
  name : entry.field "name" = .str p.name
  version : entry.field "version" = .str p.version
  purl : entry.field "purl" = .ofOption p.purl
  cpe : entry.field "cpe" = .ofOption p.cpe
  group : entry.field "group" = .null

/-- The references of some types, in their order. -/
def locators (types : List String) (refs : List Json) : List Json :=
  (refs.filter fun ref => (ref.field "referenceType").isOneOf types).map
    fun ref => ref.field "referenceLocator"

/-- The entry of `packages` for a package; its purl and its CPE are references. -/
structure SpdxEntry (p : Package) (entry : Json) : Prop where
  name : entry.field "name" = .str p.name
  version : entry.field "versionInfo" = .str p.version
  other : entry.field "version" = .null
  listed : entry.field "externalRefs" = .null ∨ ∃ refs, entry.field "externalRefs" = .arr refs
  purl : locators ["purl"] (entry.field "externalRefs").items = p.purl.toList.map .str
  cpe : locators ["cpe22Type", "cpe23Type"] (entry.field "externalRefs").items
    = p.cpe.toList.map .str

/-- A CycloneDX document that lists the packages. -/
structure CyclonedxDocument (packages : List Package) (data : Json) : Prop where
  format : data.field "bomFormat" = .str "CycloneDX"
  components : ∃ entries, data.field "components" = .arr entries ∧
    List.Forall₂ CyclonedxEntry packages entries

/-- An SPDX document that lists the packages. -/
structure SpdxDocument (packages : List Package) (data : Json) : Prop where
  required : requiredSpdx.all (hasKey data) = true
  format : hasKey data "bomFormat" = false
  packages : ∃ entries, data.field "packages" = .arr entries ∧
    List.Forall₂ SpdxEntry packages entries

/-- A component as the parser fills it, if its fields are texts. -/
def ParsedComponent.ofTexts (c : VulnOpsHub.ParsedComponent) : ParsedComponent where
  rawName := .str c.rawName
  rawVersion := .ofOption c.rawVersion
  purl := .ofOption c.purl
  ecosystem := c.ecosystem
  normalizedName := .ofOption c.normalizedName
  cpe := .ofOption c.cpe
  versionScheme := c.versionScheme

/-! ## The documents of a list -/

def Package.toCyclonedx (p : Package) : Json :=
  .obj [("name", .str p.name), ("version", .str p.version), ("purl", .ofOption p.purl),
    ("cpe", .ofOption p.cpe)]

def reference (type locator : String) : Json :=
  .obj [("referenceType", .str type), ("referenceLocator", .str locator)]

def Package.toSpdx (p : Package) : Json :=
  .obj [("name", .str p.name), ("versionInfo", .str p.version),
    ("externalRefs", .arr (p.purl.toList.map (reference "purl")
      ++ p.cpe.toList.map (reference "cpe23Type")))]

def toCyclonedx (packages : List Package) : Json :=
  .obj [("bomFormat", .str "CycloneDX"), ("specVersion", .str "1.5"),
    ("components", .arr (packages.map Package.toCyclonedx))]

def toSpdx (packages : List Package) : Json :=
  .obj [("spdxVersion", .str "SPDX-2.3"), ("dataLicense", .str "CC0-1.0"),
    ("SPDXID", .str "SPDXRef-DOCUMENT"), ("name", .str "packages"),
    ("documentNamespace", .str "packages"), ("packages", .arr (packages.map Package.toSpdx))]

theorem cyclonedxDocument_toCyclonedx (packages : List Package) :
    CyclonedxDocument packages (toCyclonedx packages) where
  format := rfl
  components := by
    refine ⟨_, rfl, ?_⟩
    rw [List.forall₂_map_right_iff, List.forall₂_same]
    exact fun p _ => ⟨rfl, rfl, rfl, rfl, rfl⟩

theorem spdxEntry_toSpdx (p : Package) : SpdxEntry p p.toSpdx where
  name := rfl
  version := rfl
  other := rfl
  listed := Or.inr ⟨_, rfl⟩
  purl := by
    obtain ⟨name, version, purl, cpe⟩ := p
    cases purl <;> cases cpe <;> rfl
  cpe := by
    obtain ⟨name, version, purl, cpe⟩ := p
    cases purl <;> cases cpe <;> rfl

theorem spdxDocument_toSpdx (packages : List Package) :
    SpdxDocument packages (toSpdx packages) where
  required := rfl
  format := rfl
  packages := by
    refine ⟨_, rfl, ?_⟩
    rw [List.forall₂_map_right_iff, List.forall₂_same]
    exact fun p _ => spdxEntry_toSpdx p

section Formats

variable [Python]

/-- `_parse_purl(purl) if purl else (None, None)`, of a text. -/
def purlParts (purl : Option String) : Option String × Option String :=
  match nonEmpty purl with
  | none => (none, none)
  | some purl =>
      match matchPurl purl with
      | none => (none, some purl)
      | some (type, rest) =>
          (some (Python.lower type), some (String.ofList
            (splitHead '#' (splitHead '?' (splitHead '@' rest.toList)))))

namespace Package

/-- The ecosystem that the purl of the package names. -/
def ecosystem (p : Package) : Option String := nonEmpty (purlParts p.purl).1

/-- Its component in a CycloneDX document. -/
def cyclonedx (p : Package) : VulnOpsHub.ParsedComponent where
  rawName := p.name
  rawVersion := some p.version
  purl := p.purl
  ecosystem := p.ecosystem.or (some "generic")
  normalizedName := some (orElse (purlParts p.purl).2 p.name)
  cpe := p.cpe
  versionScheme := p.ecosystem.or (if p.version = "" then none else some "generic")
  dependencyPath := none

/-- Its component in an SPDX document. -/
def spdx (p : Package) : VulnOpsHub.ParsedComponent where
  rawName := p.name
  rawVersion := nonEmpty (some p.version)
  purl := p.purl
  ecosystem := (purlParts p.purl).1
  normalizedName := some (orElse (purlParts p.purl).2 p.name)
  cpe := p.cpe
  versionScheme := p.ecosystem.or (some "generic")
  dependencyPath := none

/-- The matcher is not left to read the ecosystem of a purl that names none. -/
def EcosystemRead (p : Package) : Prop :=
  p.name ≠ "" → p.version ≠ "" → (nonEmpty p.purl).isSome → p.ecosystem.isSome

theorem alike {p : Package} (hname : p.name ≠ "") (h : p.EcosystemRead) :
    p.cyclonedx.Alike p.spdx where
  rawName := rfl
  rawVersion := by
    show nonEmpty (some p.version) = nonEmpty (nonEmpty (some p.version))
    unfold nonEmpty
    rw [Option.filter_filter]
    simp
  purl := rfl
  normalizedName := rfl
  cpe := rfl
  ecosystem := by
    intro hpurl hversion
    obtain ⟨version, hv⟩ := Option.isSome_iff_exists.1 hversion
    obtain ⟨heq, hne⟩ := nonEmpty_eq_some.1 hv
    obtain rfl := Option.some.inj heq
    obtain ⟨ecosystem, he⟩ := Option.isSome_iff_exists.1 (h hname hne hpurl)
    show p.ecosystem.or (some "generic") = (purlParts p.purl).1
    rw [he, (nonEmpty_eq_some.1 he).1]
    rfl

end Package

/-! ## What the parsers make of them -/

theorem parsedPurl_ofOption (purl : Option String) :
    parsedPurl (.ofOption purl) = .ok ((purlParts purl).1, .ofOption (purlParts purl).2) := by
  unfold parsedPurl purlParts
  cases purl with
  | none => rfl
  | some purl =>
      by_cases hempty : purl = ""
      · rw [hempty]
        rfl
      · have hpurl : nonEmpty (some purl) = some purl := nonEmpty_eq_some.2 ⟨rfl, hempty⟩
        simp only [Json.ofOption, Json.truthy, hempty, ne_eq, not_false_eq_true, decide_true,
          if_true, hpurl, parsePurl]
        cases matchPurl purl <;> rfl

omit [Python] in
theorem ofOption_or (value : Option String) (default : String) :
    (Json.ofOption value).or (.str default) = .str (orElse value default) := by
  cases value with
  | none => rfl
  | some s => by_cases hempty : s = "" <;> simp [Json.ofOption, Json.or, Json.truthy, orElse, hempty]

/-- An entry without a name is skipped. -/
def Package.isNamed (p : Package) : Bool := p.name ≠ ""

theorem parse_cyclonedxEntry {p : Package} {entry : Json} (h : CyclonedxEntry p entry) :
    parseCyclonedxComponent entry =
      .ok (if p.isNamed then some (.ofTexts p.cyclonedx) else none) := by
  unfold parseCyclonedxComponent
  rw [h.name, h.purl, h.group, h.version, h.cpe]
  by_cases hname : p.name = ""
  · simp [hname, Json.truthy, Package.isNamed]
  · have hnamed : p.isNamed = true := by simpa [Package.isNamed] using hname
    have htruthy : (Json.str p.name).truthy = true := by simpa [Json.truthy] using hname
    have hgroup : Json.null.truthy = false := rfl
    have hscheme : (if (Json.str p.version).truthy = true then some "generic" else none)
        = (if p.version = "" then none else some "generic" : Option String) := by
      by_cases hversion : p.version = "" <;> simp [Json.truthy, hversion]
    simp only [htruthy, Bool.not_true, Bool.false_eq_true, if_false, parsedPurl_ofOption,
      except_ok_bind, hnamed, if_true, ite_self, hscheme, hgroup, ofOption_or]
    rfl

omit [Python] in
theorem lastLocator_eq {types : List String} {refs : List Json} {text : Option String}
    (h : locators types refs = text.toList.map .str) : lastLocator types refs = .ofOption text := by
  unfold locators at h
  unfold lastLocator
  rw [← List.getLast?_map, h]
  cases text <;> rfl

theorem parse_spdxEntry {p : Package} {entry : Json} (h : SpdxEntry p entry) :
    parseSpdxPackage entry =
      .ok (if p.isNamed then some (.ofTexts p.spdx) else none) := by
  unfold parseSpdxPackage
  rw [h.name, h.version, h.other]
  by_cases hname : p.name = ""
  · simp [hname, Json.truthy, Package.isNamed]
  · have hnamed : p.isNamed = true := by simpa [Package.isNamed] using hname
    have htruthy : (Json.str p.name).truthy = true := by simpa [Json.truthy] using hname
    obtain ⟨refs, hrefs⟩ : ∃ refs, ((entry.field "externalRefs").or (.arr [])).toList = .ok refs := by
      rcases h.listed with hnull | ⟨refs, hlisted⟩
      · exact ⟨[], by rw [hnull]; rfl⟩
      · rw [hlisted]
        cases refs with
        | nil => exact ⟨[], rfl⟩
        | cons ref refs => exact ⟨ref :: refs, rfl⟩
    have hversion : (Json.str p.version).or .null = .ofOption (nonEmpty (some p.version)) := by
      by_cases hempty : p.version = ""
      · rw [hempty]
        rfl
      · rw [nonEmpty_eq_some.2 ⟨rfl, hempty⟩]
        simp [Json.or, Json.truthy, Json.ofOption, hempty]
    simp only [htruthy, Bool.not_true, Bool.false_eq_true, if_false, hrefs, except_ok_bind,
      lastLocator_toList hrefs, lastLocator_eq h.purl, lastLocator_eq h.cpe, parsedPurl_ofOption,
      hnamed, if_true, hversion, ofOption_or]
    rfl

omit [Python] in
/-- What is kept of a loop over entries that list packages. -/
theorem filterMap_entries {R : Package → Json → Prop}
    {f : Json → Except PyError (Option ParsedComponent)} {g : Package → ParsedComponent}
    {packages : List Package} {entries : List Json}
    (hf : ∀ {p entry}, R p entry → f entry = .ok (if p.isNamed then some (g p) else none))
    (h : List.Forall₂ R packages entries) :
    ∃ kept, entries.mapM f = .ok kept ∧
      kept.filterMap id = (packages.filter Package.isNamed).map g := by
  refine ⟨packages.map fun p => if p.isNamed then some (g p) else none, ?_, ?_⟩
  · rw [mapM_eq_ok_iff, List.forall₂_map_right_iff]
    exact h.flip.imp fun _ _ hentry => hf hentry
  · clear h
    rw [List.filterMap_map, Function.id_comp]
    induction packages with
    | nil => rfl
    | cons p packages ih =>
        by_cases hnamed : p.isNamed = true <;> simp [hnamed, ih]

/-- A CycloneDX document gives its packages back. -/
theorem parse_cyclonedxDocument {packages : List Package} {data : Json}
    (h : CyclonedxDocument packages data) :
    ∃ parsed, parse data = .ok parsed ∧ parsed.components =
      ((packages.filter Package.isNamed).map Package.cyclonedx).map .ofTexts := by
  obtain ⟨entries, hentries, hlisted⟩ := h.components
  obtain ⟨kept, hkept, hcomponents⟩ := filterMap_entries (R := CyclonedxEntry)
    (g := fun p => .ofTexts p.cyclonedx) parse_cyclonedxEntry hlisted
  have hdetects : detectsCyclonedx data = true := by
    simp [detectsCyclonedx, h.format, Json.isOneOf]
  have hformat : ¬ ((data.field "bomFormat").truthy ∧
      ¬ (data.field "bomFormat").isOneOf ["CycloneDX"]) := by
    simp [h.format, Json.isOneOf]
  rw [parse_of_detects hdetects, parseCyclonedx, hentries, cyclonedxComponents, except_ok_bind,
    (raiseIf_eq_ok (u := ())).2 hformat, except_ok_bind, hkept, except_ok_bind]
  refine ⟨_, rfl, ?_⟩
  rw [List.map_map]
  exact hcomponents

theorem parse_of_spdx {data : Json} (hformat : hasKey data "bomFormat" = false)
    (hrequired : requiredSpdx.all (hasKey data) = true) : parse data = parseSpdx data := by
  have hid : hasKey data "SPDXID" = true := by
    rw [List.all_eq_true] at hrequired
    exact hrequired "SPDXID" (by simp [requiredSpdx])
  cases data with
  | obj members =>
      have hnone : ((Json.obj members).field "bomFormat").isOneOf ["CycloneDX"] = false := by
        have hlookup : members.lookup "bomFormat" = none := Option.isNone_iff_eq_none.1 (by
          rw [← Option.not_isSome]
          exact congrArg not hformat)
        simp [Json.field, Json.members, hlookup, Json.isOneOf]
      simp only [parse, hnone, hformat, hid, Bool.and_false, Bool.or_false, Bool.or_true,
        Bool.false_eq_true, if_false, if_true]
  | _ => cases hid

/-- An SPDX document gives its packages back, if it has any. -/
theorem parse_spdxDocument {packages : List Package} {data : Json} (hne : packages ≠ [])
    (h : SpdxDocument packages data) :
    ∃ parsed, parse data = .ok parsed ∧ parsed.components =
      ((packages.filter Package.isNamed).map Package.spdx).map .ofTexts := by
  obtain ⟨entries, hentries, hlisted⟩ := h.packages
  obtain ⟨kept, hkept, hcomponents⟩ := filterMap_entries (R := SpdxEntry)
    (g := fun p => .ofTexts p.spdx) parse_spdxEntry hlisted
  have hsome : ¬ entries.isEmpty = true := by
    rw [List.isEmpty_iff]
    rintro rfl
    cases hlisted
    exact hne rfl
  have hfind : (requiredSpdx.find? fun key => !hasKey data key) = none := by
    rcases requiredSpdx_cases data with ⟨-, hfind⟩ | ⟨hall, -⟩
    · exact hfind
    · rw [h.required] at hall
      cases hall
  rw [parse_of_spdx h.format h.required, parseSpdx, hfind, Option.elim_none, except_ok_bind,
    hentries, spdxPackages, except_ok_bind, (raiseIf_eq_ok (u := ())).2 hsome, except_ok_bind, hkept,
    except_ok_bind]
  refine ⟨_, rfl, ?_⟩
  rw [List.map_map]
  exact hcomponents

/-! ## Independence of the format -/

variable [Packaging]

/-- Both documents are parsed, and the matcher answers alike, component by component. -/
def FormatIndependent (packages : List Package) : Prop :=
  ∀ data data', CyclonedxDocument packages data → SpdxDocument packages data' →
    ∃ parsed parsed' cs cs', parse data = .ok parsed ∧ parse data' = .ok parsed' ∧
      parsed.components = cs.map .ofTexts ∧ parsed'.components = cs'.map .ofTexts ∧
      List.Forall₂ (fun c c' => ∀ advisory assetContext scannerEvidence vexStatus,
        evaluate c advisory assetContext scannerEvidence vexStatus =
          evaluate c' advisory assetContext scannerEvidence vexStatus) cs cs'

/-- **The formats are read alike**, for a list that is not empty and whose purls name their
    ecosystems. -/
theorem formatIndependent {packages : List Package} (hne : packages ≠ [])
    (hread : ∀ p ∈ packages, p.EcosystemRead) : FormatIndependent packages := by
  intro data data' hdata hdata'
  obtain ⟨parsed, hparsed, hcomponents⟩ := parse_cyclonedxDocument hdata
  obtain ⟨parsed', hparsed', hcomponents'⟩ := parse_spdxDocument hne hdata'
  refine ⟨parsed, parsed', _, _, hparsed, hparsed', hcomponents, hcomponents', ?_⟩
  rw [List.forall₂_map_left_iff, List.forall₂_map_right_iff, List.forall₂_same]
  intro p hp advisory assetContext scannerEvidence vexStatus
  obtain ⟨hmem, hnamed⟩ := List.mem_filter.1 hp
  have hname : p.name ≠ "" := by simpa [Package.isNamed] using hnamed
  exact (Package.alike hname (hread p hmem)).evaluate_eq advisory assetContext scannerEvidence
    vexStatus

/-! ## The exceptions -/

omit [Python] [Packaging] in
theorem alike_of_ofTexts {c c' : VulnOpsHub.ParsedComponent}
    (h : ParsedComponent.ofTexts c = ParsedComponent.ofTexts c') : c.Alike c' := by
  have hoption : ∀ {x y : Option String}, Json.ofOption x = .ofOption y → x = y := by
    intro x y hxy
    cases x <;> cases y <;> simp_all [Json.ofOption]
  obtain ⟨rawName, rawVersion, purl, ecosystem, normalizedName, cpe, -⟩ :=
    ParsedComponent.mk.inj h
  exact ⟨Json.str.inj rawName, congrArg nonEmpty (hoption rawVersion), hoption purl,
    hoption normalizedName, hoption cpe, fun _ _ => ecosystem⟩

/-- An empty list is no SPDX document. -/
theorem FormatIndependent.ne_nil {packages : List Package} (h : FormatIndependent packages) :
    packages ≠ [] := by
  rintro rfl
  obtain ⟨_, _, _, _, -, hparsed, -⟩ := h _ _ (cyclonedxDocument_toCyclonedx [])
    (spdxDocument_toSpdx [])
  cases hparsed

omit [Python] [Packaging] in
theorem exists_of_forall₂ {α β γ : Type} {A : α → β → Prop} {B : α → γ → Prop} {R : β → γ → Prop}
    {xs : List α} {ys : List β} {zs : List γ} (hys : List.Forall₂ A xs ys)
    (hzs : List.Forall₂ B xs zs) (hR : List.Forall₂ R ys zs) {x : α} (hx : x ∈ xs) :
    ∃ y z, A x y ∧ B x z ∧ R y z := by
  induction hys generalizing zs with
  | nil => cases hx
  | cons hA _ ih =>
      cases hzs with
      | cons hB hzs =>
          cases hR with
          | cons hyz hR =>
              rcases List.mem_cons.1 hx with rfl | hx
              · exact ⟨_, _, hA, hB, hyz⟩
              · exact ih hzs hR hx

/-- A named package of the list is answered alike from both documents. -/
theorem FormatIndependent.evaluate_eq {packages : List Package} (h : FormatIndependent packages)
    {p : Package} (hp : p ∈ packages) (hname : p.name ≠ "") (advisory : OsvAdvisory) :
    evaluate p.cyclonedx advisory none none none = evaluate p.spdx advisory none none none := by
  obtain ⟨parsed, hparsed, hcomponents⟩ :=
    parse_cyclonedxDocument (cyclonedxDocument_toCyclonedx packages)
  obtain ⟨parsed', hparsed', hcomponents'⟩ :=
    parse_spdxDocument h.ne_nil (spdxDocument_toSpdx packages)
  obtain ⟨_, _, cs, cs', heq, heq', hcs, hcs', hsame⟩ := h _ _
    (cyclonedxDocument_toCyclonedx packages) (spdxDocument_toSpdx packages)
  obtain rfl := Except.ok.inj (hparsed.symm.trans heq)
  obtain rfl := Except.ok.inj (hparsed'.symm.trans heq')
  rw [hcomponents, List.map_map, ← List.forall₂_eq_eq_eq, List.forall₂_map_left_iff,
    List.forall₂_map_right_iff] at hcs
  rw [hcomponents', List.map_map, ← List.forall₂_eq_eq_eq, List.forall₂_map_left_iff,
    List.forall₂_map_right_iff] at hcs'
  have hmem : p ∈ packages.filter Package.isNamed :=
    List.mem_filter.2 ⟨hp, by simpa [Package.isNamed] using hname⟩
  obtain ⟨c, c', hc, hc', hsame⟩ := exists_of_forall₂ hcs hcs' hsame hmem
  calc evaluate p.cyclonedx advisory none none none
      = evaluate c advisory none none none := (alike_of_ofTexts hc).evaluate_eq _ _ _ _
    _ = evaluate c' advisory none none none := hsame _ _ _ _
    _ = evaluate p.spdx advisory none none none := ((alike_of_ofTexts hc').evaluate_eq _ _ _ _).symm

/-- An advisory that lists the version of a package under its name. -/
def Package.namedAdvisory (p : Package) : OsvAdvisory where
  id := none
  vulnerabilityId := none
  aliases := none
  summary := none
  details := none
  affected := [⟨⟨none, none, p.cyclonedx.normalizedName⟩, [], [p.version]⟩]
  references := []

omit [Packaging] in
theorem applies_namedAdvisory {p : Package} (hname : p.name ≠ "") :
    applies p.cyclonedx ⟨⟨none, none, p.cyclonedx.normalizedName⟩, [], [p.version]⟩ = true := by
  have hnonempty : orElse (purlParts p.purl).2 p.name ≠ "" := by
    unfold orElse
    split
    · split_ifs with hempty
      · exact hname
      · exact hempty
    · exact hname
  have hnormalized : nonEmpty p.cyclonedx.normalizedName
      = some (orElse (purlParts p.purl).2 p.name) := nonEmpty_eq_some.2 ⟨rfl, hnonempty⟩
  have hcomponent : componentName p.cyclonedx
      = strip (Python.lower (orElse (purlParts p.purl).2 p.name)) := by
    show strip (Python.lower (orElse (some (orElse (purlParts p.purl).2 p.name)) p.name)) = _
    rw [orElse, if_neg hnonempty]
  have hforms : ∀ name : String, name ∈ nameForms name := by
    intro name
    unfold nameForms
    split_ifs <;> simp
  rw [applies, Bool.and_eq_true]
  refine ⟨rfl, ?_⟩
  simp only [packageIdentityMatches, hnormalized, hcomponent]
  rw [show nonEmpty none = none from rfl]
  simp only [List.any_eq_true, decide_eq_true_eq]
  exact ⟨_, hforms _, hforms _⟩

/-- **No other list is read alike**: where a purl names no ecosystem, an advisory for the name and the
    version of the package tells the formats apart. -/
theorem FormatIndependent.ecosystemRead {packages : List Package} (h : FormatIndependent packages)
    {p : Package} (hp : p ∈ packages) : p.EcosystemRead := by
  intro hname hversion hpurl
  by_contra hnone
  have hecosystem : p.ecosystem = none := by simpa using hnone
  obtain ⟨purl, hpurl⟩ := Option.isSome_iff_exists.1 hpurl
  have hv : nonEmpty (some p.version) = some p.version := nonEmpty_eq_some.2 ⟨rfl, hversion⟩
  have hclass := congrArg (fun answer => (answer "").matchClass)
    (h.evaluate_eq hp hname p.namedAdvisory)
  have hv' : nonEmpty p.spdx.rawVersion = some p.version := by
    show nonEmpty (nonEmpty (some p.version)) = some p.version
    rw [hv, hv]
  have hgeneric : supportsEcosystem (normalizeEcosystem p.cyclonedx.ecosystem) = true := by
    have hecosystem' : p.cyclonedx.ecosystem = some "generic" := by
      show p.ecosystem.or (some "generic") = some "generic"
      rw [hecosystem, Option.none_or]
    have hgeneric : "generic" ∈ supportedEcosystems := by decide
    rw [hecosystem', normalizeEcosystem_supported hgeneric]
    exact supportsEcosystem_supported hgeneric
  have hunsupported : supportsEcosystem (normalizeEcosystem p.spdx.ecosystem) = false := by
    have hnone : normalizeEcosystem p.spdx.ecosystem = none := by
      show (nonEmpty (purlParts p.purl).1).map _ = none
      rw [show nonEmpty (purlParts p.purl).1 = none from hecosystem, Option.map_none]
    rw [hnone]
    rfl
  have hmatched : (p.namedAdvisory.affected.any fun aff =>
      applies p.cyclonedx aff && covers p.version aff) = true := by
    rw [Package.namedAdvisory, List.any_cons, List.any_nil, Bool.or_false, Bool.and_eq_true]
    exact ⟨applies_namedAdvisory hname, by simp [covers]⟩
  rw [evaluate_of_range (c := p.cyclonedx) hpurl hv, evaluate_of_range (c := p.spdx) hpurl hv',
    if_pos hgeneric, if_pos hmatched, hunsupported] at hclass
  cases hclass

end Formats

def samplePackages : List Package :=
  [⟨"urllib3", "1.26.18", some "pkg:pypi/urllib3@1.26.18", none⟩,
    ⟨"zlib", "1.3", none, some "cpe:2.3:a:zlib:zlib:1.3:*:*:*:*:*:*:*"⟩]

theorem formatIndependent_sample :
    @FormatIndependent asciiPython dottedPackaging samplePackages := by
  have hread : ∀ p ∈ samplePackages, @Package.EcosystemRead asciiPython p := by
    intro p hp
    rcases List.mem_cons.1 hp with rfl | hp
    · exact fun _ _ _ => by decide +kernel
    · rw [List.mem_singleton.1 hp]
      intro _ _ hpurl
      cases hpurl
  exact @formatIndependent asciiPython dottedPackaging _ (by simp [samplePackages]) hread

/-- A purl without a type. -/
def untypedPurl : Package := ⟨"widget", "1.0", some "widget", none⟩

/-- **The formats differ** on the empty list, which only CycloneDX can express, and on a package whose
    purl names no ecosystem. -/
theorem formats_differ : ¬ @FormatIndependent asciiPython dottedPackaging [] ∧
    ¬ @FormatIndependent asciiPython dottedPackaging [untypedPurl] := by
  refine ⟨fun h => @FormatIndependent.ne_nil asciiPython dottedPackaging _ h rfl, fun h => ?_⟩
  have hread := @FormatIndependent.ecosystemRead asciiPython dottedPackaging _ h untypedPurl
    (List.mem_singleton.2 rfl)
  have hecosystem := hread (by decide) (by decide) rfl
  revert hecosystem
  decide +kernel

end Sbom

end VulnOpsHub
