import VulnOpsHub.Lib.Canonical

set_option autoImplicit false

/-! # Parsing bills of materials

`SBOMParser` reads CycloneDX and SPDX documents. Names, versions, purls and CPEs are taken as they
stand, so they need not be texts. -/

namespace VulnOpsHub

namespace Sbom

/-- `ParsedComponent`, as the parser fills it. -/
structure ParsedComponent where
  rawName : Json
  rawVersion : Json
  purl : Json
  ecosystem : Option String
  normalizedName : Json
  cpe : Json
  versionScheme : Option String

structure ParsedSbom where
  format : String
  specVersion : String
  serialNumber : Json
  components : List ParsedComponent
  raw : Json

/-! ## Package URLs -/

/-- `_PURL_RE.match`: the type and the rest. -/
def matchPurl (purl : String) : Option (String × String) :=
  match purl.toList with
  | 'p' :: 'k' :: 'g' :: ':' :: tail =>
      let type := splitHead '/' tail
      let after := tail.drop (type.length + 1)
      -- `$` also matches before a newline at the end
      let rest := if after.getLast? = some '\n' then after.dropLast else after
      if type ≠ [] ∧ type.length < tail.length ∧ rest ≠ [] ∧ '\n' ∉ rest then
        some (String.ofList type, String.ofList rest)
      else none
  | _ => none

section Parsing

variable [Python]

/-- `_parse_purl`. -/
def parsePurl : Json → Except PyError (Option String × Json)
  | .str purl =>
      match matchPurl purl with
      | none => .ok (none, .str purl)
      | some (type, rest) =>
          let name := splitHead '#' (splitHead '?' (splitHead '@' rest.toList))
          .ok (some (Python.lower type), .str (String.ofList name))
  | _ => .error .typeError

/-- `_parse_purl(purl) if purl else (None, None)`. -/
def parsedPurl (purl : Json) : Except PyError (Option String × Json) :=
  if purl.truthy then parsePurl purl else .ok (none, .null)

/-! ## CycloneDX -/

/-- An entry of `components`; entries that are no object or have no name are skipped. -/
def parseCyclonedxComponent (comp : Json) : Except PyError (Option ParsedComponent) :=
  let rawName := comp.field "name"
  if !rawName.truthy then .ok none
  else do
    let rawVersion := comp.field "version"
    let purl := comp.field "purl"
    let group := comp.field "group"
    let (ecosystem, normalized) ← parsedPurl purl
    let qualified :=
      if group.truthy then .str (pyStr group ++ "/" ++ pyStr rawName) else rawName
    let ecosystem := nonEmpty ecosystem
    pure (some
      { rawName := rawName
        rawVersion := rawVersion
        purl := purl
        ecosystem :=
          ecosystem.or (if purl.truthy then some "generic"
            else match rawVersion with
              | .null => none
              | _ => some "generic")
        normalizedName := normalized.or qualified
        cpe := comp.field "cpe"
        versionScheme := ecosystem.or (if rawVersion.truthy then some "generic" else none) })

def cyclonedxComponents : Json → Except PyError (List Json)
  | .null => .ok []
  | .arr items => .ok items
  | _ => .error (.valueError "invalid CycloneDX: components must be array")

/-- `_parse_cyclonedx`. -/
def parseCyclonedx (data : Json) : Except PyError ParsedSbom := do
  let componentsRaw ← cyclonedxComponents (data.field "components")
  raiseIf ((data.field "bomFormat").truthy ∧ ¬ (data.field "bomFormat").isOneOf ["CycloneDX"])
    (.valueError "invalid CycloneDX: bomFormat must be CycloneDX")
  let components ← componentsRaw.mapM parseCyclonedxComponent
  pure
    { format := "cyclonedx"
      specVersion :=
        pyStr (((data.field "specVersion").or (data.field "spec_version")).or (.str ""))
      serialNumber := data.field "serialNumber"
      components := components.filterMap id
      raw := data }

/-! ## SPDX -/

/-- The locator of the last reference of one of the types. -/
def lastLocator (types : List String) (refs : List Json) : Json :=
  ((refs.filter fun ref => (ref.field "referenceType").isOneOf types).getLast?.map
    fun ref => ref.field "referenceLocator").getD .null

/-- An entry of `packages`. -/
def parseSpdxPackage (pkg : Json) : Except PyError (Option ParsedComponent) :=
  let rawName := pkg.field "name"
  if !rawName.truthy then .ok none
  else do
    let refs ← ((pkg.field "externalRefs").or (.arr [])).toList
    let purl := lastLocator ["purl"] refs
    let (ecosystem, normalized) ← parsedPurl purl
    pure (some
      { rawName := rawName
        rawVersion := (pkg.field "versionInfo").or (pkg.field "version")
        purl := purl
        ecosystem := ecosystem
        normalizedName := normalized.or rawName
        cpe := lastLocator ["cpe22Type", "cpe23Type"] refs
        versionScheme := (nonEmpty ecosystem).or (some "generic") })

/-- `key in data`. -/
def hasKey (data : Json) (key : String) : Bool := (data.members.lookup key).isSome

def requiredSpdx : List String :=
  ["spdxVersion", "dataLicense", "SPDXID", "name", "documentNamespace"]

def spdxPackages : Json → Except PyError (List Json)
  | .arr items => .ok items
  | _ => .error (.valueError "invalid SPDX: packages must be array")

/-- `_parse_spdx`. -/
def parseSpdx (data : Json) : Except PyError ParsedSbom := do
  (requiredSpdx.find? fun key => !hasKey data key).elim (.ok ()) fun key =>
    .error (.valueError ("invalid SPDX: missing required field " ++ key))
  let packages ← spdxPackages (data.field "packages")
  raiseIf (packages.isEmpty = true)
    (.valueError "invalid SPDX: packages must not be empty for this parser")
  let components ← packages.mapM parseSpdxPackage
  pure
    { format := "spdx"
      specVersion := pyStr ((data.field "spdxVersion").or (.str ""))
      serialNumber := data.field "documentNamespace"
      components := components.filterMap id
      raw := data }

/-! ## Both -/

/-- The end of `parse`: a document that is neither, by its members. -/
def parseOther (data : Json) : Except PyError ParsedSbom :=
  if hasKey data "packages" then parseSpdx data
  else .error (.valueError "invalid SBOM: unrecognized format, expected CycloneDX or SPDX")

/-- `SBOMParser.parse`. -/
def parse (data : Json) : Except PyError ParsedSbom :=
  match data with
  | .obj _ =>
      if (data.field "bomFormat").isOneOf ["CycloneDX"]
          || hasKey data "components" && hasKey data "bomFormat" then
        parseCyclonedx data
      else if (data.field "spdxVersion").truthy || hasKey data "SPDXID" then parseSpdx data
      else match data.field "components" with
        | .arr _ =>
            match parseCyclonedx data with
            | .ok parsed => .ok parsed
            | .error _ => parseOther data
        | _ => parseOther data
  | _ => .error (.valueError "invalid SBOM: expected JSON object")

/-- A document that was parsed is of one of the formats. -/
theorem parse_eq_ok {data : Json} {parsed : ParsedSbom} (h : parse data = .ok parsed) :
    parseCyclonedx data = .ok parsed ∨ parseSpdx data = .ok parsed := by
  have hother : parseOther data = .ok parsed → parseSpdx data = .ok parsed := by
    intro hparsed
    unfold parseOther at hparsed
    split_ifs at hparsed
    exact hparsed
  unfold parse at h
  split at h
  · split_ifs at h
    · exact Or.inl h
    · exact Or.inr h
    · split at h
      · split at h
        · next hparsed =>
            rw [← Except.ok.inj h]
            exact Or.inl hparsed
        · exact Or.inr (hother h)
      · exact Or.inr (hother h)
  · cases h

end Parsing

end Sbom

end VulnOpsHub
