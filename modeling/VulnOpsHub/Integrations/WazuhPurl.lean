import VulnOpsHub.Lib.Canonical
import VulnOpsHub.Lib.Words

set_option autoImplicit false

/-! # Package URLs of Wazuh packages

`derive_purl_from_wazuh_package`: a row of the package inventory gets a purl where its format, name,
version and distribution are known. -/

namespace VulnOpsHub

/-- `_INVALID_VERSIONS`. -/
def invalidVersions : List String := ["", "-", "(none)", "unknown", "n/a"]

/-- `_RPM_VENDOR_NAMESPACE`. -/
def rpmVendorNamespace : List (String × String) :=
  [("fedora", "fedora"), ("red hat", "redhat"), ("redhat", "redhat"), ("rhel", "redhat"),
   ("centos", "centos"), ("rocky", "rocky"), ("almalinux", "almalinux"), ("amazon", "amazon"),
   ("amzn", "amazon"), ("opensuse", "opensuse"), ("suse", "suse"), ("oracle", "oracle")]

/-- `_RPM_VENDOR_NEEDLES`: the longest needle first. -/
def rpmVendorNeedles : List (String × String) :=
  rpmVendorNamespace.insertionSort fun a b =>
    b.1.length < a.1.length ∨ a.1.length = b.1.length ∧ a.1 ≤ b.1

inductive PurlStatus where
  | present
  | derived
  | skipped
deriving DecidableEq, Repr

def PurlStatus.value : PurlStatus → String
  | .present => "present"
  | .derived => "derived"
  | .skipped => "skipped"

structure PurlDerivationResult where
  status : PurlStatus
  purl : Option String
  reason : Option String
deriving DecidableEq, Repr

/-! ## Percent encoding -/

/-- A hexadecimal digit in upper case. -/
def upperHexDigit (n : ℕ) : Char := (Nat.digitChar (n % 16)).toUpper

/-- `%XX`. -/
def percentEncoded (b : UInt8) : List Char :=
  ['%', upperHexDigit (b.toNat / 16), upperHexDigit b.toNat]

/-- A character that `quote` leaves alone whatever `safe` is. -/
def alwaysSafe (c : Char) : Bool := c.isAlphanum || c ∈ ['_', '.', '-', '~']

/-- `urllib.parse.quote(text, safe)`. -/
def quote (text : String) (safe : List Char) : String :=
  String.ofList (text.toList.flatMap fun c =>
    if alwaysSafe c || c ∈ safe then [c] else (String.utf8EncodeChar c).flatMap percentEncoded)

/-! ## Derivation -/

section Derivation

variable [Python]

/-- `_clean`. -/
def clean (value : Json) : Option String :=
  match value with
  | .null => none
  | value => nonEmpty (some (strip (pyStr value)))

/-- The texts of the members that are present. -/
def presentTexts (value : Json) (keys : List String) : List String :=
  ((keys.map value.field).filter Json.truthy).map pyStr

/-- `_agent_distro_text`. -/
def agentDistroText (agent : Json) : Except PyError String :=
  if !agent.truthy then .ok ""
  else do
    let osInfo ← agent.get "os"
    pure (Python.lower (" ".intercalate (presentTexts osInfo ["name", "version", "platform"]
      ++ presentTexts agent ["os_name", "os_version", "platform"])))

/-- `_deb_namespace_from_distro`. -/
def debNamespaceFromDistro (distroText : String) : Option String :=
  if containsText distroText "ubuntu" then some "ubuntu"
  else if containsText distroText "debian" then some "debian"
  else none

/-- `_rpm_namespace`. -/
def rpmNamespace (vendor : Option String) : Option String :=
  (nonEmpty vendor).bind fun vendor =>
    (rpmVendorNeedles.find? fun needle => containsText (Python.lower vendor) needle.1).map Prod.snd

/-- The purl up to its version, or why there is none. -/
def purlBase (fmt encodedName encodedVersion : String) (vendor : Option String) (agent : Json) :
    Except PyError (Except String String) :=
  let coordinate (type ns : String) :=
    "pkg:" ++ type ++ "/" ++ ns ++ "/" ++ encodedName ++ "@" ++ encodedVersion
  if fmt = "deb" then do
    let distroText ← agentDistroText agent
    pure ((debNamespaceFromDistro distroText).elim (.error "deb_distro_unknown") fun ns =>
      .ok (coordinate "deb" ns))
  else if fmt = "apk" then .ok (.ok (coordinate "apk" "alpine"))
  else if fmt = "rpm" then
    .ok ((rpmNamespace vendor).elim (.error "rpm_namespace_unknown") fun ns =>
      .ok (coordinate "rpm" ns))
  else if fmt = "" then .ok (.error "missing_format")
  else .ok (.error ("unsupported_format:" ++ fmt))

/-- The part of the derivation that has a name and a version. -/
def derivePurlFrom (package agent : Json) (name version : String) :
    Except PyError PurlDerivationResult :=
  if Python.lower version ∈ invalidVersions then .ok ⟨.skipped, none, some "invalid_version"⟩
  else do
    let fmt := Python.lower ((clean (package.field "format")).getD "")
    let arch := clean (package.field "architecture")
    let base ← purlBase fmt (quote name ['.', '_', '-', '+']) (quote version ['.', '_', '-', '+', '~'])
      (clean (package.field "vendor")) agent
    pure (match base with
      | .error reason => ⟨.skipped, none, some reason⟩
      | .ok base => ⟨.derived, some (arch.elim base fun arch =>
          base ++ "?arch=" ++ quote (Python.lower arch) []), some fmt⟩)

/-- `derive_purl_from_wazuh_package`. -/
def derivePurlFromWazuhPackage (package agent : Json) : Except PyError PurlDerivationResult := do
  let existing ← package.get "purl"
  match clean existing, clean (package.field "name"), clean (package.field "version") with
  | some purl, _, _ => pure ⟨.present, some purl, none⟩
  | none, some name, some version => derivePurlFrom package agent name version
  | none, _, _ => pure ⟨.skipped, none, some "missing_name_or_version"⟩

/-- `enrich_wazuh_package`. -/
def enrichWazuhPackage (package agent : Json) : Except PyError (Json × PurlDerivationResult) := do
  let result ← derivePurlFromWazuhPackage package agent
  let merged := match result.status, nonEmpty result.purl with
    | .derived, some purl => package.withMember "purl" (.str purl)
    | _, _ => package
  pure (merged, result)

end Derivation

end VulnOpsHub
