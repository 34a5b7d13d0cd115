import VulnOpsHub.Lib.Python
import Mathlib.Data.List.Lex

set_option autoImplicit false

/-! # Version comparison

`matching/versioning.py`: comparison of version strings, membership in an OSV range, and the
ecosystem names the matcher knows. Versions are those of `packaging.version`, a library: which
strings it accepts and how it orders them is left open in the class `Packaging`. -/

namespace VulnOpsHub

/-- `packaging.version`. `Version(s)` raises `InvalidVersion` where `parse s` is `none`; two
    versions compare by their keys, and `str` is the normalized text. -/
class Packaging where
  Version : Type
  Key : Type
  [keyOrder : LinearOrder Key]
  parse : String → Option Version
  key : Version → Key
  str : Version → String
  parse_empty : parse "" = none

attribute [reducible, instance] Packaging.keyOrder

section Versions

variable [Packaging]

/-- Where a version string stands in the order of versions. -/
def versionKey (s : String) : Option Packaging.Key := (Packaging.parse s).map Packaging.key

/-- `_compare_versions`. -/
def compareVersions (a b : String) : ℤ :=
  match Packaging.parse a, Packaging.parse b with
  | some pa, some pb =>
      if Packaging.key pa < Packaging.key pb then -1
      else if Packaging.key pb < Packaging.key pa then 1
      else 0
  | pa, pb =>
      -- a string that is no version compares as text
      let ta := (pa.map Packaging.str).getD a
      let tb := (pb.map Packaging.str).getD b
      if ta < tb then -1 else if tb < ta then 1 else 0

/-- `is_version_in_range`. -/
def isVersionInRange (version : String) (introduced fixed lastAffected : Option String) : Bool :=
  if (nonEmpty introduced).any fun i => i ≠ "0" && compareVersions version i < 0 then false
  else if (nonEmpty fixed).any fun f => 0 ≤ compareVersions version f then false
  else !(nonEmpty lastAffected).any fun l => 0 < compareVersions version l

/-- A version has some text. -/
theorem ne_empty_of_versionKey {s : String} {k : Packaging.Key} (h : versionKey s = some k) :
    s ≠ "" := by
  rintro rfl
  rw [versionKey, Packaging.parse_empty] at h
  cases h

theorem compareVersions_of_keys {a b : String} {ka kb : Packaging.Key}
    (ha : versionKey a = some ka) (hb : versionKey b = some kb) :
    compareVersions a b = if ka < kb then -1 else if kb < ka then 1 else 0 := by
  obtain ⟨pa, hpa, rfl⟩ := Option.map_eq_some_iff.1 ha
  obtain ⟨pb, hpb, rfl⟩ := Option.map_eq_some_iff.1 hb
  unfold compareVersions
  rw [hpa, hpb]

theorem compareVersions_neg {a b : String} {ka kb : Packaging.Key}
    (ha : versionKey a = some ka) (hb : versionKey b = some kb) :
    compareVersions a b < 0 ↔ ka < kb := by
  rw [compareVersions_of_keys ha hb]
  split_ifs with hab hba
  · simp [hab]
  · simp [hab]
  · simp [hab]

theorem compareVersions_nonneg {a b : String} {ka kb : Packaging.Key}
    (ha : versionKey a = some ka) (hb : versionKey b = some kb) :
    0 ≤ compareVersions a b ↔ kb ≤ ka := by
  rw [← not_lt, compareVersions_neg ha hb, not_lt]

end Versions

/-! ## Ecosystems -/

section Ecosystems

variable [Python]

/-- `SUPPORTED_ECOSYSTEMS`. -/
def supportedEcosystems : List String := ["pypi", "deb", "maven", "npm", "golang", "generic"]

/-- `supports_ecosystem`. -/
def supportsEcosystem (ecosystem : Option String) : Bool :=
  (nonEmpty ecosystem).any fun e => Python.lower e ∈ supportedEcosystems

/-- The table of `normalize_ecosystem`: it renames one ecosystem. -/
def ecosystemName (lower : String) : String := if lower = "debian" then "deb" else lower

/-- `normalize_ecosystem`. -/
def normalizeEcosystem (ecosystem : Option String) : Option String :=
  (nonEmpty ecosystem).map fun e => ecosystemName (Python.lower e)

end Ecosystems

/-! ## Release versions -/

/-- A decimal number. -/
def parseDigits (digits : List Char) : Option ℕ :=
  if digits ≠ [] ∧ digits.all Char.isDigit then
    some (digits.foldl (fun n c => 10 * n + (c.toNat - '0'.toNat)) 0)
  else none

/-- `packaging.version` on release versions, dotted numbers such as `1.26.18`; a trailing zero does
    not count. Any other string is refused. -/
@[reducible]
def dottedPackaging : Packaging where
  Version := List ℕ
  Key := List ℕ
  parse := fun s => (s.toList.splitOn '.').mapM parseDigits
  key := fun v => v.rdropWhile (· = 0)
  str := fun v => ".".intercalate (v.map toString)
  parse_empty := by decide

example : @isVersionInRange dottedPackaging "1.26.18" (some "0") (some "1.26.19") none = true := by
  decide +kernel

end VulnOpsHub
