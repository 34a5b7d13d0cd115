import VulnOpsHub.Lib.Canonical
import VulnOpsHub.Lib.Table
import Mathlib.Algebra.Group.Int.Defs
import Mathlib.Data.String.Basic

set_option autoImplicit false

/-! # Mapping payloads to assets

`AssetService.reconcile_alias` and `AssetMapper`. A payload is read without knowing its types, so its
values reach the statements as they are; what the database driver does with a value that is no text
is left open in the class `Driver`. -/

namespace VulnOpsHub

/-! ## Values in statements -/

/-- What the database driver makes of the values that are bound to text columns. -/
class Driver where
  /-- The text that a column of that width stores, unless the statement is refused. -/
  stored : Option ℕ → Json → Option String
  /-- The text that a column is compared with, unless the statement is refused. -/
  compared : Json → Option String
  /-- The number that an integer column stores for a number or a boolean. -/
  storedInt : Json → Option ℤ
  /-- Whether a statement takes the number as a parameter. -/
  binds : ℤ → Bool
  eq_of_stored : ∀ {width : Option ℕ} {s t : String}, stored width (.str s) = some t → t = s
  eq_of_compared : ∀ {s t : String}, compared (.str s) = some t → t = s
  eq_of_storedInt : ∀ {m n : ℤ}, storedInt (.int m) = some n → n = m

/-- SQLite: numbers become text, and a column has no width. -/
def sqliteText : Json → Option String
  | .str s => some s
  | .int n => some n.repr
  | .bool b => some (if b then "1" else "0")
  | _ => none

/-- Integers have 64 bits. -/
def sqliteBinds (n : ℤ) : Bool := -(2 ^ 63) ≤ n ∧ n < 2 ^ 63

def sqliteInt : Json → Option ℤ
  | .int n => if sqliteBinds n then some n else none
  | .bool b => some (if b then 1 else 0)
  | _ => none

@[reducible]
def sqliteDriver : Driver where
  stored := fun _ => sqliteText
  compared := sqliteText
  storedInt := sqliteInt
  binds := sqliteBinds
  eq_of_stored := fun h => (Option.some.inj h).symm
  eq_of_compared := fun h => (Option.some.inj h).symm
  eq_of_storedInt := fun {m n} h => by
    simp only [sqliteInt] at h
    split_ifs at h
    exact (Option.some.inj h).symm

/-- A statement that may be refused. -/
def accepted {α : Type} (value : Option α) : Except PyError α :=
  value.elim (.error .databaseError) .ok

theorem accepted_eq_ok {α : Type} {value : Option α} {a : α} :
    accepted value = .ok a ↔ value = some a := by
  cases value <;> simp [accepted]

/-! ## Aliases -/

structure AssetAlias where
  id : String
  assetId : String
  aliasNamespace : String
  value : String
  organizationId : String
deriving DecidableEq, Repr

instance : Keyed AssetAlias String := ⟨AssetAlias.id⟩

inductive AliasStatus where
  | resolved
  | ambiguous
  | notFound
  | candidate
deriving DecidableEq, Repr

def AliasStatus.value : AliasStatus → String
  | .resolved => "resolved"
  | .ambiguous => "ambiguous"
  | .notFound => "not_found"
  | .candidate => "candidate"

/-- What `reconcile_alias` and the mapper return. -/
structure MappingResult where
  status : AliasStatus
  assetId : Option String
  reason : String
deriving DecidableEq, Repr

section Mapper

variable [Python]

/-- The answer for the aliases that were found. -/
def reconciled (ns value : Json) (aliases : List AssetAlias) : MappingResult :=
  let pair := pyStr ns ++ "=" ++ pyStr value
  match aliases with
  | [] =>
      if ns.isOneOf ["ip", "hostname", "dns"] then ⟨.notFound, none, "no asset found for " ++ pair⟩
      else ⟨.notFound, none, "no alias match"⟩
  | [a] => ⟨.resolved, some a.assetId, "single match for " ++ pair⟩
  | aliases =>
      let assetIds := ", ".intercalate ((aliases.map AssetAlias.assetId).dedup.insertionSort (· ≤ ·))
      ⟨.ambiguous, none, "ambiguous collision for " ++ pair ++ " across assets [" ++ assetIds ++ "]"⟩

variable [Driver]

/-- `reconcile_alias`. -/
def reconcileAlias (aliases : List AssetAlias) (ns value : Json) (organizationId : Option String) :
    Except PyError MappingResult := do
  let n ← accepted (Driver.compared ns)
  let v ← accepted (Driver.compared value)
  pure (reconciled ns value (aliases.filter fun a =>
    a.aliasNamespace = n && a.value = v && (nonEmpty organizationId).all (a.organizationId = ·)))

/-- Whether a hint ends the search. -/
def MappingResult.settled? (r : MappingResult) : Option MappingResult :=
  match r.status with
  | .ambiguous => some ⟨.ambiguous, none, r.reason⟩
  | .resolved => some r
  | _ => none

/-- The loop of `map_hints`. -/
def mapHintsLoop (aliases : List AssetAlias) (organizationId : String) :
    List Json → Except PyError MappingResult
  | [] => .ok ⟨.notFound, none, "no resolvable alias"⟩
  | hint :: rest => do
      let ns ← hint.get "namespace"
      let value ← hint.get "value"
      if !ns.truthy || !value.truthy then mapHintsLoop aliases organizationId rest
      else do
        let result ← reconcileAlias aliases ns value (some organizationId)
        result.settled?.elim (mapHintsLoop aliases organizationId rest) .ok

def mapHints (aliases : List AssetAlias) (hints : List Json) (organizationId : String) :
    Except PyError MappingResult :=
  if hints.isEmpty then .ok ⟨.notFound, none, "no hints"⟩
  else mapHintsLoop aliases organizationId hints

/-! ## Payloads -/

/-- An entry of `finding_meta`. -/
def metadataEntry (item : Json) : Option (String × String) :=
  match item.field "name" with
  | .str name => (item.field "value").stripped?.map fun value => (Python.lower (strip name), value)
  | _ => none

/-- `_metadata_map`; of two entries with one name the later one counts. -/
def metadataMap (raw : Json) : List (String × String) :=
  (raw.items.filterMap metadataEntry).reverse

/-- `metadata.get(key)`. -/
def metadataValue (metadata : List (String × String)) (key : String) : Json :=
  .ofOption (metadata.lookup key)

/-- `any(h.get("value") == value for h in hints)`. -/
def anyHint (value : Json) : List Json → Except PyError Bool
  | [] => .ok false
  | hint :: rest => do
      let other ← hint.get "value"
      if other.eq value then pure true else anyHint value rest

/-- Add a hint for a value that none of the hints has. -/
def withHint (ns : String) (value : Json) (hints : List Json) : Except PyError (List Json) :=
  if value.truthy then do
    let known ← anyHint value hints
    pure (if known then hints else hints ++ [.obj [("namespace", .str ns), ("value", value)]])
  else .ok hints

def mapDefectdojo (aliases : List AssetAlias) (finding : Json) (organizationId : String) :
    Except PyError MappingResult := do
  let hints ← ((← finding.get "asset_hints").or (.arr [])).toList
  let metadata := metadataMap (finding.field "finding_meta")
  let host := ((finding.field "host").or (metadataValue metadata "host")).or
    (metadataValue metadata "hostname")
  let service := (finding.field "service").or (metadataValue metadata "service")
  let hints ← withHint "hostname" host hints
  let hints ← withHint "service" service hints
  mapHints aliases hints organizationId

/-- `if agent.get(key): hints.append({"namespace": ns, "value": agent[key]})`. -/
def agentHint (ns key : String) (agent : Json) (hints : List Json) : Except PyError (List Json) := do
  let value ← agent.get key
  pure (if value.truthy then hints ++ [.obj [("namespace", .str ns), ("value", value)]] else hints)

def mapWazuh (aliases : List AssetAlias) (event : Json) (organizationId : String) :
    Except PyError MappingResult := do
  let hints ← ((← event.get "asset_hints").or (.arr [])).toList
  let agent ← event.getOr "agent" (.obj [])
  let hints ← agentHint "wazuh" "id" agent hints
  let hints ← agentHint "hostname" "name" agent hints
  mapHints aliases hints organizationId

/-! ## What an organization sees -/

variable {aliases aliases' : List AssetAlias} {organizationId : String}

omit [Driver] in
/-- The answer does not depend on the order in which the aliases are found. -/
theorem reconciled_perm {found found' : List AssetAlias} (ns value : Json)
    (hperm : found.Perm found') : reconciled ns value found = reconciled ns value found' := by
  have hassets : (found.map AssetAlias.assetId).dedup.insertionSort (· ≤ ·)
      = (found'.map AssetAlias.assetId).dedup.insertionSort (· ≤ ·) :=
    List.Perm.eq_of_sortedLE (List.sortedLE_insertionSort) (List.sortedLE_insertionSort)
      ((List.perm_insertionSort _ _).trans (((hperm.map _).dedup).trans
        (List.perm_insertionSort _ _).symm))
  rcases found with _ | ⟨a, _ | ⟨b, rest⟩⟩
  · rw [List.nil_perm.1 hperm]
  · rw [List.singleton_perm.1 hperm]
  · have hlength := hperm.length_eq
    rcases found' with _ | ⟨c, _ | ⟨d, rest'⟩⟩
    · simp at hlength
    · simp at hlength
    · simp only [reconciled, hassets]

/-- The aliases of an organization, in any order. -/
def SameAliases (organizationId : String) (aliases aliases' : List AssetAlias) : Prop :=
  (aliases.filter (·.organizationId = organizationId)).Perm
    (aliases'.filter (·.organizationId = organizationId))

theorem reconcileAlias_congr (horg : organizationId ≠ "")
    (haliases : SameAliases organizationId aliases aliases') (ns value : Json) :
    reconcileAlias aliases ns value (some organizationId)
      = reconcileAlias aliases' ns value (some organizationId) := by
  have hown : nonEmpty (some organizationId) = some organizationId :=
    nonEmpty_eq_some.2 ⟨rfl, horg⟩
  have hfound : ∀ n v : String, (aliases.filter fun a => a.aliasNamespace = n && a.value = v &&
        (nonEmpty (some organizationId)).all (a.organizationId = ·)).Perm
      (aliases'.filter fun a => a.aliasNamespace = n && a.value = v &&
        (nonEmpty (some organizationId)).all (a.organizationId = ·)) := by
    intro n v
    have hsplit : ∀ rows : List AssetAlias, rows.filter (fun a => a.aliasNamespace = n && a.value = v &&
          (nonEmpty (some organizationId)).all (a.organizationId = ·))
        = (rows.filter (·.organizationId = organizationId)).filter
            fun a => a.aliasNamespace = n && a.value = v := by
      intro rows
      rw [List.filter_filter, hown]
      rfl
    rw [hsplit, hsplit]
    exact haliases.filter _
  unfold reconcileAlias
  refine congrArg _ (funext fun n => congrArg _ (funext fun v => ?_))
  exact congrArg _ (reconciled_perm ns value (hfound n v))

theorem mapHints_congr (horg : organizationId ≠ "")
    (haliases : SameAliases organizationId aliases aliases') (hints : List Json) :
    mapHints aliases hints organizationId = mapHints aliases' hints organizationId := by
  have hloop : mapHintsLoop aliases organizationId hints
      = mapHintsLoop aliases' organizationId hints := by
    induction hints with
    | nil => rfl
    | cons hint rest ih =>
        simp only [mapHintsLoop, reconcileAlias_congr horg haliases, ih]
  simp only [mapHints, hloop]

/-- **Only the aliases of the organization count.** -/
theorem mapDefectdojo_congr (horg : organizationId ≠ "")
    (haliases : SameAliases organizationId aliases aliases') (finding : Json) :
    mapDefectdojo aliases finding organizationId = mapDefectdojo aliases' finding organizationId := by
  simp only [mapDefectdojo, mapHints_congr horg haliases]

theorem mapWazuh_congr (horg : organizationId ≠ "")
    (haliases : SameAliases organizationId aliases aliases') (event : Json) :
    mapWazuh aliases event organizationId = mapWazuh aliases' event organizationId := by
  simp only [mapWazuh, mapHints_congr horg haliases]

end Mapper

end VulnOpsHub
