import VulnOpsHub.Cases.Models

set_option autoImplicit false

/-! # Case ownership

`cases/ownership.py`, and the part of `CaseService.create_case` that chooses the owner of a case:
inventory lookups for every linked asset, their agreement, and the choice between the requested
owner and what the inventory says. -/

namespace VulnOpsHub

inductive OwnerSource where
  | asset
  | service
  | default
  | explicit
deriving DecidableEq, Repr

def OwnerSource.value : OwnerSource → String
  | .asset => "asset"
  | .service => "service"
  | .default => "default"
  | .explicit => "explicit"

/-- An owner team and where it was found. -/
structure ResolvedOwner where
  ownerTeam : String
  source : OwnerSource
deriving DecidableEq, Repr

/-- `text or "unassigned"`, after stripping. -/
def stripOrUnassigned (text : String) : String :=
  if strip text = "" then "unassigned" else strip text

/-- `_default_owner_team`; `setting` is `default_case_owner_team` of the settings. -/
def defaultOwnerTeam (setting given : Option String) : String :=
  stripOrUnassigned (orElse given (orElse setting "unassigned"))

/-- `resolve_case_owner`: the asset's owner, else its business service's, else the default. -/
def resolveCaseOwner (setting : Option String) (organizationId : String) (assetId : Option String)
    (given : Option String) : Prog ResolvedOwner := do
  let fallback : ResolvedOwner := ⟨defaultOwnerTeam setting given, .default⟩
  match nonEmpty assetId with
  | none => pure fallback
  | some assetId =>
      match ← Program.select (·.asset? assetId organizationId) with
      | none => pure fallback
      | some asset =>
          let owner := strip (asset.owner.getD "")
          if owner ≠ "" then
            pure ⟨owner, .asset⟩
          else
            match nonEmpty asset.businessServiceId with
            | none => pure fallback
            | some serviceId =>
                let service ← Program.select (·.service? serviceId organizationId)
                let serviceOwner := strip ((service.map (·.ownerTeam)).getD "")
                if serviceOwner ≠ "" then
                  pure ⟨serviceOwner, .service⟩
                else
                  pure fallback

/-- The owners of all linked assets, one lookup after the other. -/
def resolveOwners (setting : Option String) (organizationId : String) (given : Option String) :
    List String → Prog (List ResolvedOwner)
  | [] => pure []
  | assetId :: rest => do
      let owner ← resolveCaseOwner setting organizationId (some assetId) given
      let owners ← resolveOwners setting organizationId given rest
      pure (owner :: owners)

/-- Reading owners has no effects and raises nothing. -/
theorem resolveCaseOwner_queries (setting : Option String) (organizationId : String)
    (assetId given : Option String) :
    (resolveCaseOwner setting organizationId assetId given).Queries (fun _ => False) := by
  unfold resolveCaseOwner
  simp only [Program.select_bind, Program.pure_eq]
  split
  · exact trivial
  · intro db
    dsimp only
    split
    · exact trivial
    · split
      · exact trivial
      · split
        · exact trivial
        · intro db'
          dsimp only
          split <;> exact trivial

theorem resolveOwners_queries (setting : Option String) (organizationId : String)
    (given : Option String) (assetIds : List String) :
    (resolveOwners setting organizationId given assetIds).Queries (fun _ => False) := by
  induction assetIds with
  | nil => exact trivial
  | cons assetId rest ih =>
      refine Program.Queries.bind (resolveCaseOwner_queries _ _ _ _) fun owner => ?_
      exact Program.Queries.bind ih fun owners => trivial

section Choice

variable [Python]

/-- Owners agree on the case-insensitive team and on owned versus default. -/
def ResolvedOwner.key (owner : ResolvedOwner) : String × Bool :=
  (Python.casefold owner.ownerTeam, owner.source == .default)

/-- The order of the representative: casefolded team, team, source. -/
def ResolvedOwner.before (a b : ResolvedOwner) : Bool :=
  let ka := Python.casefold a.ownerTeam
  let kb := Python.casefold b.ownerTeam
  decide (ka < kb) || ka == kb && (decide (a.ownerTeam < b.ownerTeam)
    || a.ownerTeam == b.ownerTeam && decide (a.source.value < b.source.value))

/-- `min` by that order: the first of the least owners. -/
def minOwner (owner : ResolvedOwner) (owners : List ResolvedOwner) : ResolvedOwner :=
  owners.foldl (fun best o => if o.before best then o else best) owner

/-- The owner `create_case` records, given the owners of the linked assets. -/
def chooseOwner (defaultTeam : String) (requested : Option String) (owners : List ResolvedOwner) :
    Except PyError ResolvedOwner := do
  let requestedOwner := strip (requested.getD "")
  let requestedDefault : Bool :=
    requestedOwner == "" || Python.casefold requestedOwner == Python.casefold defaultTeam
  match owners with
  | [] => pure (if requestedDefault then ⟨defaultTeam, .default⟩ else ⟨requestedOwner, .explicit⟩)
  | owner :: rest =>
      if rest.any (fun o => o.key != owner.key) then
        throw (.valueError "conflicting exposure owners")
      else if requestedDefault then
        let resolved := minOwner owner rest
        pure (if resolved.source = .default then ⟨defaultTeam, .default⟩ else resolved)
      else
        pure ⟨requestedOwner, .explicit⟩

end Choice

end VulnOpsHub
