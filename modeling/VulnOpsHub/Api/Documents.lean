import VulnOpsHub.Api.Server
import VulnOpsHub.Integrations.Isolation
import VulnOpsHub.Sbom.Entries

set_option autoImplicit false

/-! # Refusing a malformed document

`submit_sbom` answers 422 where the service raises `ValueError`, and 500 where it raises anything
else. The parser raises `ValueError` for what it checks; the entries it reads without a check raise
`TypeError`, which the caller sees as an internal error. -/

namespace VulnOpsHub

namespace Sbom

/-- The answer of `submit_sbom` to what the service raised. -/
def ingestProblem : PyError → Problem
  | .valueError message => .plain 422 message
  | _ => .plain 500 "Failed to process SBOM"

section Documents

variable [Python] [Driver] [Sha256]

theorem ingest_of_parse_error {settings : StorageSettings} {c : SbomCall} {s : SbomStore}
    {e : PyError} (hnew : s.documents.byNatural (c.digest, c.organizationId) = none)
    (h : parse c.raw = .error e) : ingest settings c s = (.error e, s) := by
  have hread : readSbom c s = .error e := by
    unfold readSbom
    rw [h]
    rfl
  unfold ingest
  rw [hnew, hread]

/-- A document that the parser refuses leaves nothing behind. -/
theorem submit_of_parse_error {storage : StorageSettings} {a : Arrival} {r : RouteCall} {p : Principal}
    {data : Json} {idempotencyKey : Option String} {s : SbomStore} {e : PyError}
    (hcapable : requireCapability r "sbom:write" = .ok p) (hobject : data.isObject = true)
    (hnew : s.documents.byNatural (canonicalDigest data, r.orgId) = none)
    (h : parse data = .error e) :
    submitSbomRoute storage a r (.ok data) idempotencyKey s = (.problem (ingestProblem e), s) := by
  cases data with
  | obj members =>
      have hingest : ingest { storage with failure := a.storageFailure }
          (a.sbomCall r.orgId (.obj members) idempotencyKey) s = (.error e, s) :=
        ingest_of_parse_error hnew h
      unfold submitSbomRoute
      rw [hcapable]
      dsimp only
      rw [hingest]
      cases e <;> rfl
  | _ => cases hobject

/-- Parsing a document returns or raises `ValueError`; a document that is refused and is not stored is
    answered 422; one that is parsed keeps its named entries. -/
structure ParsesClosed (data : Json) : Prop where
  total : (∃ parsed, parse data = .ok parsed) ∨ ∃ message, parse data = .error (.valueError message)
  answers : ∀ (storage : StorageSettings) (a : Arrival) (r : RouteCall) (p : Principal)
    (idempotencyKey : Option String) (s : SbomStore),
    requireCapability r "sbom:write" = .ok p →
    s.documents.byNatural (canonicalDigest data, r.orgId) = none →
    (∀ parsed, parse data ≠ .ok parsed) →
    ∃ message,
      submitSbomRoute storage a r (.ok data) idempotencyKey s = (.problem (.plain 422 message), s)
  keeps : ∀ parsed, parse data = .ok parsed →
    parsed.components.map ParsedComponent.raw = documentIdentities parsed.format data

/-- **Parsing is closed** where the entries that are read are of types that the parsers read. -/
theorem parsesClosed_iff {data : Json} : ParsesClosed data ↔ WellTyped data := by
  constructor
  · intro h
    by_contra htyped
    have herror := parse_typeError_iff.2 htyped
    rcases h.total with ⟨parsed, hparsed⟩ | ⟨message, hmessage⟩
    · rw [herror] at hparsed
      cases hparsed
    · rw [herror] at hmessage
      cases hmessage
  · intro htyped
    have hrefused : ∀ e, parse data = .error e → ∃ message, e = .valueError message := by
      intro e he
      rcases parse_error he with hvalue | rfl
      · exact hvalue
      · exact absurd htyped (parse_typeError_iff.1 he)
    refine ⟨?_, fun storage a r p idempotencyKey s hcapable hnew hnone => ?_,
      fun parsed hparsed => parse_identities hparsed⟩
    · cases hparse : parse data with
      | ok parsed => exact Or.inl ⟨parsed, rfl⟩
      | error e =>
          obtain ⟨message, rfl⟩ := hrefused e hparse
          exact Or.inr ⟨message, rfl⟩
    · cases hparse : parse data with
      | ok parsed => exact absurd hparse (hnone parsed)
      | error e =>
          obtain ⟨message, rfl⟩ := hrefused e hparse
          by_cases hobject : data.isObject = true
          · exact ⟨message, submit_of_parse_error hcapable hobject hnew hparse⟩
          · refine ⟨"Invalid SBOM: expected JSON object", ?_⟩
            unfold submitSbomRoute
            rw [hcapable]
            cases data with
            | obj members => exact absurd rfl hobject
            | _ => rfl

end Documents

/-- A purl that is a number. -/
def numberedPurl : Json :=
  .obj [("bomFormat", .str "CycloneDX"), ("specVersion", .str "1.5"),
    ("components", .arr [.obj [("name", .str "openssl"), ("purl", .int 5)]])]

/-- **A purl that is no text** is matched as one: `TypeError`, neither a result nor `ValueError`. -/
theorem numberedPurl_not_closed :
    ¬ @ParsesClosed asciiPython sqliteDriver findingDigests numberedPurl := by
  let _ := asciiPython
  let _ := sqliteDriver
  let _ := findingDigests
  intro h
  have herror : parse numberedPurl = .error .typeError := rfl
  rcases h.total with ⟨parsed, hparsed⟩ | ⟨message, hmessage⟩
  · rw [herror] at hparsed
    cases hparsed
  · rw [herror] at hmessage
    cases hmessage

end Sbom

end VulnOpsHub
