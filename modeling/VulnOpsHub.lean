import VulnOpsHub.Lib.Interleaving
import VulnOpsHub.Cases.Contracts
import VulnOpsHub.Cases.Steps
import VulnOpsHub.Cases.Runs
import VulnOpsHub.Cases.Lifecycle
import VulnOpsHub.Cases.Concurrency
import VulnOpsHub.Cases.Approvals
import VulnOpsHub.Matching.Service
import VulnOpsHub.Matching.Purl
import VulnOpsHub.Matching.Identity
import VulnOpsHub.Matching.Ranges
import VulnOpsHub.Intelligence.Osv
import VulnOpsHub.Workers.Advisory
import VulnOpsHub.Matching.Justification
import VulnOpsHub.Lib.Embedding
import VulnOpsHub.Intelligence.Enrichment
import VulnOpsHub.Risk.Policy
import VulnOpsHub.Workers.Models
import VulnOpsHub.Api.Exposures
import VulnOpsHub.Workers.Orchestration
import VulnOpsHub.Workers.Outbox
import VulnOpsHub.Workers.Drain
import VulnOpsHub.Workers.Rounds
import VulnOpsHub.Workers.Runs
import VulnOpsHub.Workers.Effects
import VulnOpsHub.Workers.Binding
import VulnOpsHub.Workers.Priorities
import VulnOpsHub.Workers.Answers
import VulnOpsHub.Workers.Verdicts
import VulnOpsHub.Workers.Reviews
import VulnOpsHub.Workers.Drafts
import VulnOpsHub.Workers.Degraded
import VulnOpsHub.Workers.Aliases
import VulnOpsHub.Workers.Processing
import VulnOpsHub.Workers.Staging
import VulnOpsHub.Workers.Crew
import VulnOpsHub.Workers.Uniqueness
import VulnOpsHub.Workers.Exclusion
import VulnOpsHub.Workers.Ambiguity
import VulnOpsHub.Workers.Packages
import VulnOpsHub.Cases.Trail
import VulnOpsHub.Lib.Numerals
import VulnOpsHub.Lib.Paging
import VulnOpsHub.Workers.Polling
import VulnOpsHub.Workers.Checkpoints
import VulnOpsHub.Integrations.Mapping
import VulnOpsHub.Lib.UniqueTable
import VulnOpsHub.Integrations.WazuhPurl
import VulnOpsHub.Integrations.Store
import VulnOpsHub.Integrations.DefectDojo
import VulnOpsHub.Integrations.Wazuh
import VulnOpsHub.Integrations.Isolation
import VulnOpsHub.Integrations.Replay
import VulnOpsHub.Workers.Ingestion
import VulnOpsHub.Sbom.Parser
import VulnOpsHub.Sbom.Service
import VulnOpsHub.Sbom.Writes
import VulnOpsHub.Lib.Register
import VulnOpsHub.Sbom.Storable
import VulnOpsHub.Sbom.Ledger
import VulnOpsHub.Sbom.Entries
import VulnOpsHub.Sbom.Ingestion
import VulnOpsHub.Auth.Oidc
import VulnOpsHub.Auth.Provenance
import VulnOpsHub.Auth.Soundness
import VulnOpsHub.Auth.Acceptance
import VulnOpsHub.Auth.Refreshes
import VulnOpsHub.Cases.Sweep
import VulnOpsHub.Auth.Principal
import VulnOpsHub.Api.Approval
import VulnOpsHub.Console.Auth
import VulnOpsHub.Console.Capabilities
import VulnOpsHub.Api.Reviewers
import VulnOpsHub.Console.Logout
import VulnOpsHub.Console.OnScreen
import VulnOpsHub.Api.Bodies
import VulnOpsHub.Api.Cases
import VulnOpsHub.Api.Dispatch
import VulnOpsHub.Api.Documents
import VulnOpsHub.Api.History
import VulnOpsHub.Matching.Clearance
import VulnOpsHub.Matching.Rearrangement
import VulnOpsHub.Workers.Urgency
import VulnOpsHub.Lib.Patched
import VulnOpsHub.Matching.Orders
import VulnOpsHub.Cases.Admission
import VulnOpsHub.Cases.Breaches
import VulnOpsHub.Cases.Documented
import VulnOpsHub.Cases.Residue
import VulnOpsHub.Cases.Owners
import VulnOpsHub.Cases.Composition
import VulnOpsHub.Lib.SemVer
import VulnOpsHub.Matching.Precedence
import VulnOpsHub.Lib.Retry
import VulnOpsHub.Api.Additions
import VulnOpsHub.Api.Server
import VulnOpsHub.Console.Client
import VulnOpsHub.Integrations.Hints
import VulnOpsHub.Intelligence.Batches
import VulnOpsHub.Workers.Alignment
import VulnOpsHub.Lib.Flushing
import VulnOpsHub.Workers.Upserts
import VulnOpsHub.Intelligence.Persistence
import VulnOpsHub.Intelligence.Upserts
import VulnOpsHub.Intelligence.Replays
import VulnOpsHub.Intelligence.Ranges
import VulnOpsHub.Intelligence.Kev
import VulnOpsHub.Intelligence.Withdrawals
import VulnOpsHub.Lib.Url
import VulnOpsHub.Sbom.RawStore
import VulnOpsHub.Sbom.RawBytes
import VulnOpsHub.Integrations.PurlRoundTrip
import VulnOpsHub.Sbom.Formats
import VulnOpsHub.Api.Listings
import VulnOpsHub.Cases.Outcomes
import VulnOpsHub.Api.Refusals
import VulnOpsHub.Api.Failures
import VulnOpsHub.Workers.Inventory
import VulnOpsHub.Integrations.Snapshots
import VulnOpsHub.Assets.Import
import VulnOpsHub.Assets.Rows
import VulnOpsHub.Assets.Frames
import VulnOpsHub.Assets.Marks
import VulnOpsHub.Assets.Replays
import VulnOpsHub.Lib.Turns
import VulnOpsHub.Lib.Parallel
import VulnOpsHub.Workers.Boundaries
import VulnOpsHub.Services.Creation
import VulnOpsHub.Services.Races
import VulnOpsHub.Services.Imports
import VulnOpsHub.Workers.Tenants
import VulnOpsHub.Workers.Pipeline
import VulnOpsHub.Workers.Deliveries
import VulnOpsHub.Api.Evidence
