import DoxGovernance.Lib.Effect
import DoxGovernance.Lib.Run
import DoxGovernance.Lib.Table
import DoxGovernance.Lib.Counter
import DoxGovernance.Lib.Decimal
import DoxGovernance.Lib.Binary64
import DoxGovernance.Lib.Exposure
import DoxGovernance.Lib.Agreement
import DoxGovernance.Lib.Paging
import DoxGovernance.Lib.Calendar
import DoxGovernance.Lib.Json
import DoxGovernance.Lib.JsonText
import DoxGovernance.Lib.JsonDumps
import DoxGovernance.Lib.Utf8
import DoxGovernance.Lib.Pattern
import DoxGovernance.Lib.Text
import DoxGovernance.Lib.Interleave
import DoxGovernance.Lib.StateGraph
import DoxGovernance.Lib.TotalVariation
import DoxGovernance.Lib.FileTree
import DoxGovernance.Lib.Growth
import DoxGovernance.Lib.Abort
import DoxGovernance.Lib.Simulation
import DoxGovernance.Lib.WriteBack
import DoxGovernance.Lib.Codec
import DoxGovernance.Lib.Ownership
import DoxGovernance.Lib.Purge
import DoxGovernance.Exceptions
import DoxGovernance.Schemas.Enums
import DoxGovernance.Schemas.Payload
import DoxGovernance.Schemas.Validators
import DoxGovernance.Schemas.Shapes
import DoxGovernance.Schemas.Events
import DoxGovernance.Schemas.Fields
import DoxGovernance.Models
import DoxGovernance.Columns
import DoxGovernance.World
import DoxGovernance.Accounts
import DoxGovernance.Users.Service
import DoxGovernance.Quota.Service
import DoxGovernance.Quota.Account
import DoxGovernance.Quota.Ledger
import DoxGovernance.Quota.History
import DoxGovernance.Quota.Concurrency
import DoxGovernance.Sentinel.Service
import DoxGovernance.Ingestion.Service
import DoxGovernance.Ingestion.Acceptance
import DoxGovernance.Ingestion.Admission
import DoxGovernance.Ingestion.Delivery
import DoxGovernance.Ingestion.Charging
import DoxGovernance.Ingestion.Batching
import DoxGovernance.Audit.Service
import DoxGovernance.Audit.Integrity
import DoxGovernance.Policy.Service
import DoxGovernance.Query.Service
import DoxGovernance.Query.Listing
import DoxGovernance.Drift.Service
import DoxGovernance.Drift.Concurrency
import DoxGovernance.Notify.Service
import DoxGovernance.Registry.Service
import DoxGovernance.Compliance.Service
import DoxGovernance.Auth.Dependencies
import DoxGovernance.Auth.Service
import DoxGovernance.Auth.Tokens
import DoxGovernance.Workflows.Invoke
import DoxGovernance.Workflows.SentinelResponse
import DoxGovernance.Workflows.ResponseAction
import DoxGovernance.Workflows.HumanReview
import DoxGovernance.Workflows.Replay
import DoxGovernance.Ingestion.Verification
import DoxGovernance.Gateway.Responses
import DoxGovernance.Sentinel.Router
import DoxGovernance.Policy.Router
import DoxGovernance.Quota.Router
import DoxGovernance.Drift.Router
import DoxGovernance.Notify.Router
import DoxGovernance.Compliance.Router
import DoxGovernance.Registry.Router
import DoxGovernance.Audit.Router
import DoxGovernance.Query.Router
import DoxGovernance.Ingestion.Router
import DoxGovernance.Gateway.App
import DoxGovernance.Gateway.Isolation
import DoxGovernance.Gateway.Noninterference
import DoxGovernance.Gateway.Revocation
import DoxGovernance.Quota.Reporting
import DoxGovernance.Tenants.Service
import DoxGovernance.Tenants.Tiers
import DoxGovernance.Ingestion.Storage
import DoxGovernance.Drift.Windows
import DoxGovernance.Workflows.Failures
import DoxGovernance.Workflows.Resolutions
import DoxGovernance.Workflows.Outcomes
import DoxGovernance.Workflows.Reviews
import DoxGovernance.Drift.Distance
import DoxGovernance.Drift.Alerting
import DoxGovernance.Policy.Evaluation
import DoxGovernance.Registry.Concurrency
import DoxGovernance.Query.Verification
import DoxGovernance.Notify.History
import DoxGovernance.Adapters.ObjectStore
import DoxGovernance.Adapters.Aliasing
import DoxGovernance.Drift.Rounding
import DoxGovernance.Gateway.Listings
import DoxGovernance.Sdk.Builder
import DoxGovernance.Sdk.Client
import DoxGovernance.Workflows.ReplayOrder
import DoxGovernance.Workflows.DriftAnalysis
import DoxGovernance.Ingestion.Outages
import DoxGovernance.Ingestion.Telemetry
import DoxGovernance.System.Writes
import DoxGovernance.System.Operations
import DoxGovernance.System.Calls
import DoxGovernance.System.Lifecycle
import DoxGovernance.System.Soundness
import DoxGovernance.System.Powers
import DoxGovernance.System.Answers
import DoxGovernance.Users.Router
import DoxGovernance.Users.Directory
import DoxGovernance.Ingestion.Sessions
import DoxGovernance.Ingestion.Concurrency
import DoxGovernance.Registry.Edits
import DoxGovernance.Users.Edits
import DoxGovernance.Schemas.FieldCodecs
import DoxGovernance.Schemas.Wire
import DoxGovernance.System.Posts
import DoxGovernance.System.Delivery
import DoxGovernance.System.Deliveries
import DoxGovernance.System.Tenancy
import DoxGovernance.System.Alike
import DoxGovernance.System.Dedicated
