import SdcMcp.Lib.Run
import SdcMcp.Lib.Fallible
import SdcMcp.Lib.SortedMap
import SdcMcp.Lib.Json
import SdcMcp.Lib.JsonText
import SdcMcp.Lib.Map
import SdcMcp.Lib.Serde
import SdcMcp.Lib.Hex
import SdcMcp.Lib.Duration
import SdcMcp.Lib.Percent
import SdcMcp.Lib.PyJson
import SdcMcp.Lib.PyDumps
import SdcMcp.Lib.Unfolding
import SdcMcp.Lib.Sorting
import SdcMcp.Lib.ByteOrder
import SdcMcp.Lib.Decimal
import SdcMcp.Lib.Visitor
import SdcMcp.Lib.Interleaving
import SdcMcp.Lib.Semaphore
import SdcMcp.Model.Types
import SdcMcp.Model.Catalog
import SdcMcp.Model.Wire
import SdcMcp.Model.Checks
import SdcMcp.Model.Client
import SdcMcp.Model.Config
import SdcMcp.Model.ConfigFile
import SdcMcp.Model.Calls
import SdcMcp.Model.Jobs
import SdcMcp.Model.Prepared
import SdcMcp.Model.Transaction
import SdcMcp.Model.ObjectWrite
import SdcMcp.Model.FirewallWrite
import SdcMcp.Model.NatWrite
import SdcMcp.Model.LicenseWrite
import SdcMcp.Model.DeviceSync
import SdcMcp.Model.Deploy
import SdcMcp.Model.ChangeManager
import SdcMcp.Model.Stored
import SdcMcp.Model.Prepare
import SdcMcp.Model.Paging
import SdcMcp.Model.Body
import SdcMcp.Model.Projection
import SdcMcp.Model.CallerView
import SdcMcp.Model.Reads
import SdcMcp.Model.Redact
import SdcMcp.Model.Tools
import SdcMcp.Model.Server
import SdcMcp.Model.Concurrency
import SdcMcp.Model.SpecDrift
import SdcMcp.Model.Sbom
import SdcMcp.Proofs.Send
import SdcMcp.Proofs.Poll
import SdcMcp.Proofs.Checks
import SdcMcp.Proofs.Commit
import SdcMcp.Proofs.Scripted
import SdcMcp.Proofs.WriteOutcome
import SdcMcp.Proofs.JobOutcome
import SdcMcp.Proofs.LicenseOutcome
import SdcMcp.Proofs.DeployOutcome
import SdcMcp.Proofs.SyncOutcome
import SdcMcp.Proofs.Coordinated
import SdcMcp.Proofs.Release
import SdcMcp.Proofs.Envelopes
import SdcMcp.Proofs.Executable
import SdcMcp.Proofs.Plans
import SdcMcp.Proofs.Gate
import SdcMcp.Proofs.DeployFidelity
import SdcMcp.Proofs.LicensePages
import SdcMcp.Proofs.PollBounds
import SdcMcp.Proofs.Retry
import SdcMcp.Proofs.Tokens
import SdcMcp.Proofs.Paging
import SdcMcp.Proofs.Restage
import SdcMcp.Proofs.CallerViews
import SdcMcp.Proofs.PrepareRules
import SdcMcp.Proofs.LicenseDrift
import SdcMcp.Proofs.Routing
import SdcMcp.Proofs.SpecOutline
import SdcMcp.Proofs.SpecInline
import SdcMcp.Proofs.SpecOperations
import SdcMcp.Proofs.SpecFingerprints
import SdcMcp.Proofs.Redaction
import SdcMcp.Proofs.Projection
import SdcMcp.Proofs.Bodies
import SdcMcp.Proofs.PageBudget
import SdcMcp.Proofs.PreparedChange
import SdcMcp.Proofs.DevicePlans
import SdcMcp.Proofs.Sbom
import SdcMcp.Proofs.SpecDrift
import SdcMcp.Proofs.SpecRewrites
import SdcMcp.Proofs.ReadTools
import SdcMcp.Proofs.StoredActions
import SdcMcp.Proofs.Requests
import SdcMcp.Proofs.Mutations
import SdcMcp.Proofs.Sessions
import SdcMcp.Proofs.RmaState
import SdcMcp.Proofs.Provenance
import SdcMcp.Proofs.Delivery
import SdcMcp.Proofs.Shown
import SdcMcp.Proofs.Reports
import SdcMcp.Proofs.ConfigFile
import SdcMcp.Proofs.Startup
import SdcMcp.Proofs.Concurrency
import SdcMcp.Proofs.JobFinishes
