import AiPowerGateway.Share.CatalogueRouting
import AiPowerGateway.Share.BannedSource
import AiPowerGateway.Share.ToolTurns
import AiPowerGateway.Share.AnthropicReplay
import AiPowerGateway.Share.OpenaiReplay
import AiPowerGateway.Share.CandidateLoop
import AiPowerGateway.Share.Gates
import AiPowerGateway.Share.Fallback
import AiPowerGateway.Share.AliasTransparency
import AiPowerGateway.LanClient.PunchJoin
import AiPowerGateway.Systems.LockedSave
import AiPowerGateway.Share.UsageRuns
import AiPowerGateway.Share.BanRuns
import AiPowerGateway.Share.BackendEntry
import AiPowerGateway.Share.BackendStore
import AiPowerGateway.Json.Schema
import AiPowerGateway.Share.ConfigFiles
import AiPowerGateway.Share.CrashSafety
import AiPowerGateway.Share.HealthMonitor
import AiPowerGateway.Share.BackendAdmin
import AiPowerGateway.Share.ConfigChanges
import AiPowerGateway.Share.AdminTasks
import AiPowerGateway.Share.AutoProbe
import AiPowerGateway.Share.PollerRuns
import AiPowerGateway.Share.HealthRuns
import AiPowerGateway.Systems.EventRuns
import AiPowerGateway.Collections.Holds
import AiPowerGateway.Share.Control
import AiPowerGateway.Share.BanBookkeeping
import AiPowerGateway.Link.Crypto
import AiPowerGateway.Share.Http
import AiPowerGateway.Share.Link
import AiPowerGateway.LanClient.Gateway
import AiPowerGateway.LanClient.LinkTransparency
import AiPowerGateway.Share.Router
import AiPowerGateway.Cli.MemberRoutes
import AiPowerGateway.Protocols.NonceBox
import AiPowerGateway.Text.Utf8
import AiPowerGateway.Share.AuthEvents
import AiPowerGateway.Share.RestartTransparency
import AiPowerGateway.Share.OneLiveKey
import AiPowerGateway.Share.FailedRotation
import AiPowerGateway.Share.Renames
import AiPowerGateway.Share.PolicyCoverage
import AiPowerGateway.Collections.Best
import AiPowerGateway.Share.RouteSoundness
import AiPowerGateway.Share.CatalogueSet
import AiPowerGateway.Share.Totality
import AiPowerGateway.Graphs.TopoSort
import AiPowerGateway.Runtime.Boot
import AiPowerGateway.Runtime.BootDependencies
import AiPowerGateway.Runtime.ModuleOrder
import AiPowerGateway.Files.Paths
import AiPowerGateway.Files.Tree
import AiPowerGateway.Runtime.Roles
import AiPowerGateway.Runtime.RoleFiles
import AiPowerGateway.Runtime.RoleDeletion
import AiPowerGateway.Runtime.RoleIdentity
import AiPowerGateway.Punch.Authenticity
import AiPowerGateway.Punch.Socket
import AiPowerGateway.Share.LeaderPunch
import AiPowerGateway.Runtime.SingleInstance
import AiPowerGateway.Share.RuleResolution
import AiPowerGateway.Share.RuleNames
import AiPowerGateway.Share.QuotaOvershoot
import AiPowerGateway.Numbers.Word
import AiPowerGateway.Share.UsageArithmetic
import AiPowerGateway.Share.UsageDimensions
import AiPowerGateway.Share.BillingExport
import AiPowerGateway.Share.ToolEcho
import AiPowerGateway.Share.ReasoningField
import AiPowerGateway.Share.AssembledStream
import AiPowerGateway.Share.ReplayAssembly
import AiPowerGateway.Share.HealthHistory
import AiPowerGateway.Share.PollingNumbers
import AiPowerGateway.Share.BackendEdits
import AiPowerGateway.Share.StoreTable
import AiPowerGateway.Share.BannedOffline
import AiPowerGateway.Cli.Preflight
import AiPowerGateway.LanClient.Discovery
import AiPowerGateway.Punch.Ports
import AiPowerGateway.LanClient.StatusPage
import AiPowerGateway.Runtime.ConfigPrecedence
import AiPowerGateway.Runtime.DeepMerge
import AiPowerGateway.Runtime.Redaction
import AiPowerGateway.Runtime.RoleModules
import AiPowerGateway.Share.PolicyFragments
import AiPowerGateway.Share.KeySource
import AiPowerGateway.Config.Vault
import AiPowerGateway.Runtime.MergeLaw
import AiPowerGateway.Config.Store
import AiPowerGateway.Config.Services
import AiPowerGateway.Share.Channel
import AiPowerGateway.Share.Switches
import AiPowerGateway.Share.Broadcast
import AiPowerGateway.LanClient.Announcements
import AiPowerGateway.Punch.TwoParties
import AiPowerGateway.Coord.AccountRuns
import AiPowerGateway.LanClient.UsageView
import AiPowerGateway.Share.RulesAdmin
import AiPowerGateway.Share.StoredEntries
import AiPowerGateway.Share.ConnectionTest
import AiPowerGateway.Cli.ServerEntries
import AiPowerGateway.Cli.StrategyMirror
import AiPowerGateway.Punch.Certificate
import AiPowerGateway.Share.PollSchedule
import AiPowerGateway.Runtime.EventBus
import AiPowerGateway.Cli.StrategyVersion
