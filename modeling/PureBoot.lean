import PureBoot.Lib.Run
import PureBoot.Lib.Table
import PureBoot.Lib.Unique
import PureBoot.Lib.Trail
import PureBoot.Lib.Chunks
import PureBoot.Lib.Posix
import PureBoot.Lib.Links
import PureBoot.Lib.Files
import PureBoot.Lib.Tree
import PureBoot.Lib.Locks
import PureBoot.Lib.FanOut
import PureBoot.Lib.Bytes
import PureBoot.Lib.Dict
import PureBoot.Lib.SetIter
import PureBoot.Lib.Pattern
import PureBoot.Lifecycle.StateMachine
import PureBoot.Lifecycle.Store
import PureBoot.Lifecycle.NodeApi
import PureBoot.Lifecycle.CloneApi
import PureBoot.Lifecycle.AuditChain
import PureBoot.Lifecycle.NodeSteps
import PureBoot.Lifecycle.Attempts
import PureBoot.Lifecycle.CloneLife
import PureBoot.Approvals.Service
import PureBoot.Approvals.Api
import PureBoot.Approvals.Steps
import PureBoot.Approvals.FourEyes
import PureBoot.Approvals.Resolution
import PureBoot.Approvals.Concurrent
import PureBoot.Approvals.Escalation
import PureBoot.Approvals.Thresholds
import PureBoot.Groups.Api
import PureBoot.Groups.Tree
import PureBoot.Groups.Faithful
import PureBoot.Groups.Queries
import PureBoot.Groups.References
import PureBoot.Groups.Nesting
import PureBoot.Agent.Queue
import PureBoot.Agent.Processor
import PureBoot.Agent.Durable
import PureBoot.Agent.Order
import PureBoot.Agent.Pass
import PureBoot.Agent.HandOff
import PureBoot.Agent.Proxy
import PureBoot.Agent.StateCache
import PureBoot.Agent.Lookup
import PureBoot.Agent.Routes
import PureBoot.Agent.CachePaths
import PureBoot.Agent.ContentCache
import PureBoot.Agent.CacheMap
import PureBoot.Agent.CacheLocks
import PureBoot.Agent.Connectivity
import PureBoot.Agent.Hysteresis
import PureBoot.Agent.Conflicts
import PureBoot.Agent.PendingConflicts
import PureBoot.Tftp.Transfer
import PureBoot.Tftp.Delivery
import PureBoot.Tftp.Complete
import PureBoot.Tftp.Paths
import PureBoot.Tftp.PiBoot
import PureBoot.Tftp.Codec
import PureBoot.Dhcp.Packet
import PureBoot.Dhcp.Offer
import PureBoot.Web.Auth
import PureBoot.Web.Routes
import PureBoot.Web.Scripts
import PureBoot.Web.BootChain
import PureBoot.Web.GrubBoot
import PureBoot.Web.CloneBoot
import PureBoot.Web.DeployCallbacks
import PureBoot.Web.NodeCommands
import PureBoot.Web.Central
import PureBoot.Lifecycle.Staging
import PureBoot.Lifecycle.ResizePlan
import PureBoot.Workflows.Api
import PureBoot.Workflows.Boot
import PureBoot.Workflows.Callbacks
import PureBoot.Accounts.Admins
import PureBoot.Accounts.Login
import PureBoot.Accounts.LdapGroups
import PureBoot.Accounts.Lockout
import PureBoot.Accounts.Rotation
import PureBoot.Accounts.Roles
import PureBoot.Accounts.Permissions
import PureBoot.Accounts.Privileges
import PureBoot.Accounts.Deactivation
import PureBoot.Storage.FileApi
import PureBoot.Storage.Checksums
import PureBoot.Storage.Containment
import PureBoot.Storage.BulkDelete
import PureBoot.Storage.Luns
import PureBoot.Storage.LunAccess
import PureBoot.Storage.SyncJobs
import PureBoot.Storage.SyncBroadcast
import PureBoot.Storage.Throttler
import PureBoot.Storage.Bandwidth
import PureBoot.Storage.Throttled
import PureBoot.Sites.Agents
import PureBoot.Sites.Status
import PureBoot.Sites.Tokens
import PureBoot.Accounts.ApiKeys
import PureBoot.Accounts.Expiry
import PureBoot.Accounts.ServiceLogin
import PureBoot.Health.Service
import PureBoot.Health.Alerts
import PureBoot.Templates.Includes
import PureBoot.Templates.Seams
import PureBoot.Templates.Variables
import PureBoot.WorkflowService.Variables
import PureBoot.WorkflowService.Listing
import PureBoot.Approvals.RuleSelection
import PureBoot.Approvals.Eligibility
import PureBoot.Groups.Effective
import PureBoot.Lifecycle.BulkState
import PureBoot.Lifecycle.Reports
import PureBoot.Lifecycle.Timeouts
import PureBoot.Lifecycle.StoredTimes
import PureBoot.Lib.Hex
import PureBoot.Lib.IntText
import PureBoot.Lib.LdapFilter
import PureBoot.Lib.Ranked
import PureBoot.Lib.Growing
import PureBoot.Lib.TimeText
import PureBoot.Lib.Retention
import PureBoot.Lifecycle.MacAddress
import PureBoot.Lifecycle.StagingInfo
import PureBoot.Tftp.Serials
import PureBoot.Accounts.LdapLogin
import PureBoot.Disks.Report
import PureBoot.Disks.Operations
import PureBoot.Web.Activity
import PureBoot.Health.Score
import PureBoot.Templates.Versions
import PureBoot.Storage.Pruning
import PureBoot.Lib.Calendar
import PureBoot.Lib.IsoText
import PureBoot.Lib.Mirror
import PureBoot.Agent.StoredTimes
import PureBoot.Lib.Feed
import PureBoot.Lib.Pages
import PureBoot.Lib.Slots
import PureBoot.Web.GlobalWebSocket
import PureBoot.Web.Listings
import PureBoot.Storage.SyncRuns
import PureBoot.Storage.SyncStatus
import PureBoot.Lifecycle.Tags
import PureBoot.Lib.Base64
import PureBoot.Agent.BootService
import PureBoot.Web.Hypervisors
import PureBoot.Lib.TextForm
import PureBoot.Lifecycle.CloneCerts
import PureBoot.Lib.Commands
import PureBoot.Agent.OfflineBoot
