import Lotur.Gateway.ResponseHead
import Lotur.Gateway.CarrierCleanup
import Lotur.Gateway.ActivationGate
import Lotur.Gateway.StreamNumbering
import Lotur.Client.StreamRetirement
import Lotur.Client.Endpoint
import Lotur.Client.ReceiveLoop
import Lotur.Gateway.Endpoint
import Lotur.Tunnel.System
import Lotur.Tunnel.StreamLimit
import Lotur.Tunnel.FrameCaps
import Lotur.Library.Base64Url
import Lotur.Library.CreditProtocol
import Lotur.Relay.Accounts
import Lotur.Client.Credit
import Lotur.Gateway.Credit
import Lotur.Tunnel.ReceiveCredit
import Lotur.Operations.KillSwitch
import Lotur.Protocol.SessionRuns
import Lotur.Library.WhatwgUrl
import Lotur.Auth.Model
import Lotur.Auth.Repository
import Lotur.Auth.AuthService
import Lotur.Auth.Tables
import Lotur.Auth.Currency
import Lotur.Auth.Administrators
import Lotur.Auth.LoginReturn
import Lotur.Library.Interleaving
import Lotur.Gateway.SessionEffects
import Lotur.Gateway.Admission
import Lotur.Gateway.Streams
import Lotur.Gateway.Server
import Lotur.Gateway.StreamAccounting
import Lotur.Gateway.ServerRuns
import Lotur.Gateway.ServerSafety
import Lotur.Protocol.SessionResume
import Lotur.Library.Base64Url
import Lotur.Library.BigEndian
import Lotur.Protocol.Envelope
import Lotur.Operations.AdmissionHistory
import Lotur.Proxy.ProjectionPolicy
import Lotur.Protocol.JsText
import Lotur.Protocol.OpenHttp
import Lotur.Protocol.MetadataCodec
import Lotur.Protocol.SessionConfig
import Lotur.Protocol.SessionAgreement
import Lotur.Gateway.CookieHeader
import Lotur.Gateway.OpenRequest
import Lotur.Gateway.PlantedCookies
import Lotur.Client.LocalHeaders
import Lotur.Library.OptimisticVersions
import Lotur.Review.Model
import Lotur.Review.Repository
import Lotur.Review.Operations
import Lotur.Review.Effects
import Lotur.Review.Journal
import Lotur.Review.Workflow
import Lotur.Review.Content
import Lotur.Library.CursorFeed
import Lotur.Review.EventFeed
import Lotur.Review.EventFeedRuns
import Lotur.Relay.Waiters
import Lotur.Library.InsertionOrder
import Lotur.Library.MapSums
import Lotur.Relay.FlowPromises
import Lotur.Relay.FlowConservation
import Lotur.Relay.FlowSimulation
import Lotur.Relay.FlowHistory
import Lotur.Relay.DataSend
import Lotur.Tunnel.Transfer
import Lotur.Relay.ReceiveSpec
import Lotur.Relay.ReceiveAgreement
import Lotur.Relay.RetiredBudget
import Lotur.Gateway.ReceiveQueue
import Lotur.Gateway.QueueProgress
import Lotur.Library.InterleavingTrace
import Lotur.Auth.ArtifactTables
import Lotur.Auth.ArtifactStages
import Lotur.Auth.ArtifactCounts
import Lotur.Auth.OneTime
import Lotur.Auth.ThrottleTable
import Lotur.Auth.ThrottleCounts
import Lotur.Auth.LoginLocks
import Lotur.Library.Transactions
import Lotur.Auth.InMemoryAccounts
import Lotur.Auth.PostgresAccounts
import Lotur.Auth.AuditedAccounts
import Lotur.Review.Projection
import Lotur.Review.RegionAnchor
import Lotur.Review.RegionStorage
import Lotur.Review.RegionSelection
import Lotur.Review.RefreshCoordinator
import Lotur.Review.BindingDisposal
import Lotur.Review.Deliveries
import Lotur.Review.NotificationKeys
import Lotur.Review.NotificationHistory
import Lotur.Review.NotificationLaw
import Lotur.Review.NotificationInvariant
import Lotur.Review.NotificationCommands
import Lotur.Review.NotificationRuns
import Lotur.Library.KeysetPages
import Lotur.Library.CivilDate
import Lotur.Library.Utf8
import Lotur.Review.PageCursor
import Lotur.Review.Pagination
import Lotur.Review.PageReads
import Lotur.Review.PaginationRuns
import Lotur.Library.FixedWindows
import Lotur.Gateway.RateLimiter
import Lotur.Library.WhileLoop
import Lotur.Library.OlderPages
import Lotur.Review.PageState
import Lotur.Review.JsonText
import Lotur.Review.JsonRoundTrip
import Lotur.Review.IntegerFormat
import Lotur.Review.Drafts
import Lotur.Review.DraftTexts
import Lotur.Review.DraftSteps
import Lotur.Review.DraftRuns
import Lotur.Review.DraftSurvival
import Lotur.Review.DraftOrigins
import Lotur.Review.DraftLaws
import Lotur.Library.WorkerPool
import Lotur.Auth.AuthorizationBatches
import Lotur.Library.Sweep
import Lotur.Library.Numerals
import Lotur.Gateway.Transports
import Lotur.Gateway.TransportEpochs
import Lotur.Gateway.EpochIsolation
import Lotur.Gateway.AuthorizationQueries
import Lotur.Gateway.Revalidation
import Lotur.Gateway.ClientAddress
import Lotur.Gateway.AddressForms
import Lotur.Gateway.TrustedProxies
import Lotur.Client.ResilientClient
import Lotur.Client.Supervision
import Lotur.Client.ReconnectReports
import Lotur.Library.Handlers
import Lotur.Gateway.WebAuth
import Lotur.Gateway.WebAuthSafety
import Lotur.Gateway.ContentAccess
