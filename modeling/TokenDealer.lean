import TokenDealer.Table
import TokenDealer.JsonValue
import TokenDealer.Utf8
import TokenDealer.Incremental
import TokenDealer.Reader
import TokenDealer.Delimited
import TokenDealer.Str
import TokenDealer.Base64
import TokenDealer.Keystore
import TokenDealer.Streak
import TokenDealer.AppError
import TokenDealer.Canonical
import TokenDealer.Inbound
import TokenDealer.Health
import TokenDealer.CircuitBreaker
import TokenDealer.Config
import TokenDealer.Manifest
import TokenDealer.Oauth
import TokenDealer.Registry
import TokenDealer.Fallback
import TokenDealer.FallbackRun
import TokenDealer.FallbackReach
import TokenDealer.FallbackStop
import TokenDealer.FailureCount
import TokenDealer.Pipeline
import TokenDealer.ModelFidelity
import TokenDealer.Credentials
import TokenDealer.Toml
import TokenDealer.ConfigService
import TokenDealer.AuthMiddleware
import TokenDealer.Migration
import TokenDealer.MigrationLogin
import TokenDealer.Kiro
import TokenDealer.KiroFrames
import TokenDealer.KiroHeaders
import TokenDealer.Sse
import TokenDealer.OpenAi
import TokenDealer.StreamAdapters
import TokenDealer.RequestTranslation
import TokenDealer.Outbound
import TokenDealer.Allowance
import TokenDealer.RateLimit
import TokenDealer.F64
import TokenDealer.Highest
import TokenDealer.TomlCodec
import TokenDealer.ConfigToml
import TokenDealer.Scorer
import TokenDealer.ChatRoute
import TokenDealer.Passthrough
import TokenDealer.ModelReferences
import TokenDealer.TierNames
import TokenDealer.SocketAddr
import TokenDealer.Validate
import TokenDealer.ValidConfig
import TokenDealer.WriteBehind
import TokenDealer.ConfigUpdate
import TokenDealer.Admin
import TokenDealer.AdminLoadable
import TokenDealer.MigrationFrame
import TokenDealer.ConfigLoad
import TokenDealer.RegistryAgreement
import TokenDealer.SqlTable
import TokenDealer.History
import TokenDealer.Calendar
import TokenDealer.Keyed
import TokenDealer.TierHeader
import TokenDealer.Specificity
import TokenDealer.ContentShape
import TokenDealer.UserTables
import TokenDealer.CredentialHistory
import TokenDealer.CredentialSoundness
import TokenDealer.SessionExpiry
import TokenDealer.AuthGate
import TokenDealer.RateLimiter
import TokenDealer.RejectionCost
import TokenDealer.LimitLayer
import TokenDealer.KeyIsolation
import TokenDealer.BucketSharing
import TokenDealer.RequestCount
import TokenDealer.LimitReload
import TokenDealer.StrEdit
import TokenDealer.ManifestOauth
import TokenDealer.OauthEncoding
import TokenDealer.OauthFlows
import TokenDealer.AdminApi
import TokenDealer.FlowFrame
import TokenDealer.EditFrame
import TokenDealer.AdminFrame
import TokenDealer.Slice
import TokenDealer.KiroSlices
import TokenDealer.KiroAdapter
import TokenDealer.InBandErrors
import TokenDealer.EventStream
import TokenDealer.SseRendering
import TokenDealer.Double
import TokenDealer.Pricing
import TokenDealer.PriceSync
import TokenDealer.Discovery
import TokenDealer.Rounding
import TokenDealer.Accounts
import TokenDealer.AuditLog
import TokenDealer.Budget
import TokenDealer.ChatDispatch
import TokenDealer.CostProjection
import TokenDealer.Machine
import TokenDealer.ChatRun
import TokenDealer.SpendAccounting
import TokenDealer.DailyCap
import TokenDealer.SpendSign
import TokenDealer.Outbox
import TokenDealer.LogCompleteness
import TokenDealer.ChunkRoundTrip
import TokenDealer.ClientStream
import TokenDealer.Completion
import TokenDealer.CompatAgreement
import TokenDealer.SseEvents
import TokenDealer.StreamedUsage
import TokenDealer.ToolCallFragments
import TokenDealer.AnthropicBody
import TokenDealer.ToolCallDelivery
import TokenDealer.StreamReasons
import TokenDealer.TerminalChunk
import TokenDealer.AnthropicStream
import TokenDealer.ReasonNames
import TokenDealer.RequestBodies
import TokenDealer.SentTexts
import TokenDealer.TextProvenance
import TokenDealer.AnsweringCall
import TokenDealer.RoutingHeaders
import TokenDealer.Routable
import TokenDealer.UsableLimits
import TokenDealer.UnknownFields
import TokenDealer.WarningExactness
import TokenDealer.KeyCache
import TokenDealer.AdminSetup
import TokenDealer.PopupRuns
import TokenDealer.NewestToken
import TokenDealer.RedirectAgreement
import TokenDealer.DetectionRules
import TokenDealer.RoutingTotality
import TokenDealer.RequestBudget
import TokenDealer.TierKeys
import TokenDealer.DevicePolls
import TokenDealer.RetryAfter
import TokenDealer.StrPieces
import TokenDealer.RedirectRewriting
import TokenDealer.KeyLiterals
import TokenDealer.KiroBody
import TokenDealer.InlineImages
import TokenDealer.TokenCounts
import TokenDealer.LoginCallback
import TokenDealer.LoginCli
import TokenDealer.AuthorizeUrls
import TokenDealer.StoredRefresh
import TokenDealer.CaseMapping
import TokenDealer.EmailLookup
import TokenDealer.Base64Url
import TokenDealer.PkceCodes
import TokenDealer.PercentEncoding
import TokenDealer.MasterKeys
import TokenDealer.LoginRedirect
import TokenDealer.OrphanedFlows
import TokenDealer.Grouping
import TokenDealer.TierAssignment
import TokenDealer.PasswordRotation
import TokenDealer.LogRetention
import TokenDealer.Autocommit
import TokenDealer.StatementSequences
import TokenDealer.UsageTotals
import TokenDealer.Rfc3339
import TokenDealer.StoredTimes
import TokenDealer.RouteTable
import TokenDealer.Router
import TokenDealer.OrderBy
import TokenDealer.LogQueries
import TokenDealer.Markup
import TokenDealer.Pages
import TokenDealer.ProxyChain
import TokenDealer.KeyEndpoints
import TokenDealer.Lockout
import TokenDealer.ModelCatalogue
import TokenDealer.StreamAgreement
