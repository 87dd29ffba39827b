import FireflyToolkit.Shared.OrderedDict
import FireflyToolkit.Shared.Transition
import FireflyToolkit.Shared.PyBuiltins
import FireflyToolkit.Domain.Values
import FireflyToolkit.Domain.Decimals
import FireflyToolkit.Domain.Matcher
import FireflyToolkit.Domain.OneToOne
import FireflyToolkit.Firefly.Services
import FireflyToolkit.Firefly.Responses
import FireflyToolkit.Firefly.Attempts
import FireflyToolkit.Allegro.StateStore
import FireflyToolkit.Allegro.Application
import FireflyToolkit.Allegro.Responses
import FireflyToolkit.Allegro.ApplyJob
import FireflyToolkit.Allegro.CachedPages
import FireflyToolkit.Allegro.AutoApply
import FireflyToolkit.Blik.StateStore
import FireflyToolkit.Blik.Application
import FireflyToolkit.Jobs.OneToOne
import FireflyToolkit.Jobs.Notes
import FireflyToolkit.Jobs.Tags
import FireflyToolkit.Snapshot.Service
import FireflyToolkit.Snapshot.SingleFlight
import FireflyToolkit.Snapshot.Cancellation
import FireflyToolkit.Metrics.Manager
import FireflyToolkit.Metrics.Wedging
import FireflyToolkit.Vault.SecretCrypto
import FireflyToolkit.Vault.SessionStore
import FireflyToolkit.Vault.Services
import FireflyToolkit.Vault.Ledger
import FireflyToolkit.Vault.Disclosure
import FireflyToolkit.Allegro.Router
import FireflyToolkit.Allegro.AccessControl
import FireflyToolkit.Domain.Calendar
import FireflyToolkit.Domain.Identifiers
import FireflyToolkit.Firefly.Window
import FireflyToolkit.Firefly.Screening
import FireflyToolkit.Firefly.Rounds
import FireflyToolkit.Metrics.Snapshots
import FireflyToolkit.Metrics.Views
import FireflyToolkit.Allegro.Idempotence
import FireflyToolkit.Blik.Idempotence
import FireflyToolkit.Shared.Sessions
import FireflyToolkit.Users.Store
import FireflyToolkit.Users.Router
import FireflyToolkit.Users.Auditing
import FireflyToolkit.Users.SingleUse
import FireflyToolkit.Users.Bootstrap
import FireflyToolkit.Users.InviteHistory
import FireflyToolkit.Users.PasswordSet
import FireflyToolkit.Users.Tokens
import FireflyToolkit.Users.Admission
import FireflyToolkit.Shared.AwaitLoop
import FireflyToolkit.Shared.Sorting
import FireflyToolkit.Firefly.Partition
import FireflyToolkit.Blik.Responses
import FireflyToolkit.Blik.MatchIds
import FireflyToolkit.Jobs.Previews
import FireflyToolkit.Jobs.Accounting
import FireflyToolkit.Metrics.PendingAllegro
import FireflyToolkit.Metrics.Freshness
import FireflyToolkit.Categorization.Documents
import FireflyToolkit.Categorization.Similarity
import FireflyToolkit.Categorization.Suggestions
import FireflyToolkit.Vault.SessionMap
import FireflyToolkit.Vault.Statements
import FireflyToolkit.Vault.Atomicity
import FireflyToolkit.Vault.UsageCount
import FireflyToolkit.Shared.Rounding
import FireflyToolkit.Shared.NoisyOr
import FireflyToolkit.Shared.PyText
import FireflyToolkit.Shared.Doubles
import FireflyToolkit.Shared.Csv
import FireflyToolkit.Shared.Grouping
import FireflyToolkit.Shared.Base64
import FireflyToolkit.Shared.Utf8
import FireflyToolkit.Shared.PosixPaths
import FireflyToolkit.Domain.Numerals
import FireflyToolkit.Categorization.Relevance
import FireflyToolkit.Categorization.ExactScores
import FireflyToolkit.Categorization.AddedDocument
import FireflyToolkit.Citi.Parser
import FireflyToolkit.Citi.Blocks
import FireflyToolkit.Citi.Rendering
import FireflyToolkit.Citi.Runs
import FireflyToolkit.Citi.Resync
import FireflyToolkit.Citi.Export
import FireflyToolkit.Citi.Import
import FireflyToolkit.Allegro.Orders
import FireflyToolkit.Blik.Files
import FireflyToolkit.Shared.Prefixes
import FireflyToolkit.Shared.Runs
import FireflyToolkit.Shared.Json
import FireflyToolkit.Blik.Uploads
import FireflyToolkit.Allegro.Titles
import FireflyToolkit.Categorization.NormalForms
import FireflyToolkit.Settings.AllowedOrigins
import FireflyToolkit.Blik.BankCsv
import FireflyToolkit.Blik.Statements
import FireflyToolkit.Blik.StatementUploads
import FireflyToolkit.Shared.CodePages
import FireflyToolkit.Domain.UuidTexts
import FireflyToolkit.Citi.Encodings
import FireflyToolkit.Citi.Service
import FireflyToolkit.Citi.Uploads
import FireflyToolkit.Allegro.Client
import FireflyToolkit.Allegro.Outgoing
import FireflyToolkit.Allegro.JobRecords
import FireflyToolkit.Allegro.Writes
import FireflyToolkit.Users.AuditTrail
import FireflyToolkit.Shared.Responders
import FireflyToolkit.Shared.RelatedDicts
import FireflyToolkit.Vault.Router
import FireflyToolkit.Vault.PlainStore
import FireflyToolkit.Vault.Refinement
import FireflyToolkit.Vault.Secrecy
import FireflyToolkit.Firefly.Worklist
import FireflyToolkit.Shared.SequenceMatcher
import FireflyToolkit.Categorization.TextScores
import FireflyToolkit.Categorization.Repeats
