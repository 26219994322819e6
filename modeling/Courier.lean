import Courier.Address
import Courier.Address.Characters
import Courier.Calendar.Date
import Courier.Calendar.FreeForm
import Courier.Calendar.MailDate
import Courier.Calendar.Pattern
import Courier.Calendar.Rfc3339
import Courier.Chat.Stream
import Courier.Configuration.Failure
import Courier.Configuration.Loading
import Courier.Configuration.Reading
import Courier.Configuration.Toml.Document
import Courier.Configuration.Toml.Item
import Courier.Configuration.Toml.Numeral
import Courier.Configuration.Toml.Scan
import Courier.Configuration.Toml.Text
import Courier.Configuration.Tree
import Courier.Configuration.Variables
import Courier.Crypto.ChaCha
import Courier.Crypto.Curve
import Courier.Crypto.Octets
import Courier.Crypto.Sha256
import Courier.Encryption
import Courier.Encryption.Age
import Courier.Encryption.Disclosure
import Courier.Extraction
import Courier.Http
import Courier.Ingress
import Courier.Ingress.Refusal
import Courier.Json.Decoder
import Courier.Json.Failure
import Courier.Json.Layout
import Courier.Json.Render
import Courier.Json.Scan
import Courier.Json.Source
import Courier.Json.Value
import Courier.Main
import Courier.Message
import Courier.Message.Validation
import Courier.Metrics
import Courier.Number.Binary64
import Courier.Number.Decimal
import Courier.Number.Numeral
import Courier.Number.Power
import Courier.Number.Shortest
import Courier.Postgres.Pool
import Courier.Postgres.Row
import Courier.Postgres.Statement
import Courier.Procedure
import Courier.Proofs.BestEffort
import Courier.Proofs.Calendar.Reading
import Courier.Proofs.Calendar.Rfc3339
import Courier.Proofs.Encryption
import Courier.Proofs.Extraction
import Courier.Proofs.Ingress
import Courier.Proofs.Json.RoundTrip
import Courier.Proofs.Json.Yields
import Courier.Proofs.Message
import Courier.Proofs.Number
import Courier.Proofs.Outcome
import Courier.Proofs.Procedure
import Courier.Proofs.Procedure.Alike
import Courier.Proofs.Queue.Budget
import Courier.Proofs.Queue.Conservation
import Courier.Proofs.Queue.Consuming
import Courier.Proofs.Queue.Memory
import Courier.Proofs.Queue.Provenance
import Courier.Proofs.Queue.Shift
import Courier.Proofs.Queue.Shift.Progress
import Courier.Proofs.Queue.Shift.Steps
import Courier.Proofs.Queue.Story
import Courier.Proofs.Queue.Task
import Courier.Proofs.Redis.Clients
import Courier.Proofs.Redis.Custody
import Courier.Proofs.Redis.Exclusive
import Courier.Proofs.Redis.Holding
import Courier.Proofs.Redis.Loss
import Courier.Proofs.Redis.Provenance
import Courier.Proofs.Redis.Retention
import Courier.Proofs.Redis.Stock
import Courier.Proofs.Redis.Turns
import Courier.Proofs.Secrecy
import Courier.Proofs.Service
import Courier.Proofs.Shutdown
import Courier.Proofs.Shutdown.Attempts
import Courier.Proofs.Target.Lifecycle
import Courier.Proofs.Target.Registry
import Courier.Proofs.Tenant.Resolver
import Courier.Proofs.Transit
import Courier.Proofs.Uuid
import Courier.Proofs.Worker.Course
import Courier.Proofs.Worker.Ends
import Courier.Proofs.Worker.Verdict
import Courier.Queue
import Courier.Queue.Backend
import Courier.Queue.Backoff
import Courier.Queue.Consumer
import Courier.Queue.Memory
import Courier.Queue.Processing
import Courier.Queue.Redis
import Courier.Queue.Task
import Courier.Redis.Address
import Courier.Redis.Reply
import Courier.Redis.Store
import Courier.Rehearsal.ChatServer
import Courier.Rehearsal.Closing
import Courier.Rehearsal.Consuming
import Courier.Rehearsal.Database
import Courier.Rehearsal.Journal
import Courier.Rehearsal.RedisServer
import Courier.Rehearsal.Report
import Courier.Rehearsal.Running
import Courier.Rehearsal.Scene
import Courier.Rehearsal.Script
import Courier.Rehearsal.Serving
import Courier.Rehearsal.Threads
import Courier.Relay
import Courier.Repository
import Courier.Repository.Backend
import Courier.Repository.Postgres
import Courier.Repository.Static
import Courier.Service
import Courier.Settings
import Courier.Shutdown
import Courier.Target.Apprise
import Courier.Target.Backend
import Courier.Target.Building
import Courier.Target.Registry
import Courier.Target.Xmpp
import Courier.Template
import Courier.Template.FieldPath
import Courier.Tenant
import Courier.Tenant.Resolver
import Courier.Text.Ascii
import Courier.Text.Base64
import Courier.Text.Bech32
import Courier.Text.Blank
import Courier.Text.Duration
import Courier.Text.IpAddress
import Courier.Text.Percent
import Courier.Text.Quoted
import Courier.Text.ServerUrl
import Courier.Text.Shape
import Courier.Text.Shown
import Courier.Text.Utf8
import Courier.Text.WebUrl
import Courier.Uuid
import Courier.Worker
import Courier.Proofs.Queue.Crew
import Courier.Proofs.Queue.Tally
import Courier.Proofs.Queue.Accounts
import Courier.Proofs.Shutdown.Order
import Courier.Proofs.Metrics
import Courier.Proofs.Worker.Record
import Courier.Proofs.Balance.Requests
import Courier.Proofs.Balance.Tasks
import Courier.Proofs.Balance
import Courier.Proofs.Tenant.Roster
import Courier.Proofs.Ingress.Statuses
import Courier.Proofs.Service.Statuses
import Courier.Proofs.Target.Xmpp.Calls
import Courier.Proofs.Target.Xmpp
import Courier.Proofs.Target.Xmpp.Sessions
import Courier.Proofs.Target.Start
import Courier.Proofs.Template.FieldPath
import Courier.Proofs.Template.Grammar
import Courier.Proofs.Extraction.Evidence
import Courier.Proofs.Queue.Pacing
import Courier.Proofs.Redis.Score
import Courier.Proofs.Redis.Solo
import Courier.Proofs.Redis.Dequeue
import Courier.Proofs.Redis.Settlement
import Courier.Proofs.Redis.Recovery
import Courier.Proofs.Queue.Line
import Courier.Proofs.Keyed
import Courier.Proofs.Json.Canonical
import Courier.Proofs.Target.Arguments
import Courier.Proofs.Target.Independence
import Courier.Proofs.Target.Built
import Courier.Proofs.Tenant.Belonging
import Courier.Proofs.Configuration.Reading
import Courier.Proofs.Service.Masking
import Courier.Proofs.Postgres.Address
import Courier.Proofs.Repository.Postgres
import Courier.Proofs.Number.Rounding
import Courier.Proofs.Queue.Backoff
import Courier.Proofs.Redis.Due
import Courier.Proofs.Text.Blank
import Courier.Proofs.Template.Segments
import Courier.Proofs.Template.Quoted
import Courier.Proofs.Number.Exact
import Courier.Proofs.Queue.Doubling
import Courier.Proofs.Text.Utf8
import Courier.Proofs.Service.Identifier
