import RustGameserver.Foundation.Channel
import RustGameserver.Foundation.Decimal
import RustGameserver.Foundation.FiniteMap
import RustGameserver.Foundation.FrameStream
import RustGameserver.Foundation.History
import RustGameserver.Foundation.Machine
import RustGameserver.Foundation.OneTimeStore
import RustGameserver.Foundation.RetentionWindow
import RustGameserver.Net.Acceptor
import RustGameserver.Net.Codec
import RustGameserver.Net.Outbox
import RustGameserver.Net.Registry
import RustGameserver.Net.RegistryRuns
import RustGameserver.Session.Task
import RustGameserver.Session.Steps
import RustGameserver.Session.Delivery
import RustGameserver.Session.Jobs
import RustGameserver.Session.Accounting
import RustGameserver.Session.Provenance
import RustGameserver.Session.Server
import RustGameserver.Session.Ownership
import RustGameserver.GameServer.Session
import RustGameserver.GameServer.Delivery
import RustGameserver.GameServer.Conservation
import RustGameserver.GameServer.Gate
import RustGameserver.LoginServer.Session
import RustGameserver.LoginServer.Authenticate
import RustGameserver.Servers.Kicks
import RustGameserver.Servers.Holders
import RustGameserver.Servers.Mappings
import RustGameserver.Servers.Exchange
import RustGameserver.Servers.Agreement
import RustGameserver.Net.AdmissionBound
import RustGameserver.Session.KeepAlive
import RustGameserver.Servers.Timeouts
import RustGameserver.Session.Reactions
import RustGameserver.GameServer.Accounts
import RustGameserver.GameServer.Logout
import RustGameserver.LoginServer.OneLogin
import RustGameserver.LoginServer.Requests
import RustGameserver.Session.Gather
import RustGameserver.Db.Password
import RustGameserver.GameServer.Scores
import RustGameserver.LoginServer.Schedule
import RustGameserver.Session.Substitution
import RustGameserver.LoginServer.EnoughTurns
import RustGameserver.Admin.Requests
import RustGameserver.Admin.Access
import RustGameserver.Session.Link
import RustGameserver.Session.Once
import RustGameserver.LoginServer.SingleRequest
import RustGameserver.GameServer.SingleRequest
import RustGameserver.DummyClient.Client
import RustGameserver.DummyClient.Discipline
import RustGameserver.DummyClient.Conversation
import RustGameserver.DummyClient.PhaseAgreement
import RustGameserver.Net.RegistryOrder
import RustGameserver.Net.EncodedFrames
import RustGameserver.GameServer.LogoutRetry
import RustGameserver.Foundation.Tiling
import RustGameserver.DummyClient.Seeder
import RustGameserver.Foundation.FixedWindow
import RustGameserver.LoginServer.AttemptLimit
import RustGameserver.Net.BanDuration
import RustGameserver.Net.GuardGrowth
import RustGameserver.Foundation.Headcount
import RustGameserver.DummyClient.Counters
import RustGameserver.Session.Backlog
import RustGameserver.GameServer.Outstanding
import RustGameserver.Session.Cancellation
import RustGameserver.Servers.Endings
import RustGameserver.Servers.Serve
import RustGameserver.Servers.Return
import RustGameserver.Foundation.FairSemaphore
import RustGameserver.LoginServer.HashLimiter
import RustGameserver.Admin.Handlers
import RustGameserver.Admin.Operations
import RustGameserver.Admin.Answers
import RustGameserver.Foundation.Subscription
import RustGameserver.Db.Broadcast
import RustGameserver.Admin.Notices
import RustGameserver.GameServer.Positions
import RustGameserver.DummyClient.Positions
import RustGameserver.Foundation.FramedPipe
import RustGameserver.Servers.Wire
import RustGameserver.DummyClient.Bytes
import RustGameserver.LoginServer.Verdict
import RustGameserver.Foundation.KeyedTable
import RustGameserver.Foundation.Base64
import RustGameserver.DummyClient.Accounts
import RustGameserver.DummyClient.SeededLogins
import RustGameserver.DummyClient.Steering
