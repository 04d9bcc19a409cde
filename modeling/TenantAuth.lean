import TenantAuth.Api.Answer
import TenantAuth.Api.Call
import TenantAuth.Api.Counted
import TenantAuth.Api.Fault
import TenantAuth.Api.Form
import TenantAuth.Api.Gate
import TenantAuth.Api.Router
import TenantAuth.Api.Service
import TenantAuth.Api.World
import TenantAuth.Authentication
import TenantAuth.Authorization
import TenantAuth.Backend
import TenantAuth.Config
import TenantAuth.Crypto.Der
import TenantAuth.Crypto.Octets
import TenantAuth.Crypto.Rsa
import TenantAuth.Crypto.Sha256
import TenantAuth.Directory.Store
import TenantAuth.Error
import TenantAuth.Field
import TenantAuth.Http.MediaType
import TenantAuth.Http.Message
import TenantAuth.Http.Query
import TenantAuth.Identifier
import TenantAuth.Json.Member
import TenantAuth.Json.Printer
import TenantAuth.Json.Reach
import TenantAuth.Json.Reader
import TenantAuth.Json.Token
import TenantAuth.Json.Value
import TenantAuth.Keyed
import TenantAuth.Log
import TenantAuth.LoginState
import TenantAuth.Net.Domain
import TenantAuth.Net.SocketAddress
import TenantAuth.Net.Url
import TenantAuth.Permission
import TenantAuth.Postgres.Address
import TenantAuth.Postgres.Backend
import TenantAuth.Postgres.Cell
import TenantAuth.Postgres.Decode
import TenantAuth.Postgres.Failure
import TenantAuth.Postgres.Link
import TenantAuth.Postgres.Script
import TenantAuth.Postgres.Sessions
import TenantAuth.Postgres.Statement
import TenantAuth.Postgres.Users
import TenantAuth.Principal
import TenantAuth.Program
import TenantAuth.Session
import TenantAuth.Session.Refresh
import TenantAuth.Session.Store
import TenantAuth.Startup
import TenantAuth.Text.Base64
import TenantAuth.Text.Blank
import TenantAuth.Text.Digit
import TenantAuth.Text.Percent
import TenantAuth.Text.Shown
import TenantAuth.Text.Split
import TenantAuth.Text.TextSet
import TenantAuth.Text.Utf8
import TenantAuth.Time.Calendar
import TenantAuth.Time.Instant
import TenantAuth.Time.Rfc3339
import TenantAuth.Time.Timestamp
import TenantAuth.Token.Claims
import TenantAuth.Token.Header
import TenantAuth.Token.KeySet
import TenantAuth.Token.Signer
import TenantAuth.Proofs.Session.History
import TenantAuth.Proofs.Program
import TenantAuth.Proofs.Session.Interleaving
import TenantAuth.Proofs.Crypto.Rsa
import TenantAuth.Proofs.Identifier
import TenantAuth.Proofs.Json.Number
import TenantAuth.Proofs.Json.Record
import TenantAuth.Proofs.Text.Base64
import TenantAuth.Proofs.Text.Utf8
import TenantAuth.Proofs.Token.Claims
import TenantAuth.Proofs.Token.Lifetime
import TenantAuth.Proofs.Token.Verification
import TenantAuth.Proofs.LoginState
import TenantAuth.Proofs.Postgres.Conversation
import TenantAuth.Proofs.Postgres.Transaction
import TenantAuth.Proofs.Postgres.Atomicity
import TenantAuth.Proofs.Postgres.Writes
import TenantAuth.Proofs.Postgres.Tokens
import TenantAuth.Proofs.Postgres.Serving
import TenantAuth.Proofs.Postgres.Agreement
import TenantAuth.Proofs.Api.Gates
import TenantAuth.Proofs.Api.Bodies
import TenantAuth.Proofs.Api.Effects
import TenantAuth.Proofs.Authentication
import TenantAuth.Proofs.Api.Callback
import TenantAuth.Proofs.Api.Logins
import TenantAuth.Proofs.Api.Members
import TenantAuth.Proofs.Api.TokenRoles
import TenantAuth.Proofs.Session.Filing
import TenantAuth.Proofs.Directory.Growth
import TenantAuth.Proofs.Text.Order
import TenantAuth.Proofs.Postgres.Accounts
import TenantAuth.Proofs.Postgres.Enrolling
import TenantAuth.Proofs.Postgres.Directories
import TenantAuth.Proofs.Authorization
import TenantAuth.Proofs.Api.Entitlement
import TenantAuth.Proofs.Postgres.Joining
import TenantAuth.Proofs.Postgres.Concurrency
import TenantAuth.Proofs.Postgres.Quota
import TenantAuth.Proofs.Api.Drawing
import TenantAuth.Proofs.Api.Deeds
import TenantAuth.Proofs.Api.Granting
import TenantAuth.Proofs.Api.HandingOut
import TenantAuth.Proofs.Directory.Adding
import TenantAuth.Proofs.Postgres.Midway
import TenantAuth.Proofs.Postgres.Sweeping
import TenantAuth.Proofs.Postgres.LateRotation
import TenantAuth.Proofs.Session.Expiry
import TenantAuth.Proofs.Backend
import TenantAuth.Proofs.Session.Unserved
import TenantAuth.Proofs.Log
import TenantAuth.Proofs.Session.CleanUp
import TenantAuth.Proofs.Api.Unsigned
import TenantAuth.Proofs.SideBySide
import TenantAuth.Proofs.Postgres.Wording
import TenantAuth.Proofs.Api.Wording
import TenantAuth.Proofs.Text.Split
import TenantAuth.Proofs.Field
import TenantAuth.Proofs.Log.Pieces
import TenantAuth.Proofs.Log.Scan
import TenantAuth.Proofs.Config
import TenantAuth.Proofs.LoginState.Expiry
import TenantAuth.Proofs.Log.Retelling
import TenantAuth.Proofs.Api.InStep
import TenantAuth.Proofs.Api.Discretion
import TenantAuth.Proofs.Text.Trim
import TenantAuth.Proofs.Text.Numeral
import TenantAuth.Proofs.Config.Variables
import TenantAuth.Proofs.Api.FailClosed
import TenantAuth.Proofs.Api.Paths
import TenantAuth.Proofs.Api.OneOrganization
import TenantAuth.Proofs.Api.Forms
import TenantAuth.Proofs.Time.Rfc3339
import TenantAuth.Proofs.Json.Text
import TenantAuth.Proofs.Principal
import TenantAuth.Proofs.Token.WireForm
import TenantAuth.Proofs.Postgres.Rows
import TenantAuth.Proofs.Crypto.Der
import TenantAuth.Proofs.Token.KeySet
import TenantAuth.Proofs.Text.Hexadecimal
import TenantAuth.Proofs.Identifier.Spelling
import TenantAuth.Proofs.Identifier.Order
import TenantAuth.Proofs.Identifier.Correspondence
