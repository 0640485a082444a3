import Gatehouse.Main
import Gatehouse.Proofs.Bytes.Base64Url
import Gatehouse.Proofs.Bytes.Utf8
import Gatehouse.Proofs.Config.Environment
import Gatehouse.Proofs.Config.Rules
import Gatehouse.Proofs.Config.Secret
import Gatehouse.Proofs.Digest.Key
import Gatehouse.Proofs.Http.Form
import Gatehouse.Proofs.Json.Lexeme
import Gatehouse.Proofs.Json.Record
import Gatehouse.Proofs.Json.Written
import Gatehouse.Proofs.Metrics.Body
import Gatehouse.Proofs.Metrics.Exposition
import Gatehouse.Proofs.Metrics.Counters
import Gatehouse.Proofs.Metrics.Registry
import Gatehouse.Proofs.Number.Numeral
import Gatehouse.Proofs.Route.Dispatch
import Gatehouse.Proofs.Route.Literal
import Gatehouse.Proofs.Route.Mounting
import Gatehouse.Proofs.Server.Account
import Gatehouse.Proofs.Server.Conservation
import Gatehouse.Proofs.Server.Gate
import Gatehouse.Proofs.Server.History
import Gatehouse.Proofs.Server.Independence
import Gatehouse.Proofs.Server.Login
import Gatehouse.Proofs.Server.Measures
import Gatehouse.Proofs.Server.Mounting
import Gatehouse.Proofs.Server.Shutdown
import Gatehouse.Proofs.Server.Traffic
import Gatehouse.Proofs.Token.Acceptance
import Gatehouse.Proofs.Token.Authentic
import Gatehouse.Proofs.Token.Claims
import Gatehouse.Proofs.Token.Expiry
import Gatehouse.Proofs.Token.Lifetime
import Gatehouse.Proofs.Token.Secret
import Gatehouse.Proofs.Token.Segments
import Gatehouse.Proofs.Token.Signed
import Gatehouse.Proofs.Token.Timeline
import Gatehouse.Proofs.Token.Validity
import Gatehouse.Proofs.Server.Readiness
import Gatehouse.Proofs.Server.Identity
import Gatehouse.Proofs.Server.Series
import Gatehouse.Proofs.Program.Startup
import Gatehouse.Proofs.Auth.Bearer
import Gatehouse.Proofs.Token.Wire
import Gatehouse.Proofs.Token.Issue
import Gatehouse.Proofs.Config.Redaction
import Gatehouse.Proofs.Server.Diagnostics
import Gatehouse.Proofs.Config.Password
import Gatehouse.Proofs.Config.Account
import Gatehouse.Proofs.Server.Page
import Gatehouse.Proofs.Server.Listing
import Gatehouse.Proofs.Route.Slots
import Gatehouse.Proofs.Server.Methods
