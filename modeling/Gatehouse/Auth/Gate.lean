import Gatehouse.Auth.Bearer
import Gatehouse.Auth.Error
import Gatehouse.Http.Message
import Gatehouse.Logging.Event
import Gatehouse.Token.Codec

/-!
# The gate before protected routes

A request passes with the claims of its token, or is refused: without a token because it has
none, and with one that the codec does not accept because of that (`Gate.check`). What was
wrong with the token is for the log alone (`Gate.event`).
-/

namespace Gatehouse

/-- The answer to a request that is refused. -/
def AuthError.response (e : AuthError) : Response :=
  .text e.status e.publicMessage

namespace Gate

/-- The claims of the token that a request comes with. -/
def check (codec : TokenCodec) (systemNow : Instant) (headers : Headers) :
    Except AuthError Claims :=
  match Bearer.extract headers with
  | none => .error .missingAuthorization
  | some token => (codec.verify token systemNow).mapError .invalidToken

/-! ## The log -/

/-- The part of the program that tells about the gate. -/
def target : String := "cloudkit_api::auth::middleware"

/-- How many characters of a token are logged. -/
def loggedChars : Nat := 8

/-- What is logged of a check. -/
def event (r : Request) : Except AuthError Claims → LogEvent
  | .ok claims =>
    ⟨.debug, target, "Request authorized",
      [LogEvent.field "login" claims.user.login, LogEvent.field "jti" claims.tokenId]⟩
  | .error (.invalidToken cause) =>
    let token := (Bearer.extract r.headers).getD []
    ⟨.error, target, "Token verification failed",
      [LogEvent.field "kind" cause.kind, LogEvent.field "error" cause.message,
        ("token_len", .int token.length),
        LogEvent.field "token_prefix" (String.ofList (token.take loggedChars))]⟩
  | .error _ =>
    ⟨.debug, target, "Authorization header missing",
      [LogEvent.field "method" r.method, LogEvent.field "path" r.path]⟩

end Gate

end Gatehouse
