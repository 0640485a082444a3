import Gatehouse.Http.Form
import Gatehouse.Server.Handler

/-!
# Logging in

A client sends the login and the digest of the password as a form and gets a token. Whatever
goes wrong, it is told the same (`LoginFailure.cause`, `AuthError.response`); the log tells
the failures apart.
-/

namespace Gatehouse

/-- Why nobody is logged in. -/
inductive LoginFailure
  | form (e : FormError)
  | blank
  | rejected (login : String)
  | unknown (e : AuthError)
  | issuance (login : String) (e : TokenError)
deriving DecidableEq

namespace LoginFailure

/-- What the client is refused for. -/
def cause : LoginFailure → AuthError
  | .unknown e => e
  | .form _ | .blank | .rejected _ | .issuance .. => .invalidCredentials

/-- What is logged. -/
def events : LoginFailure → List LogEvent
  | .form e =>
    [⟨.debug, "cloudkit_api::routes::login", "Login form rejected",
      [LogEvent.field "error" e.message]⟩]
  | .rejected login =>
    [⟨.warn, "cloudkit_api::auth::authenticator", "Authentication failed",
      [LogEvent.field "login" login]⟩]
  | .issuance login e =>
    [⟨.error, "cloudkit_api::routes::login", "Token issuance failed",
      [LogEvent.field "error" e.message, LogEvent.field "login" login]⟩]
  | .blank | .unknown _ => []

end LoginFailure

namespace Login

/-- The claims for the account that a form is right for. The login is taken as it is, but a
blank one is nobody's. -/
def grant (s : Service) (m : Moment) (form : Credentials) : Except LoginFailure Claims :=
  if (Text.Blank.trim form.login.toList).isEmpty then .error .blank
  else if !s.administrator.accepts form.login form.hashed then .error (.rejected form.login)
  else
    match s.administrator.user form.login with
    | .error e => .error (.unknown e)
    | .ok user => (s.codec.claims user m.systemNow m.tokenId).mapError (.issuance form.login)

/-- The claims for what a request carries. -/
def attempt (c : Call) : Except LoginFailure Claims :=
  match Credentials.ofRequest c.request with
  | .error e => .error (.form e)
  | .ok form => grant c.service c.moment form

/-- The answer with a token. -/
def success (token : List Char) : Response :=
  .json .ok (.object [("token", .string (String.ofList token))])

/-- What is logged when a token has been issued. -/
def granted (claims : Claims) : List LogEvent :=
  [⟨.debug, "cloudkit_api::auth::jwt", "Token issued",
      [LogEvent.field "jti" claims.tokenId, LogEvent.field "login" claims.user.login,
        LogEvent.field "expires_at" claims.expiresAt.display]⟩,
    ⟨.info, "cloudkit_api::routes::login", "Login successful",
      [LogEvent.field "login" claims.user.login, ("user_id", .int claims.user.id)]⟩]

end Login

/-- The handler that logs in. -/
def Handler.login : Handler := fun c =>
  Reply.after [c.traced "GetLoginPostHandler"] <|
    match Login.attempt c with
    | .ok claims =>
      { response := Login.success (c.service.codec.sign claims), events := Login.granted claims }
    | .error e => { response := e.cause.response, events := e.events }

end Gatehouse
