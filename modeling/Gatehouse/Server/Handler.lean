import Gatehouse.Auth.Gate
import Gatehouse.Metrics.Observation
import Gatehouse.Page
import Gatehouse.Server.Service

/-!
# Handlers

A handler is a function from a call to a reply. A call is all that the answer may depend on:
the service, the request, who it comes from if the gate has found out, and the moment, which
is given from outside: the time, the ids that are drawn at random, and where the request
comes from. A reply is a response with what is measured and logged on the way, and the time
that the handler waits before it answers.
-/

namespace Gatehouse

/-- What is given from outside when a request comes in. -/
structure Moment where
  systemNow : Instant
  tokenId : String
  requestId : String
  remote : Option SocketAddress := none
  elapsed : Span := ⟨0⟩
deriving DecidableEq

/-- What a handler is called with. -/
structure Call where
  service : Service
  moment : Moment
  request : Request
  identity : Option Claims := none
  exposition : Option String := none

/-- What comes of a call. -/
structure Reply where
  response : Response
  delay : Span := ⟨0⟩
  measures : List Measure := []
  events : List LogEvent := []

/-- What answers the requests of a route. -/
abbrev Handler := Call → Reply

namespace Call

/-- The diagnostic text of where a request comes from. -/
def remoteDebug (c : Call) : String :=
  match c.moment.remote with
  | none => "None"
  | some a => "Some(" ++ a.text ++ ")"

/-- The event that a handler begins with. -/
def traced (c : Call) (handler : String) : LogEvent :=
  ⟨.debug, "cloudkit_api::routes", "TraceRequest",
    [LogEvent.field "handler" handler, LogEvent.field "method" c.request.method,
      LogEvent.field "path" c.request.path, LogEvent.field "remote" c.remoteDebug,
      LogEvent.field "request_id" c.moment.requestId]⟩

/-- The reply of a handler that tells its name to the log. -/
def answer (c : Call) (handler : String) (response : Response) : Reply :=
  { response, events := [c.traced handler] }

end Call

namespace Reply

/-- The reply to a request that is refused. -/
def refusal (e : AuthError) : Reply :=
  { response := e.response
    events := match e with
      | .missingIdentity =>
        [⟨.error, "cloudkit_api::auth::error",
          "Identity requested on a route without auth middleware", []⟩]
      | _ => [] }

/-- The reply with events that come before its own. -/
def after (events : List LogEvent) (r : Reply) : Reply :=
  { r with events := events ++ r.events }

end Reply

namespace Handler

/-! ## State of the service -/

/-- The time of day. -/
def time : Handler := fun c =>
  c.answer "GetTimeHandler"
    (.json .ok (.object [("time", .string c.moment.systemNow.rfc3339Seconds)]))

def version : Handler := fun c =>
  c.answer "GetVersionHandler" (.json .ok c.service.version.toJson)

/-- What has been measured, if there is a text of it. -/
def metrics : Handler := fun c =>
  c.answer "GetMetricsHandler" <|
    match c.exposition with
    | some body => { status := .ok, contentType := some .exposition, body }
    | none => .ofStatus .notFound

def health : Handler := fun c =>
  c.answer "GetHealthHandler" (.ofStatus .ok)

def readiness : Handler := fun c =>
  c.answer "GetReadinessHandler"
    (.ofStatus (if c.service.isReady then .ok else .unavailable))

/-! ## Pages -/

/-- A page that is always the same. -/
def page (p : Page) : Handler := fun c =>
  c.answer ("GetStaticPageHandler[" ++ p.title ++ "]") (.html .ok p.html)

/-- The page at the root, which is counted. -/
def rootPage (p : Page) : Handler := fun c =>
  { c.answer "GetRootPageHandler" (.html .ok p.html) with measures := [.rootGet] }

/-- What a request that no route matches is told. -/
def notFoundBody : Json.Value :=
  .object [("status", .int Status.notFound.code), ("error", .string "404 page not found"),
    ("message", .string "the requested page does not exist on this server")]

/-- The answer to requests that no route matches, which are counted. -/
def notFound : Handler := fun c =>
  { c.answer "GetHandlerNotFound" (.json .notFound notFoundBody) with measures := [.notFound] }

/-! ## Identity -/

/-- The reply for the one whom the gate has found. -/
def withIdentity (reply : Claims → Handler) : Handler := fun c =>
  match c.identity with
  | some claims => reply claims c
  | none => .refusal .missingIdentity

/-- The claims of an administrator. -/
def showClaims : Handler := withIdentity fun claims c =>
  match adminOnly claims with
  | .ok () => c.answer "GetProtectedHandler" (.json .ok claims.toJson)
  | .error e =>
    (Reply.refusal e).after [c.traced "GetProtectedHandler",
      ⟨.error, "cloudkit_api::routes::protected", "User is not admin",
        [("user_id", .int claims.user.id), LogEvent.field "login" claims.user.login]⟩]

/-! ## Answers of other programs -/

/-- A fixed text. -/
def text (body : String) : Handler := fun _ => { response := .text .ok body }

/-- A handler behind a wait. -/
def delayed (delay : Span) (h : Handler) : Handler := fun c => { h c with delay }

/-- The login of the one whom the gate has found. -/
def whoami : Handler := withIdentity fun claims => text claims.user.login

/-- The method, the path and the origin of the request. -/
def requestInfo : Handler := fun c =>
  text (c.request.method ++ " " ++ c.request.path ++ " " ++ c.remoteDebug) c

end Handler

end Gatehouse
