import Gatehouse.Route.Router
import Gatehouse.Server.Login

/-!
# Servers

A server is a service with an address, a sink for measurements, a table of routes and two
limits of time. It begins with six routes (`Server.defaultRoutes`), and registering another
one fails only for what is no pattern.

A request is answered by the entry that it is dispatched to, behind the gate if the entry is
protected (`Route.reply`); a reply that waits for as long as the limit is not waited for
(`Server.reply`). Every answer is observed (`Server.respond`). If the paths of the table do
not fit together there is no router, and no request is answered.
-/

namespace Gatehouse

/-- A server that measures into a sink. -/
structure Server (σ : Type) where
  listen : SocketAddress
  service : Service
  sink : σ
  routes : Routes Handler := []
  shutdownTimeout : Span
  requestTimeout : Span

/-! ## Building -/

/-- What a server is built from. -/
structure ServerPlan (σ : Type) where
  codec : TokenCodec
  administrator : Administrator
  sink : σ
  appName : String := "cloudkit-api"
  listen : SocketAddress := ⟨.v4 0 0 0 0, 9999, 0⟩
  version : Option ProgramInfo := none
  willing : Bool := true
  shutdownTimeout : Span := Span.ofSeconds 2
  requestTimeout : Span := Span.ofSeconds 30

/-- The version of the program. -/
def programVersion : String := "0.1.0"

namespace ServerPlan

variable {σ : Type}

/-- The plan for a configuration. -/
def ofConfig (c : ServiceSettings) (sink : σ) (systemNow : Instant) :
    Except TokenError (ServerPlan σ) :=
  (TokenCodec.new c.token.secretBytes c.token.issuer c.token.durationMinutes
    systemNow).map fun codec =>
      { codec, administrator := Administrator.ofSettings c.admin, sink, appName := c.appName
        listen := c.listen.socketAddress, shutdownTimeout := c.shutdownTimeout }

/-- What the handlers know of the server that is planned. -/
def service (p : ServerPlan σ) (systemNow : Instant) : Service :=
  { appName := p.appName, codec := p.codec, administrator := p.administrator
    version := p.version.getD { app := p.appName, version := programVersion }
    willing := p.willing, startedAt := systemNow }

/-- The server without a route. -/
def bare (p : ServerPlan σ) (systemNow : Instant) : Server σ :=
  { listen := p.listen, service := p.service systemNow, sink := p.sink
    shutdownTimeout := p.shutdownTimeout, requestTimeout := p.requestTimeout }

end ServerPlan

/-- A handler that is to be registered under the text of a pattern. -/
structure Registration where
  pattern : String
  handler : Handler
  isProtected : Bool := false

namespace Registration

def rootPage (p : Page) : Registration := ⟨"GET /", Handler.rootPage p, false⟩

def page (pattern : String) (p : Page) : Registration := ⟨pattern, Handler.page p, false⟩

/-- The event of a registration for a pattern in a table. -/
def event (r : Registration) (table : Routes Handler) (p : RoutePattern) : LogEvent :=
  if (table.get? p).isSome then
    ⟨.debug, "cloudkit_api::server", "Route handler replaced", [LogEvent.field "route" p.text]⟩
  else
    ⟨.debug, "cloudkit_api::server", "Route registered",
      [LogEvent.field "route" p.text, ("protected", .bool r.isProtected)]⟩

end Registration

namespace Server

variable {σ : Type}

/-- The server with one more registration, and the event of it. -/
def register (s : Server σ) (r : Registration) : Except ServerError (Server σ × LogEvent) :=
  (RoutePattern.ofString r.pattern).map fun p =>
    ({ s with routes := s.routes.insert p ⟨r.handler, r.isProtected⟩ }, r.event s.routes p)

/-- The server with more registrations, up to the first that fails, and their events. -/
def registerAll (s : Server σ) : List Registration → Except ServerError (Server σ × List LogEvent)
  | [] => .ok (s, [])
  | r :: rest => do
    let (s, event) ← s.register r
    let (s, events) ← s.registerAll rest
    return (s, event :: events)

/-- The routes that every server has. -/
def defaultRoutes : List Registration :=
  [⟨"GET /time", Handler.time, false⟩, ⟨"GET /version", Handler.version, false⟩,
    ⟨"GET /metrics", Handler.metrics, false⟩, ⟨"GET /health", Handler.health, false⟩,
    ⟨"GET /readiness", Handler.readiness, false⟩, ⟨"POST /login", Handler.login, false⟩]

/-- Binds the address of the server. `refusal` tells why an address cannot be had, if so. -/
def bind (s : Server σ) (refusal : SocketAddress → Option String) : Except ServerError Unit :=
  match refusal s.listen with
  | some reason => .error (.bind s.listen reason)
  | none => .ok ()

/-- The diagnostic text. -/
def debug (s : Server σ) : String :=
  Text.openRecord "Server"
    [("listen_addr", s.listen.text), ("routes", Text.listing (s.routes.texts.map Text.quoted)),
      ("shutdown_timeout", s.shutdownTimeout.debug), ("request_timeout", s.requestTimeout.debug)]

end Server

/-- The server of a plan, with its default routes, and what is logged meanwhile. -/
def ServerPlan.build {σ : Type} (p : ServerPlan σ) (systemNow : Instant) :
    Except ServerError (Server σ × List LogEvent) :=
  (p.bare systemNow).registerAll Server.defaultRoutes

/-! ## Answering -/

/-- The reply of an entry: of its handler, who is told of no identity but the one that the gate
has found. -/
def Route.reply (e : Route Handler) (c : Call) : Reply :=
  if e.isProtected then
    let checked := Gate.check c.service.codec c.moment.systemNow c.request.headers
    Reply.after [Gate.event c.request checked] <|
      match checked with
      | .ok claims => e.handler { c with identity := some claims }
      | .error refusal => .refusal refusal
  else e.handler { c with identity := none }

/-- The reply to a request that has been dispatched. -/
def Dispatch.reply (d : Dispatch Handler) (c : Call) : Reply :=
  match d with
  | .unmatched => Handler.notFound c
  | .refused resource =>
    { response := { status := .methodNotAllowed, allow := some resource.allow } }
  | .entry _ e => e.reply c

/-- The template that stands for a request in what is observed. -/
def Dispatch.template (d : Dispatch Handler) : String :=
  match d with
  | .unmatched => unmatchedTemplate
  | .refused resource | .entry resource _ => resource.path

/-- The reply if there is `limit` for it: one that waits for as long is given up. -/
def Reply.within (r : Reply) (limit : Span) : Reply :=
  if 0 < r.delay.nanos ∧ limit.nanos ≤ r.delay.nanos then
    { r with response := .ofStatus .requestTimeout }
  else r

/-- The reply of a handler that is cut off. -/
def Reply.cutOff (r : Reply) : Reply :=
  { r with response := .text .unavailable "Server is shutting down" }

namespace Server

variable {σ : Type} [MeasureSink σ]

/-- What a request is called with. -/
def call (s : Server σ) (m : Moment) (r : Request) : Call :=
  { service := s.service, moment := m, request := r
    exposition := MeasureSink.exposition? s.sink }

/-- The reply to a request that has been dispatched. -/
def reply (s : Server σ) (d : Dispatch Handler) (m : Moment) (r : Request) : Reply :=
  (d.reply (s.call m r)).within s.requestTimeout

/-- What is observed of a request and its response. -/
def observation (d : Dispatch Handler) (m : Moment) (r : Request) (response : Response) :
    Observation :=
  { method := r.method, handler := d.template, status := response.status.code
    duration := m.elapsed, requestBytes := r.headers.contentLength?.getD r.body.length
    responseBytes := response.size }

/-- The server with measurements. -/
def measured (s : Server σ) (measures : List Measure) : Server σ :=
  { s with sink := MeasureSink.recordAll s.sink measures }

/-- The router of the server, if there is one. -/
def router? (s : Server σ) : Option (Router Handler) :=
  s.routes.router?

/-- The reply to a request and the server behind it. -/
def handle (s : Server σ) (router : Router Handler) (m : Moment) (r : Request) :
    Reply × Server σ :=
  let d := router.dispatch r.method r.path
  let reply := s.reply d m r
  (reply, s.measured (reply.measures ++ [.request (observation d m r reply.response)]))

/-- The reply to a request and the server behind it, if there is a router. -/
def respond (s : Server σ) (m : Moment) (r : Request) : Option (Reply × Server σ) :=
  s.router?.map fun router => s.handle router m r

end Server

end Gatehouse
