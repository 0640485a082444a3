import Gatehouse.Logging.Logger
import Gatehouse.Metrics.Exposition
import Gatehouse.Program.Failure
import Gatehouse.Server.Basic
import Gatehouse.Server.Serve

/-!
# Starting the program

The program reads its configuration from the environment, starts logging, makes a registry
for its metrics, builds a server with three pages of its own and binds its address
(`Startup.ofVariables`). Each step can fail and ends the program then; what has been logged
up to there stays.
-/

namespace Gatehouse

/-- What the program finds outside: the time, why a file or an address cannot be had, and
whether its exporter of metrics takes bounds for buckets. -/
structure Host where
  systemNow : Instant
  openFile : String → Option String
  refusal : SocketAddress → Option String
  setBounds : List Binary64 → Except String Unit := fun _ => .ok ()

/-- What starting has come to: what has been logged, and a server or a failure. -/
structure Startup where
  logger : Option Logger := none
  events : List LogEvent := []
  result : Except Failure (Server Registry)

namespace Startup

/-- The part of the program that tells about itself. -/
def target : String := "cloudkit_server"

/-- The variable whose filter takes the place of the level. -/
def overrideName : String := "RUST_LOG"

/-- The description of the program behind an address. -/
def appInfo (address : SocketAddress) : ProgramInfo :=
  { app := "cloudkit-api", version := programVersion
    repository := "https://github.com/user/cloudkit"
    authUrl := "http://" ++ address.text ++ "/login" }

/-- The pages of the program. -/
def pages (appName : String) : List Registration :=
  [.rootPage ⟨appName, "HTTP service scaffold"⟩, .page "GET /hello" ⟨"Hello", "Hello World!"⟩,
    ⟨"GET /protected", Handler.showClaims, true⟩]

/-- The events before a server is built. -/
def opening (c : ServiceSettings) (logger : Logger) : List LogEvent :=
  [logger.started,
    ⟨.info, target, "Starting server...",
      [LogEvent.field "app" c.appName, LogEvent.field "version" programVersion,
        LogEvent.field "addr" c.listen.socketAddress.text]⟩]

/-- The event of the account that can log in. -/
def accountEvent (c : ServiceSettings) : LogEvent :=
  ⟨.info, "cloudkit_api::auth::authenticator", "Simple admin authenticator configured",
    [LogEvent.field "admin" c.admin.login]⟩

/-- The server of a configuration, and what is logged meanwhile. -/
def server (c : ServiceSettings) (plan : ServerPlan Registry) (systemNow : Instant) :
    Except ServerError (Server Registry × List LogEvent) := do
  let (s, events) ← { plan with version := some (appInfo c.listen.socketAddress) }.build systemNow
  let (s, more) ← s.registerAll (pages c.appName)
  return (s, accountEvent c :: events ++ more)

/-- Binds the address of a server, behind events. -/
def bound (h : Host) (s : Server Registry) (events : List LogEvent) :
    List LogEvent × Except Failure (Server Registry) :=
  match s.bind h.refusal with
  | .error e => (events, .error (.server e))
  | .ok () => (events ++ [Serve.listening s.listen], .ok s)

/-- What comes of a configuration behind the opening. -/
def attempt (h : Host) (c : ServiceSettings) : List LogEvent × Except Failure (Server Registry) :=
  match Registry.create h.setBounds c.appName with
  | .error reason => ([], .error (.metrics reason))
  | .ok registry =>
    match ServerPlan.ofConfig c registry h.systemNow with
    | .error e => ([], .error (.codec e))
    | .ok plan =>
      match server c plan h.systemNow with
      | .error e => ([], .error (.server e))
      | .ok (s, events) => bound h s events

/-- Starts with a configuration and a logger. -/
def ofConfig (h : Host) (c : ServiceSettings) (logger : Logger) : Startup :=
  let (events, result) := attempt h c
  { logger := some logger, events := opening c logger ++ events, result }

/-- Starts with what an environment and a file of variables say. -/
def ofVariables (h : Host) (environment : Variables) (file : String) : Startup :=
  match ServiceSettings.ofVariables environment file with
  | .error e => { result := .error (.config e) }
  | .ok c =>
    match Logger.start none c.logging ((DotEnv.load environment file).lookup overrideName)
        h.openFile with
    | .error e => { result := .error (.logging e) }
    | .ok logger => ofConfig h c logger

/-- The lines that are logged of events, if there is a logger. -/
def lines (s : Startup) (events : List LogEvent) : List LogLine :=
  match s.logger with
  | none => []
  | some l => l.log (events.map .event)

end Startup

/-- What the program says of the end of serving. -/
def ServeOutcome.event : ServeOutcome → LogEvent
  | .graceful => ⟨.info, Startup.target, "Server shutdown complete", []⟩
  | .forced => ⟨.warn, Startup.target, "Server shutdown forced after grace period", []⟩

end Gatehouse
