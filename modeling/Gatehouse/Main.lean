import Gatehouse.Bytes.Uuid
import Gatehouse.Program.Startup
import Std.Async.Signal
import Std.Http.Server

/-!
# The program

The program takes its configuration from the environment and from the file `.env`, and
serves until it gets a signal. A failure to start is reported on standard error.
-/

namespace Gatehouse.CommandLine

open Std.Async

/-! ## What is outside -/

/-- The variables that the program looks at, in upper and in lower case. -/
def names : List String :=
  let settings := ["APP_NAME", "SERVER_IP", "PORT", "JWT_SECRET", "JWT_ISSUER_ID",
    "JWT_DURATION_MINUTES", "ADMIN_USER", "ADMIN_PASSWORD", "ADMIN_EMAIL", "ADMIN_ID",
    "SHUTDOWN_TIMEOUT_SECS", "LOG_LEVEL", "LOG_FORMAT", "LOG_FILE"]
  Startup.overrideName :: settings ++ settings.map String.toLower

/-- The variables that are set. -/
def environment : IO Variables :=
  names.filterMapM fun name => do
    return (← IO.getEnv name).map fun value => (name, value)

/-- The text of the file of variables, if it is there. -/
def variablesFile : IO String := do
  try IO.FS.readFile ".env" catch _ => return ""

/-- The time. -/
def now : IO Instant := do
  let t ← Std.Time.Timestamp.now
  let nanos := t.toNanosecondsSinceUnixEpoch.val
  return ⟨nanos.fdiv Span.perSecond, (nanos.fmod Span.perSecond).toNat⟩

/-- An identifier that is drawn at random. -/
def drawn : IO String := do
  return Uuid.ofBytes (← IO.getRandomBytes 16).toList

/-- The words and the number of an error. Those of the network have negative numbers. -/
def numbered (code : UInt32) (words : String) : String :=
  let number := if code < 2147483648 then code else 0 - code
  words.capitalize ++ " (os error " ++ toString number.toNat ++ ")"

/-- The text of what the system has refused. -/
def refusalText : IO.Error → String
  | .noFileOrDirectory _ code words | .inappropriateType _ code words
  | .permissionDenied _ code words | .resourceBusy code words => numbered code words
  | .unsupportedOperation code _ => numbered code "Cannot assign requested address"
  | e => toString e

/-- Why a file cannot be opened for lines to be added to it. -/
def openFailure (path : String) : IO (Option String) := do
  try
    let _ ← IO.FS.Handle.mk path .append
    return none
  catch e => return some (refusalText e)

/-- The host, for a configuration whose log goes to a target. -/
def host (target : LogOutput) : IO Host := do
  let failure ← match target with
    | .file path => openFailure path
    | _ => pure none
  return { systemNow := ← now, openFile := fun _ => failure, refusal := fun _ => none }

/-- Writes events to the log. -/
def log (s : Startup) (events : List LogEvent) : IO Unit := do
  let some logger := s.logger | return
  let time ← now
  let text := String.join ((s.lines events).map fun l => l.text logger.config time ++ "\n")
  match logger.config.target with
  | .stdout => IO.print text
  | .stderr => IO.eprint text
  | .discard => return
  | .file path => (← IO.FS.Handle.mk path .append).putStr text

/-! ## Addresses -/

/-- The address for the network. -/
def networkAddress (a : SocketAddress) : Std.Net.SocketAddress :=
  match a.ip with
  | .v4 b c d e => .v4 ⟨.ofParts b c d e, a.port⟩
  | .v6 groups => .v6 ⟨⟨groups⟩, a.port⟩

/-- The address that the network gives. -/
def addressOf : Std.Net.SocketAddress → SocketAddress
  | .v4 a => ⟨.v4 a.addr.octets[0] a.addr.octets[1] a.addr.octets[2] a.addr.octets[3], a.port, 0⟩
  | .v6 a => ⟨.v6 a.addr.segments, a.port, 0⟩

/-! ## Requests -/

/-- What the connections share: the server, with what has been measured, and its router. -/
structure Site where
  startup : Startup
  router : Router Handler
  server : Std.Mutex (Server Registry)

/-- The request of a message. -/
def request (r : Std.Http.Request Std.Http.Body.Stream) : ContextAsync Request := do
  let body : ByteArray ← r.body.readAll
  return {
    method := toString r.line.method
    target := toString r.line.uri
    headers := r.line.headers.toList.map fun h => ⟨h.1.value, Utf8.ofString h.2.value⟩
    body := body.toList }

/-- The code of a status for a message. -/
def statusLine (s : Status) : Std.Http.Status :=
  (Std.Http.Status.ofCode none s.code.toUInt16).getD .internalServerError

/-- The message of a response. -/
def message (r : Response) : Async (Std.Http.Response Std.Http.Body.Full) := do
  let fields := r.headers.filter fun h => h.1 != "content-length"
  let head := fields.foldl (fun b h => (b.header? h.1 h.2).getD b)
    (Std.Http.Response.withStatus (statusLine r.status))
  return head.body (← Std.Http.Body.Full.ofString r.body)

/-- Answers a message. -/
def answer (site : Site) (r : Std.Http.Request Std.Http.Body.Stream) :
    ContextAsync (Std.Http.Response Std.Http.Body.Full) := do
  let begun ← IO.monoNanosNow
  let remote := (r.extensions.get Std.Http.Server.RemoteAddr).map fun a => addressOf a.addr
  let r ← request r
  let moment : Moment :=
    { systemNow := ← now, tokenId := ← drawn, requestId := ← drawn, remote
      elapsed := ⟨(← IO.monoNanosNow) - begun⟩ }
  let reply ← site.server.atomically (modifyGet fun s => s.handle site.router moment r)
  log site.startup reply.events
  message reply.response

instance : Std.Http.Server.Handler Site where
  ResponseBody := Std.Http.Body.Full
  onRequest := answer

/-! ## Serving -/

/-- A span on a timer. -/
def millis (s : Span) : Std.Time.Millisecond.Offset :=
  .ofNat (s.nanos / Span.perMilli)

/-- Takes connections at the address of a server. -/
def listen (site : Site) (server : Server Registry) : Async (Except String Std.Http.Server) := do
  try
    let http ← Std.Http.Server.serve (networkAddress server.listen) site
      { maxConnections := 0, serverName := none
        lingeringTimeout := millis server.requestTimeout }
    return .ok http
  catch e => return .error (refusalText e)

/-- Waits for a signal. -/
def signal : Async ShutdownCause := do
  let interrupt ← Signal.Waiter.mk .sigint false
  let terminate ← Signal.Waiter.mk .sigterm false
  Selectable.one #[.case interrupt.selector fun _ => pure .interrupt,
    .case terminate.selector fun _ => pure .terminate]

/-- Looks at the world, publishes the state of life behind it, and logs. -/
def look (site : Site) (serving : Serve) (l : Look) : Async Serve := do
  let next := { serving with notices := [] }.step l
  site.server.atomically (modify fun s =>
    { s with service := { s.service with lifecycle := next.lifecycle } })
  log site.startup next.events
  return next

/-- Serves until there is a signal and the connections have ended, or the grace period has. -/
def serve (site : Site) (http : Std.Http.Server) (grace : Span) : Async UInt32 := do
  log site.startup site.startup.events
  log site.startup (← signal).events
  let serving ← look site { grace } { cancelled := true }
  http.shutdown
  let rest : Look ← Selectable.one #[
    .case http.waitShutdownSelector fun _ => pure { ended := some (.ok ()) },
    .case (← Selector.sleep (millis grace)) fun _ => pure { graceOver := true }]
  match (← look site serving rest).result? with
  | some (.ok outcome) =>
    log site.startup [outcome.event]
    return 0
  | _ => return 1

/-- Reports a failure to start. -/
def report (s : Startup) (f : Failure) : IO UInt32 := do
  log s s.events
  IO.eprintln f.report
  return 1

end Gatehouse.CommandLine

open Gatehouse Gatehouse.CommandLine in
def main : IO UInt32 := Std.Async.Async.block do
  let set ← environment
  let file ← variablesFile
  let target := match ServiceSettings.ofVariables set file with
    | .ok c => c.logging.target
    | .error _ => .discard
  let h ← host target
  let s := Startup.ofVariables h set file
  match s.result with
  | .error f => report s f
  | .ok server =>
    let some router := server.router? | return 1
    let site : Site := { startup := s, router, server := ← Std.Mutex.new server }
    match ← listen site server with
    | .ok http => serve site http server.shutdownTimeout
    | .error reason =>
      report (Startup.ofVariables { h with refusal := fun _ => some reason } set file)
        (.server (.bind server.listen reason))
