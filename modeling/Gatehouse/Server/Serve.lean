import Gatehouse.Logging.Event
import Gatehouse.Server.Error
import Gatehouse.Server.Lifecycle
import Gatehouse.Time.Span

/-!
# Serving and shutting down

A server serves until the serving ends by itself or it is cancelled. Cancelled, it takes no
more connections and lets the requests in progress end, but not for longer than a grace
period; behind that it cuts them off. `Serve.step` is what the server does when it looks at
the world (`Look`): it notes what it publishes, cuts off and logs, in order, and ends with
an outcome or with the error of the serving. If a look finds the serving ended and the server
cancelled, either may be taken up first.
-/

namespace Gatehouse

/-- How serving has ended. -/
inductive ServeOutcome
  | graceful
  | forced
deriving Repr, DecidableEq

namespace ServeOutcome

def name : ServeOutcome → String
  | .graceful => "Graceful"
  | .forced => "Forced"

end ServeOutcome

/-- What there is to find: whether the serving has ended, and with what error; whether the
server is cancelled; whether the grace period is over; and which of the first two is taken
up first. -/
structure Look where
  ended : Option (Except String Unit) := none
  cancelled : Bool := false
  graceOver : Bool := false
  cancelledFirst : Bool := true

/-- Something that a server does while it serves. -/
inductive ServeNotice
  | published (l : Lifecycle)
  | cutOff
  | logged (e : LogEvent)

/-- How far serving has come. -/
inductive ServePhase
  | serving
  | draining
  | done (result : Except ServerError ServeOutcome)

/-- A server that serves, and what it has done so far. -/
structure Serve where
  grace : Span
  phase : ServePhase := .serving
  lifecycle : Lifecycle := .running
  notices : List ServeNotice := []

namespace Serve

/-- The part of the program that tells about serving. -/
def target : String := "cloudkit_api::server"

/-! ## What it does -/

/-- Notes something. -/
def note (s : Serve) (n : ServeNotice) : Serve :=
  { s with notices := s.notices ++ [n] }

/-- Goes on to a state of life, and publishes it if it is another. -/
def goOn (s : Serve) (next : Lifecycle) : Serve :=
  if next.isAhead s.lifecycle then
    { s with lifecycle := next }.note (.published next)
  else s

def log (s : Serve) (level : LogLevel) (message : String)
    (fields : List (String × Json.Value)) : Serve :=
  s.note (.logged ⟨level, target, message, fields⟩)

/-- The grace period as a field. -/
def graceField (s : Serve) : String × Json.Value :=
  ("grace_secs", .float s.grace.seconds)

/-- Ends as the serving has. -/
def finish (s : Serve) (result : Except String Unit) (message : String) : Serve :=
  match result with
  | .error reason => { s.goOn .stopped with phase := .done (.error (.serve reason)) }
  | .ok () => { (s.goOn .stopped).log .info message [] with phase := .done (.ok .graceful) }

/-- Takes no more connections. -/
def drain (s : Serve) : Serve :=
  { (s.goOn .shuttingDown).log .info
      "Shutdown signal received, waiting for in-flight requests" [s.graceField]
    with phase := .draining }

/-- Cuts off the requests in progress. -/
def cutOff (s : Serve) : Serve :=
  { ((s.log .warn "Shutdown timed out, terminating outstanding connections"
      [s.graceField]).note .cutOff).goOn .stopped
    with phase := .done (.ok .forced) }

/-! ## Runs -/

/-- What it does at a look. -/
def step (s : Serve) (l : Look) : Serve :=
  match s.phase with
  | .serving =>
    match l.ended with
    | none => if l.cancelled then s.drain else s
    | some result =>
      if l.cancelled && l.cancelledFirst then s.drain else s.finish result "HTTP server stopped"
  | .draining =>
    match l.ended with
    | some result => s.finish result "Shutdown completed successfully"
    | none => if l.graceOver then s.cutOff else s
  | .done _ => s

/-- What has come of it after looks, in order. -/
def run (s : Serve) (looks : List Look) : Serve :=
  looks.foldl step s

/-- How it has ended, if it has. -/
def result? (s : Serve) : Option (Except ServerError ServeOutcome) :=
  match s.phase with
  | .done result => some result
  | _ => none

/-- The states of life that it has published, in order. -/
def published (s : Serve) : List Lifecycle :=
  s.notices.filterMap fun n => match n with
    | .published l => some l
    | _ => none

/-- Whether it has cut off requests. -/
def hasCutOff (s : Serve) : Bool :=
  s.notices.any fun n => match n with
    | .cutOff => true
    | _ => false

/-- What it has logged, in order. -/
def events (s : Serve) : List LogEvent :=
  s.notices.filterMap fun n => match n with
    | .logged e => some e
    | _ => none

/-- The event of a server that begins to serve. -/
def listening (address : SocketAddress) : LogEvent :=
  ⟨.info, target, "HTTP server listening", [LogEvent.field "addr" address.text]⟩

end Serve

/-! ## Signals -/

/-- What ends the wait for a signal: one of two signals, or that the server is cancelled by
another way. -/
inductive ShutdownCause
  | interrupt
  | terminate
  | cancelled
deriving Repr, DecidableEq

namespace ShutdownCause

/-- What is logged of the cause. -/
def events : ShutdownCause → List LogEvent
  | .interrupt => received "Received Ctrl+C, initiating graceful shutdown..."
  | .terminate => received "Received SIGTERM, initiating graceful shutdown..."
  | .cancelled => []
where
  /-- A signal and that it is passed on. -/
  received (message : String) : List LogEvent :=
    [⟨.warn, "cloudkit_api::lifecycle", message, []⟩,
      ⟨.info, "cloudkit_api::lifecycle", "Shutdown signal propagated", []⟩]

end ShutdownCause

/-- The wait for a cause to shut down. -/
structure SignalWait where
  cancelled : Bool := false
  returned : Bool := false
deriving Repr, DecidableEq

/-- The wait after a cause: it is over, and the server is cancelled. -/
def SignalWait.after (w : SignalWait) (cause : Option ShutdownCause) : SignalWait :=
  match cause with
  | none => w
  | some _ => { cancelled := true, returned := true }

end Gatehouse
