import Gatehouse.Logging.Filter
import Gatehouse.Logging.Settings
import Gatehouse.Time.Instant

/-!
# Loggers

A logger holds the settings and the filter that they give, unless a filter from outside
takes its place (`Logger.filterOf`). A program has one: a second one does not start
(`Logger.start`). `Logger.lines` are the lines that a logger writes of an activity.
-/

namespace Gatehouse

/-- What a program does that may be logged: a single event, or events in a stretch of work.
Of that it is told how long it was busy and idle. -/
inductive Activity
  | event (e : LogEvent)
  | work (span : LogSpan) (events : List LogEvent) (busy idle : String)
deriving Repr

/-- A line of a log: an event and the spans that it stands in, as far as they are followed. -/
structure LogLine where
  event : LogEvent
  spans : List LogSpan := []
deriving Repr

/-- The name of the innermost span. -/
def LogLine.spanName? (l : LogLine) : Option String :=
  l.spans.head?.map LogSpan.name

/-- The keys of a line in the JSON form, in order of their names. -/
def LogLine.keys (l : LogLine) (c : LogSettings) : List String :=
  ["fields"] ++ (if c.file then ["filename"] else []) ++ ["level"] ++
    (if c.file then ["line_number"] else []) ++
    (if l.spans.isEmpty then [] else ["span", "spans"]) ++
    (if c.withTarget then ["target"] else []) ++
    (if c.threadIds then ["threadId"] else []) ++ ["timestamp"]

namespace LogLine

/-- The text of a field for people. -/
def fieldText (f : String × Json.Value) : String :=
  " " ++ f.1 ++ "=" ++ match f.2 with
    | .string t => t
    | v => v.render

/-- The text of a line that is written at an instant. -/
def text (l : LogLine) (c : LogSettings) (time : Instant) : String :=
  let e := l.event
  if c.format = .json then
    (Json.Value.object ([("timestamp", .string time.debug), ("level", .string e.level.name),
      ("fields", e.payload)] ++ if c.withTarget then [("target", .string e.target)] else [])).render
  else
    time.debug ++ " " ++ e.level.name ++ " " ++ (if c.withTarget then e.target ++ ": " else "") ++
      e.message ++ String.join (e.fields.map fieldText)

end LogLine

namespace LogSpan

/-- The event of a span that begins. -/
def opened (s : LogSpan) : LogEvent :=
  ⟨s.level, s.target, "new", []⟩

/-- The event of a span that ends. -/
def closed (s : LogSpan) (busy idle : String) : LogEvent :=
  ⟨s.level, s.target, "close", [LogEvent.field "time.busy" busy, LogEvent.field "time.idle" idle]⟩

end LogSpan

/-- What writes log lines. -/
structure Logger where
  config : LogSettings
  filter : LogFilter
deriving Repr

namespace Logger

/-! ## Starting -/

/-- The error of settings whose level is no filter. -/
def badLevel (e : FilterError) : ConfigError :=
  .invalid "LOG_LEVEL" e.message

/-- The error of a file that cannot be opened. -/
def noFile (path reason : String) : ConfigError :=
  .invalid "LOG_FILE" (path ++ " could not be opened: " ++ reason)

/-- The error of a second logger. -/
def alreadyStarted : ConfigError :=
  .logging "a global default trace dispatcher has already been set"

/-- The filter: `override` if that is there and is one, or else the level of the settings. -/
def filterOf (c : LogSettings) (override : Option String) : Except ConfigError LogFilter :=
  match override.map LogFilter.ofText with
  | some (.ok filter) => .ok filter
  | _ => (LogFilter.ofText c.level).mapError badLevel

/-- Opens what the lines go to. `openFile` tells why a file cannot be opened, if so. -/
def openTarget (c : LogSettings) (openFile : String → Option String) : Except ConfigError Unit :=
  match c.target with
  | .file path =>
    match openFile path with
    | some reason => .error (noFile path reason)
    | none => .ok ()
  | _ => .ok ()

/-- The logger of a program that may have one already. -/
def start (running : Option Logger) (c : LogSettings) (override : Option String)
    (openFile : String → Option String) : Except ConfigError Logger := do
  let filter ← filterOf c override
  openTarget c openFile
  if running.isSome then .error alreadyStarted else return ⟨c, filter⟩

/-- The event of a logger that has started. -/
def started (l : Logger) : LogEvent :=
  ⟨.info, "cloudkit_core::logging", "Logging initialized",
    [LogEvent.field "format" l.config.format.name, LogEvent.field "level" l.config.level,
      LogEvent.field "target" l.config.target.debug]⟩

/-! ## Writing -/

/-- The lines of an activity. -/
def lines (l : Logger) : Activity → List LogLine
  | .event e => if l.filter.admits [] e then [{ event := e }] else []
  | .work s events busy idle =>
    let spans := if l.filter.follows s then [s] else []
    let marks := fun e : LogEvent =>
      if l.config.spanEvents && !spans.isEmpty then [(⟨e, spans⟩ : LogLine)] else []
    marks s.opened ++
      (events.filter (l.filter.admits spans)).map (fun e => ⟨e, spans⟩) ++
      marks (s.closed busy idle)

/-- The lines of activities, in order. -/
def log (l : Logger) (activities : List Activity) : List LogLine :=
  activities.flatMap l.lines

end Logger

end Gatehouse
