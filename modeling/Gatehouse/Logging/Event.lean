import Gatehouse.Json.Printer

/-!
# Log events

What a program has to tell: a level, the part of the program that tells it, a message, and
named values.
-/

namespace Gatehouse

/-- How much an event matters, the most important first. -/
inductive LogLevel
  | error
  | warn
  | info
  | debug
  | trace
deriving Repr, DecidableEq

namespace LogLevel

def name : LogLevel → String
  | .error => "ERROR"
  | .warn => "WARN"
  | .info => "INFO"
  | .debug => "DEBUG"
  | .trace => "TRACE"

/-- The place among the levels, from one for errors to five. -/
def verbosity : LogLevel → Nat
  | .error => 1
  | .warn => 2
  | .info => 3
  | .debug => 4
  | .trace => 5

end LogLevel

/-- An event. -/
structure LogEvent where
  level : LogLevel
  target : String
  message : String
  fields : List (String × Json.Value) := []
deriving Repr

namespace LogEvent

/-- A field that is text. -/
def field (name text : String) : String × Json.Value :=
  (name, .string text)

/-- The names of the fields, of which the message is the first. -/
def fieldNames (e : LogEvent) : List String :=
  "message" :: e.fields.map Prod.fst

/-- The message and the fields as a JSON object. -/
def payload (e : LogEvent) : Json.Value :=
  .object (("message", .string e.message) :: e.fields)

end LogEvent

end Gatehouse
