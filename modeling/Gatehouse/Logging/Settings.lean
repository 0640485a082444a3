import Gatehouse.Config.Error
import Gatehouse.Text.Quoted

/-!
# Logging settings

The form of log lines, where they go, and what they show. Formats are named in any case;
a target is one of three words or the path of a file, and has at least five characters.
-/

namespace Gatehouse

/-- The form of a log line. -/
inductive LogFormat
  | pretty
  | json
  | compact
deriving Repr, DecidableEq

namespace LogFormat

def name : LogFormat → String
  | .pretty => "Pretty"
  | .json => "Json"
  | .compact => "Compact"

/-- The reason for a text that names no format. -/
def unknown (text : String) : String :=
  "Unknown log format: " ++ text

/-- The format of a name in any case. -/
def ofString (text : String) : Except String LogFormat :=
  let lower := text.toList.map Char.toLower
  if lower = "pretty".toList then .ok .pretty
  else if lower = "json".toList then .ok .json
  else if lower = "compact".toList then .ok .compact
  else .error (unknown text)

end LogFormat

/-- Where log lines go. -/
inductive LogOutput
  | stdout
  | stderr
  | discard
  | file (path : String)
deriving Repr, DecidableEq

namespace LogOutput

/-- The fewest characters of a target. -/
def minLength : Nat := 5

/-- The target of a text: a word, or else a path. -/
def ofString (text : String) : Except ConfigError LogOutput :=
  let count := text.toList.length
  if count < minLength then .error (.invalid "LOG_FILE" (tooShort minLength count))
  else if text = "stdout" then .ok .stdout
  else if text = "stderr" then .ok .stderr
  else if text = "DISCARD" then .ok .discard
  else .ok (.file text)

/-- The diagnostic text of a target. -/
def debug : LogOutput → String
  | .stdout => "Stdout"
  | .stderr => "Stderr"
  | .discard => "Discard"
  | .file path => "File(" ++ Text.quoted path ++ ")"

/-- Whether lines go to a stream that a terminal may show. -/
def isStream : LogOutput → Bool
  | .stdout | .stderr => true
  | .discard | .file _ => false

end LogOutput

/-- Which lines are logged, in what form, where to, and with what in them. -/
structure LogSettings where
  level : String := "info"
  format : LogFormat := .pretty
  target : LogOutput := .stderr
  spanEvents : Bool := false
  file : Bool := true
  threadIds : Bool := false
  withTarget : Bool := true
deriving Repr, DecidableEq

namespace LogSettings

/-- The diagnostic text of the settings. -/
def debug (c : LogSettings) : String :=
  Text.record "LogConfig"
    [("level", Text.quoted c.level), ("format", c.format.name), ("target", c.target.debug),
      ("with_span_events", toString c.spanEvents), ("with_file", toString c.file),
      ("with_thread_ids", toString c.threadIds), ("with_target", toString c.withTarget)]

end LogSettings

end Gatehouse
