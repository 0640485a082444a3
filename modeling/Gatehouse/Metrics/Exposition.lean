import Gatehouse.Metrics.Registry

/-!
# The exposition of metrics

The text of a registry, line by line: a metric that has been measured comes with a line of
help and a line for its type, then one line for every sample of every series. Names are made
of letters, digits, underscores and colons, and do not begin with a digit
(`Exposition.name`); in the values of labels and in the lines of help, line feeds and
backslashes stand behind a backslash, and in the values quotes do too (`Exposition.escape`).
-/

namespace Gatehouse.Exposition

/-- A character that a name may begin with. -/
def isNameStart (c : Char) : Bool :=
  c.isAlpha || c == '_' || c == ':'

/-- The name of a metric, with an underscore for every character that may not be there. -/
def name (text : String) : String :=
  match text.toList with
  | [] => ""
  | c :: rest =>
    String.ofList ((if isNameStart c then c else '_') ::
      rest.map fun c => if isNameStart c || c.isDigit then c else '_')

/-! ## Escaping -/

/-- A backslash behind a backslash. -/
def backslash : List Char := ['\\', '\\']

/-- The form of a text. Two backslashes in a row are taken for one that is escaped already,
and so is a backslash in front of a quote; `pending` tells that one is still to be written. -/
def escapeFrom (quotes : Bool) : Bool → List Char → List Char
  | pending, [] => if pending then backslash else []
  | pending, c :: rest =>
    if c = '\n' then '\\' :: 'n' :: escapeFrom quotes pending rest
    else if c = '"' ∧ quotes then '\\' :: '"' :: escapeFrom quotes false rest
    else if c = '\\' then
      (if pending then backslash else []) ++ escapeFrom quotes (!pending) rest
    else (if pending then backslash else []) ++ c :: escapeFrom quotes false rest

/-- The form of the value of a label. -/
def labelValue (text : String) : String :=
  String.ofList (escapeFrom true false text.toList)

/-- The form of a line of help. -/
def help (text : String) : String :=
  String.ofList (escapeFrom false false text.toList)

/-! ## Lines -/

/-- A label and its value. -/
def label (key value : String) : String :=
  key ++ "=\"" ++ value ++ "\""

/-- The labels of a series. -/
def labels (l : Labels) : List String :=
  [label "method" (labelValue l.method), label "handler" (labelValue l.handler),
    label "code" (labelValue (toString l.status))]

/-- The line of a sample. -/
def sample (metric : String) (labels : List String) (value : String) : String :=
  metric ++ (if labels.isEmpty then "" else "\x7b" ++ ",".intercalate labels ++ "\x7d") ++
    " " ++ value

/-- The lines of a metric: its help, its type, its samples, and an empty one. -/
def block (metric kind description : String) (samples : List String) : List String :=
  if samples.isEmpty then []
  else ["# HELP " ++ metric ++ " " ++ help description, "# TYPE " ++ metric ++ " " ++ kind] ++
    samples ++ [""]

/-- The lines of a counter without labels. -/
def counter (metric description : String) (count : Nat) : List String :=
  block (name metric) "counter" description
    (if count = 0 then [] else [sample (name metric) [] (toString count)])

/-- The lines of the sum and of the number of samples. -/
def totals (metric : String) (l : List String) (s : Summary) : List String :=
  [sample (metric ++ "_sum") l (Notation.plain s.sum),
    sample (metric ++ "_count") l (toString s.count)]

/-- The lines of a summary. -/
def summary (metric description : String) (family : Family Summary) : List String :=
  block metric "summary" description
    (family.flatMap fun series => totals metric (labels series.1) series.2)

/-- The lines of the buckets of a histogram. -/
def buckets (metric : String) (l : List String) (h : Histogram) : List String :=
  (List.zipWith (fun bound n => sample (metric ++ "_bucket")
    (l ++ [label "le" (Notation.plain bound)]) (toString n)) durationBounds h.buckets) ++
  [sample (metric ++ "_bucket") (l ++ [label "le" "+Inf"]) (toString h.summary.count)]

/-- The lines of a histogram. -/
def histogram (metric description : String) (family : Family Histogram) : List String :=
  block metric "histogram" description
    (family.flatMap fun series =>
      let l := labels series.1
      buckets metric l series.2 ++ totals metric l series.2.summary)

end Gatehouse.Exposition

namespace Gatehouse

namespace Registry

open Exposition

/-- The lines of the exposition. -/
def lines (r : Registry) : List String :=
  block "http_requests_total" "counter" "Tracks the number of HTTP requests."
    (r.requests.map fun series =>
      sample "http_requests_total" (labels series.1) (toString series.2)) ++
  counter r.rootGetName
    ("Number of GET request handled by " ++ r.app ++ " default root handler") r.rootGets ++
  counter r.notFoundName
    ("Number of page not found handled by " ++ r.app ++ " default root handler") r.notFounds ++
  histogram "http_request_duration_seconds" "Tracks the latencies for HTTP requests."
    r.durations ++
  summary "http_request_size_bytes" "Tracks the size of HTTP requests." r.requestSizes ++
  summary "http_response_size_bytes" "Tracks the size of HTTP responses." r.responseSizes

/-- The text of the exposition. -/
def render (r : Registry) : String :=
  String.join (r.lines.map (· ++ "\n"))

end Registry

instance : MeasureSink Registry where
  record := Registry.record
  exposition? r := some r.render

end Gatehouse
