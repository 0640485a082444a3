import Gatehouse.Metrics.Observation
import Gatehouse.Text.Quoted

/-!
# The registry of metrics

Four families hold what is observed of requests, each with one series for every set of
labels that has come up: a counter, a histogram of durations, and summaries of the sizes of
requests and of responses. Two counters stand beside them. `Registry.record` adds a
measurement to all that it belongs to.
-/

namespace Gatehouse

/-- The labels of a series. -/
structure Labels where
  method : String
  handler : String
  status : Nat
deriving Repr, DecidableEq

/-- The labels of an observation. -/
def Observation.labels (o : Observation) : Labels :=
  ⟨o.method, o.handler, o.status⟩

/-! ## Series -/

/-- A number of samples and their sum. -/
structure Summary where
  count : Nat := 0
  sum : Binary64 := Binary64.zero
deriving Repr, DecidableEq

/-- The summary with one more sample. -/
def Summary.add (s : Summary) (x : Binary64) : Summary :=
  ⟨s.count + 1, s.sum.add x⟩

/-- The upper bounds of the buckets of durations, in seconds. -/
def durationBounds : List Binary64 :=
  [Binary64.ofRatio false 1 10, Binary64.ofRatio false 15 100, Binary64.ofRatio false 225 1000,
    Binary64.ofRatio false 3375 10000, Binary64.ofRatio false 50625 100000]

/-- Samples, and for every bound how many of them are at most that. -/
structure Histogram where
  summary : Summary := {}
  buckets : List Nat := durationBounds.map fun _ => 0
deriving Repr, DecidableEq

/-- The histogram with one more sample. -/
def Histogram.add (h : Histogram) (x : Binary64) : Histogram :=
  { summary := h.summary.add x
    buckets := List.zipWith (fun n bound => if x.le bound then n + 1 else n)
      h.buckets durationBounds }

/-! ## Families -/

/-- Series by their labels, in the order in which they came up. -/
abbrev Family (α : Type) := List (Labels × α)

namespace Family

/-- The family with `f` done to the series of some labels, which starts as `fresh`. -/
def update {α : Type} (labels : Labels) (fresh : α) (f : α → α) : Family α → Family α
  | [] => [(labels, f fresh)]
  | (k, x) :: rest =>
    if k = labels then (k, f x) :: rest else (k, x) :: update labels fresh f rest

/-- The series of some labels. -/
def get? {α : Type} (family : Family α) (labels : Labels) : Option α :=
  (family.find? fun s => s.1 = labels).map Prod.snd

end Family

/-! ## The registry -/

/-- Everything that has been measured. -/
structure Registry where
  app : String
  requests : Family Nat := []
  durations : Family Histogram := []
  requestSizes : Family Summary := []
  responseSizes : Family Summary := []
  rootGets : Nat := 0
  notFounds : Nat := 0
deriving Repr, DecidableEq

namespace Registry

/-- The registry of an application, with nothing measured. -/
def new (app : String) : Registry := { app }

/-- The registry of an application, if the exporter that it is made with takes the bounds of the
buckets of durations. -/
def create {ε : Type} (setBounds : List Binary64 → Except ε Unit) (app : String) :
    Except ε Registry :=
  (setBounds durationBounds).map fun _ => .new app

/-- A letter or digit of ASCII, or an underscore. -/
def isWordChar (c : Char) : Bool :=
  c.isAlphanum || c == '_'

/-- The name of an application as the start of the name of a metric. -/
def stem (app : String) : String :=
  String.ofList (app.toList.map fun c => if isWordChar c then c else '_')

/-- The name of the counter of root pages. -/
def rootGetName (r : Registry) : String :=
  stem r.app ++ "_root_get_request_count"

/-- The name of the counter of unmatched requests. -/
def notFoundName (r : Registry) : String :=
  stem r.app ++ "_root_not_found_request_count"

/-- The registry with a request. -/
def observe (r : Registry) (o : Observation) : Registry :=
  { r with
    requests := Family.update o.labels 0 (· + 1) r.requests
    durations := Family.update o.labels {} (·.add o.duration.seconds) r.durations
    requestSizes :=
      Family.update o.labels {} (·.add (Binary64.ofNat o.requestBytes)) r.requestSizes
    responseSizes :=
      Family.update o.labels {} (·.add (Binary64.ofNat o.responseBytes)) r.responseSizes }

/-- The registry with a measurement. -/
def record (r : Registry) : Measure → Registry
  | .request o => r.observe o
  | .rootGet => { r with rootGets := r.rootGets + 1 }
  | .notFound => { r with notFounds := r.notFounds + 1 }

/-- The diagnostic text of a registry. -/
def debug (r : Registry) : String :=
  Text.record "PrometheusSink"
    [("root_get_counter", Text.quoted r.rootGetName),
      ("not_found_counter", Text.quoted r.notFoundName)]

end Registry

end Gatehouse
