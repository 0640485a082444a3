import Gatehouse.Time.Span

/-!
# What is measured

Every completed request is observed once, and two events are counted on their own: an
answer of the root page, and a request that no route matches. A sink takes measurements in
and may be able to write down what it has seen (`MeasureSink`); `SilentSink` forgets them.
-/

namespace Gatehouse

/-- What is observed of a request: its method, the template of its route, the status of the
response, the time that it took, and the sizes of both bodies. -/
structure Observation where
  method : String
  handler : String
  status : Nat
  duration : Span
  requestBytes : Nat
  responseBytes : Nat
deriving Repr, DecidableEq

/-- A measurement. -/
inductive Measure
  | request (o : Observation)
  | rootGet
  | notFound
deriving Repr, DecidableEq

/-- The template of requests that no route matches. -/
def unmatchedTemplate : String := "not_found"

/-- A state that measurements are recorded in. -/
class MeasureSink (σ : Type) where
  /-- The state after a measurement. -/
  record : σ → Measure → σ
  /-- The text of what has been measured, if the sink has one. -/
  exposition? : σ → Option String

namespace MeasureSink

/-- The state after measurements, in order. -/
def recordAll {σ : Type} [MeasureSink σ] (s : σ) (measures : List Measure) : σ :=
  measures.foldl record s

end MeasureSink

/-- A sink that keeps nothing. -/
structure SilentSink where
deriving Repr, DecidableEq

instance : MeasureSink SilentSink where
  record s _ := s
  exposition? _ := none

end Gatehouse
