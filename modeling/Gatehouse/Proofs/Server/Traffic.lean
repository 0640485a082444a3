import Gatehouse.Metrics.Exposition
import Gatehouse.Proofs.Server.Gate
import Mathlib.Data.List.Perm.Basic

/-!
# Requests in flight

A server answers many requests at a time. Each of them arrives, which is when its handler is called
and takes its measurements, and is completed later, which is when it is observed (`Traffic.step`).
In between other requests arrive and are completed, more is registered, or the service changes.
When a server is stopped by force, what is in flight is cut off, with as many of its measurements
as have been taken by then.

What happens to the table of routes is the history of registrations alone (`Traffic.routes_run`).
-/

namespace Gatehouse

/-! ## Flights -/

/-- A request that has arrived at a router, with the reply that is returned. -/
structure Flight where
  router : Router Handler
  moment : Moment
  request : Request
  reply : Reply
  isCut : Bool := false

namespace Flight

/-- Where the request goes. -/
def dispatch (f : Flight) : Dispatch Handler :=
  f.router.dispatch f.request.method f.request.path

/-- The template that the path of the request matches. -/
def template? (f : Flight) : Option String :=
  (f.router.resource? f.request.path).map Resource.path

/-- The labels of the request : its method, the template, and the status that is returned. -/
def labels (f : Flight) : Labels :=
  ⟨f.request.method, f.template?.getD unmatchedTemplate, f.reply.response.status.code⟩

/-- What is observed once it is completed. -/
def observation (f : Flight) : Observation :=
  Server.observation f.dispatch f.moment f.request f.reply.response

theorem template_dispatch (f : Flight) :
    f.dispatch.template = f.template?.getD unmatchedTemplate := by
  rw [dispatch, template?, Router.dispatch]
  cases f.router.resource? f.request.path with
  | none => rfl
  | some resource =>
    cases hentry : resource.entry? f.request.method <;> simp only [hentry] <;> rfl

theorem labels_observation (f : Flight) : f.observation.labels = f.labels := by
  rw [observation, Server.observation, Observation.labels, labels, template_dispatch]

end Flight

/-! ## Traffic -/

namespace Server

variable {σ : Type} [MeasureSink σ]

/-- A request that arrives, and is cut off after some of the measurements of its handler, if so. -/
def launch (s : Server σ) (router : Router Handler) (m : Moment) (r : Request) (cut : Option Nat) :
    Flight :=
  let reply := s.reply (router.dispatch r.method r.path) m r
  match cut with
  | none => { router, moment := m, request := r, reply }
  | some taken =>
    { router, moment := m, request := r, isCut := true
      reply := { reply.cutOff with measures := reply.measures.take taken } }

/-- What a history makes of a table depends on nothing but the table. -/
theorem routes_registerEach_congr {σ τ : Type} : ∀ {s : Server σ} {s' : Server τ},
    s.routes = s'.routes → ∀ rs : List Registration,
      (s.registerEach rs).routes = (s'.registerEach rs).routes
  | _, _, h, [] => h
  | s, s', h, r :: rs => by
    rw [registerEach_cons, registerEach_cons]
    cases RoutePattern.ofString r.pattern with
    | error e => exact routes_registerEach_congr h rs
    | ok p => exact routes_registerEach_congr (congrArg (·.insert p r.route) h) rs

end Server

/-- A server with its requests in flight, and with those that it has completed. -/
structure Traffic (σ : Type) where
  server : Server σ
  inFlight : List Flight := []
  completed : List Flight := []

namespace Traffic

/-- Something that happens to a server. -/
inductive Step
  | register (r : Registration)
  | become (service : Service)
  | arrive (m : Moment) (r : Request) (cut : Option Nat)
  | complete (n : Nat)

/-- What is registered. -/
def Step.registrations : Step → List Registration
  | .register r => [r]
  | _ => []

/-- All that is registered, in order. -/
def history (steps : List Step) : List Registration :=
  steps.flatMap Step.registrations

/-- All requests that have arrived. -/
def flights {σ : Type} (t : Traffic σ) : List Flight :=
  t.inFlight ++ t.completed

/-- The number of requests that have been completed with some labels. -/
def completions {σ : Type} (t : Traffic σ) (l : Labels) : Nat :=
  (t.completed.map Flight.labels).count l

variable {σ : Type} [MeasureSink σ]

/-- What becomes of it. Without a router no request arrives. -/
def step (t : Traffic σ) : Step → Traffic σ
  | .register r => { t with server := t.server.registerEach [r] }
  | .become service => { t with server := { t.server with service } }
  | .arrive m r cut =>
    match t.server.router? with
    | none => t
    | some router =>
      let f := t.server.launch router m r cut
      { t with server := t.server.measured f.reply.measures, inFlight := t.inFlight ++ [f] }
  | .complete n =>
    match t.inFlight[n]? with
    | none => t
    | some f =>
      { server := t.server.measured [.request f.observation]
        inFlight := t.inFlight.eraseIdx n
        completed := t.completed ++ [f] }

/-- What becomes of it step by step. -/
def run (t : Traffic σ) (steps : List Step) : Traffic σ :=
  steps.foldl step t

theorem run_cons (t : Traffic σ) (step : Step) (steps : List Step) :
    t.run (step :: steps) = (t.step step).run steps :=
  rfl

/-- What every step preserves holds after all of them. -/
theorem run_induction {I : Traffic σ → Prop} : ∀ {steps : List Step} {t : Traffic σ},
    (∀ x ∈ steps, ∀ u, I u → I (u.step x)) → I t → I (t.run steps)
  | [], _, _, h => h
  | x :: steps, t, hstep, h => by
    obtain ⟨hx, hsteps⟩ := List.forall_mem_cons.mp hstep
    rw [run_cons]
    exact run_induction hsteps (hx t h)

/-- A request that arrives is in flight, and its handler has measured. -/
theorem step_arrive {t : Traffic σ} {router : Router Handler} (h : t.server.router? = some router)
    (m : Moment) (r : Request) (cut : Option Nat) :
    t.step (.arrive m r cut) =
      { t with
        server := t.server.measured (t.server.launch router m r cut).reply.measures
        inFlight := t.inFlight ++ [t.server.launch router m r cut] } := by
  rw [step, h]

/-- A request that is completed is observed. -/
theorem step_complete {t : Traffic σ} {n : Nat} {f : Flight} (h : t.inFlight[n]? = some f) :
    t.step (.complete n) =
      { server := t.server.measured [.request f.observation]
        inFlight := t.inFlight.eraseIdx n
        completed := t.completed ++ [f] } := by
  rw [step, h]

theorem flights_register (t : Traffic σ) (r : Registration) :
    (t.step (.register r)).flights = t.flights := by
  rw [step, flights, flights]

theorem flights_arrive {t : Traffic σ} {router : Router Handler}
    (h : t.server.router? = some router) (m : Moment) (r : Request) (cut : Option Nat) :
    (t.step (.arrive m r cut)).flights.Perm (t.server.launch router m r cut :: t.flights) := by
  rw [step_arrive h, flights, List.append_assoc]
  exact List.perm_middle

/-- The requests remain the same, in some order. -/
theorem flights_complete {t : Traffic σ} {n : Nat} {f : Flight} (h : t.inFlight[n]? = some f) :
    (t.step (.complete n)).flights.Perm t.flights := by
  obtain ⟨hn, rfl⟩ := List.getElem?_eq_some_iff.mp h
  rw [step_complete h, flights, flights, ← List.append_assoc]
  refine (List.perm_append_singleton _ _).trans ?_
  exact (List.getElem_cons_eraseIdx_perm hn).append_right _

/-- A step does to the table what its registrations do. -/
theorem routes_step (t : Traffic σ) (x : Step) :
    (t.step x).server.routes = (t.server.registerEach x.registrations).routes := by
  cases x with
  | register r => rfl
  | become service => rfl
  | arrive m r cut =>
    cases hrouter : t.server.router? with
    | none =>
      rw [step, hrouter]
      rfl
    | some router =>
      rw [step_arrive hrouter]
      rfl
  | complete n =>
    cases hflight : t.inFlight[n]? with
    | none =>
      rw [step, hflight]
      rfl
    | some f =>
      rw [step_complete hflight]
      rfl

/-- The table is made by the registrations, whatever happens in between. -/
theorem routes_run : ∀ (steps : List Step) (t : Traffic σ),
    (t.run steps).server.routes = (t.server.registerEach (history steps)).routes
  | [], _ => rfl
  | x :: steps, t => by
    have hhistory : history (x :: steps) = x.registrations ++ history steps := List.flatMap_cons
    rw [run_cons, routes_run steps, hhistory, Server.registerEach_append]
    exact Server.routes_registerEach_congr (routes_step t x) (history steps)

end Traffic

end Gatehouse
