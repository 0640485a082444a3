import Gatehouse.Proofs.Server.Gate
import Mathlib.Data.List.Induction

/-!
# Readiness

While a server runs it is asked to go on in its life, the program around it changes its mind about
its own readiness, and requests come in, all in any order (`Service.Step`). A request changes
nothing of that (`Server.step_eq`). So life is in the furthest state that was asked for, whatever
was asked first or twice (`Service.isFurthest_run`), and the program is as willing as it said last
(`Service.willing_run`). Both decide what `GET /readiness` is told, and neither what `GET /health`
is told (`Server.isProbed_run`).
-/

namespace Gatehouse

/-! ## States of life -/

namespace Lifecycle

/-- How far a state is ahead of the first. -/
def rank : Lifecycle → Nat
  | .running => 0
  | .shuttingDown => 1
  | .stopped => 2

theorem rank_inj {a b : Lifecycle} (h : a.rank = b.rank) : a = b := by
  revert h
  cases a <;> cases b <;> decide

theorem isAhead_iff {next current : Lifecycle} :
    next.isAhead current = true ↔ current.rank < next.rank := by
  cases current <;> cases next <;> decide

/-- To advance is to go to the higher rank of the two. -/
theorem rank_advance (a b : Lifecycle) : (a.advance b).rank = max a.rank b.rank := by
  unfold advance
  split_ifs with h
  · exact (Nat.max_eq_right (isAhead_iff.mp h).le).symm
  · exact (Nat.max_eq_left (not_lt.mp (mt isAhead_iff.mpr h))).symm

theorem advance_eq_or (a b : Lifecycle) : a.advance b = a ∨ a.advance b = b := by
  unfold advance
  split_ifs
  · exact Or.inr rfl
  · exact Or.inl rfl

/-- One of some states, that no other of them lies ahead of. -/
structure IsFurthest (l : Lifecycle) (ls : List Lifecycle) : Prop where
  mem : l ∈ ls
  le : ∀ k ∈ ls, k.rank ≤ l.rank

variable {l l' : Lifecycle} {ls ls' : List Lifecycle}

/-- The furthest state does not depend on the order of the states, nor on how often they occur. -/
theorem IsFurthest.eq (h : l.IsFurthest ls) (h' : l'.IsFurthest ls')
    (hmem : ∀ k, k ∈ ls ↔ k ∈ ls') : l = l' :=
  rank_inj (Nat.le_antisymm (h'.le l ((hmem l).mp h.mem)) (h.le l' ((hmem l').mpr h'.mem)))

/-- A step leads to the furthest of the states with one more. -/
theorem IsFurthest.advance (h : l.IsFurthest ls) (next : Lifecycle) :
    (l.advance next).IsFurthest (ls ++ [next]) := by
  refine ⟨?_, ?_⟩
  · rcases l.advance_eq_or next with heq | heq <;> rw [heq]
    · exact List.mem_append_left _ h.mem
    · exact List.mem_append_right _ (List.mem_singleton_self next)
  · intro k hk
    rw [rank_advance]
    rcases List.mem_append.mp hk with hk | hk
    · exact (h.le k hk).trans (Nat.le_max_left _ _)
    · rw [List.mem_singleton.mp hk]
      exact Nat.le_max_right _ _

/-- The furthest state is the first one only if no other occurs. -/
theorem IsFurthest.eq_running_iff (h : l.IsFurthest ls) :
    l = .running ↔ ∀ k ∈ ls, k = .running := by
  refine ⟨?_, fun hall => hall l h.mem⟩
  rintro rfl k hk
  exact rank_inj (Nat.le_zero.mp (h.le k hk))

end Lifecycle

/-! ## Steps -/

namespace Service

/-- Something that happens to a server while it runs : it is asked to go on in its life, the program
around it says whether it is willing, or a request comes in. -/
inductive Step
  | advance (next : Lifecycle)
  | say (willing : Bool)
  | request (m : Moment) (r : Request)

/-- The state that is asked for. -/
def Step.requested? : Step → Option Lifecycle
  | .advance next => some next
  | _ => none

/-- What the program says of itself. -/
def Step.said? : Step → Option Bool
  | .say willing => some willing
  | _ => none

/-- The states that are asked for, in order. -/
def requested (steps : List Step) : List Lifecycle :=
  steps.filterMap Step.requested?

/-- What the program has said last, or else what it said before. -/
def lastSaid (before : Bool) (steps : List Step) : Bool :=
  (steps.filterMap Step.said?).getLast?.getD before

theorem requested_append (before after : List Step) :
    requested (before ++ after) = requested before ++ requested after :=
  List.filterMap_append

/-- What handlers know after a step. -/
def step (s : Service) : Step → Service
  | .advance next => { s with lifecycle := s.lifecycle.advance next }
  | .say willing => { s with willing }
  | .request _ _ => s

def run (s : Service) (steps : List Step) : Service :=
  steps.foldl step s

variable {s : Service}

theorem run_append_singleton (s : Service) (steps : List Step) (x : Step) :
    s.run (steps ++ [x]) = (s.run steps).step x := by
  simp [run]

/-- Life is in the furthest state that was asked for. -/
theorem isFurthest_run (h : s.lifecycle = .running) (steps : List Step) :
    (s.run steps).lifecycle.IsFurthest (.running :: requested steps) := by
  induction steps using List.reverseRecOn with
  | nil => exact ⟨by simp [run, h], by simp [requested, run, h]⟩
  | append_singleton steps x ih =>
    rw [run_append_singleton]
    cases x with
    | advance next => simpa [requested, Step.requested?, step] using ih.advance next
    | say willing => simpa [requested, Step.requested?, step, List.filterMap_cons] using ih
    | request m r => simpa [requested, Step.requested?, step, List.filterMap_cons] using ih

/-- The program is as willing as it said last. -/
theorem willing_run (s : Service) (steps : List Step) :
    (s.run steps).willing = lastSaid s.willing steps := by
  induction steps using List.reverseRecOn with
  | nil => rfl
  | append_singleton steps x ih =>
    rw [run_append_singleton]
    cases x with
    | advance next => simpa [lastSaid, Step.said?, step] using ih
    | say willing => simp [lastSaid, Step.said?, step]
    | request m r => simpa [lastSaid, Step.said?, step] using ih

theorem isReady_iff (s : Service) :
    s.isReady = true ↔ s.lifecycle = .running ∧ s.willing = true := by
  simp [isReady]

/-- A service is ready as long as nothing but running was asked for and the program is willing. -/
theorem isReady_run_iff (h : s.lifecycle = .running) (steps : List Step) :
    (s.run steps).isReady = true ↔
      (∀ l ∈ requested steps, l = .running) ∧ lastSaid s.willing steps = true := by
  rw [isReady_iff, (isFurthest_run h steps).eq_running_iff, willing_run]
  simp

end Service

namespace Server

open Service (Step requested lastSaid)

variable {σ : Type} [MeasureSink σ]

/-- The server after a step. -/
def step (s : Server σ) : Step → Server σ
  | .request m r => ((s.respond m r).map Prod.snd).getD s
  | x => { s with service := s.service.step x }

def run (s : Server σ) (steps : List Step) : Server σ :=
  steps.foldl step s

/-- A step changes nothing but what handlers know and what is measured, and a request only the
latter. -/
theorem step_eq (s : Server σ) (x : Step) :
    ∃ sink, s.step x = { s with sink, service := s.service.step x } := by
  cases x with
  | advance next => exact ⟨s.sink, rfl⟩
  | say willing => exact ⟨s.sink, rfl⟩
  | request m r =>
    unfold step respond
    cases s.router? with
    | none => exact ⟨s.sink, rfl⟩
    | some router => exact ⟨_, rfl⟩

/-- Steps of the service do to a server what they do to its service. -/
theorem service_run : ∀ (steps : List Step) (s : Server σ),
    (s.run steps).service = s.service.run steps
  | [], _ => rfl
  | x :: steps, s => by
    obtain ⟨sink, hx⟩ := step_eq s x
    have hsteps := service_run steps (s.step x)
    rw [hx] at hsteps
    rw [show s.run (x :: steps) = (s.step x).run steps from rfl, hx, hsteps]
    rfl

theorem routes_run : ∀ (steps : List Step) (s : Server σ), (s.run steps).routes = s.routes
  | [], _ => rfl
  | x :: steps, s => by
    obtain ⟨sink, hx⟩ := step_eq s x
    rw [show s.run (x :: steps) = (s.step x).run steps from rfl, routes_run steps, hx]

theorem router?_run (steps : List Step) (s : Server σ) : (s.run steps).router? = s.router? := by
  rw [router?, routes_run, router?]

/-! ## Probes -/

/-- How a server tells of itself after `steps`. -/
structure IsProbed (s : Server σ) (steps : List Step) : Prop where
  /-- Life is in the furthest state that was asked for. -/
  furthest : (s.run steps).service.lifecycle.IsFurthest (.running :: requested steps)
  /-- It makes no difference in which order the states were asked for, how often, and what happened
  in between. -/
  congr : ∀ others, (∀ l, l ∈ requested others ↔ l ∈ requested steps) →
    (s.run others).service.lifecycle = (s.run steps).service.lifecycle
  /-- Life does not go back. -/
  forward : ∀ more, (s.run steps).service.lifecycle.rank ≤
    (s.run (steps ++ more)).service.lifecycle.rank
  /-- Requests are wanted exactly as long as nothing but running was asked for and the program has
  said last that it is willing. -/
  readiness : ∀ m r, r.method = "GET" → r.path = "/readiness" →
    ∃ reply, ((s.run steps).respond m r).map Prod.fst = some reply ∧
      reply.response = .ofStatus
        (if (∀ l ∈ requested steps, l = .running) ∧ lastSaid s.service.willing steps = true
          then .ok else .unavailable)
  /-- Once something else was asked for they are never wanted again. -/
  leaving : (∃ l ∈ requested steps, l ≠ .running) → ∀ more m r, r.method = "GET" →
    r.path = "/readiness" → ∃ reply,
      ((s.run (steps ++ more)).respond m r).map Prod.fst = some reply ∧
        reply.response = .ofStatus .unavailable
  /-- The server is in good health all the time. -/
  health : ∀ m r, r.method = "GET" → r.path = "/health" →
    ∃ reply, ((s.run steps).respond m r).map Prod.fst = some reply ∧
      reply.response = .ofStatus .ok

/-- The route that tells whether requests are wanted, as it is in every server at first. -/
def readinessRoute : RoutePattern × Route Handler :=
  (⟨some .get, "/readiness"⟩, ⟨Handler.readiness, false⟩)

/-- The route that tells that a server lives, as it is in every server at first. -/
def healthRoute : RoutePattern × Route Handler :=
  (⟨some .get, "/health"⟩, ⟨Handler.health, false⟩)

section Routes

variable {s : Server σ} {router : Router Handler} (hrouter : s.router? = some router) {m : Moment}
  {r : Request} (hmethod : r.method = "GET")

include hrouter hmethod

/-- Requests for readiness are answered by the handler for it. -/
theorem map_fst_respond_readiness (h : s.routes.get? readinessRoute.1 = some readinessRoute.2)
    (hpath : r.path = "/readiness") :
    (s.respond m r).map Prod.fst = some (Handler.readiness (s.call m r)) := by
  have htemplate : Template.ofPath? "/readiness" =
      some (Template.literals "/readiness".toList) := by
    decide
  exact map_fst_respond_of_literal hrouter htemplate (Routes.answer?_of_get? h) rfl m hmethod hpath
    rfl

theorem map_fst_respond_health (h : s.routes.get? healthRoute.1 = some healthRoute.2)
    (hpath : r.path = "/health") :
    (s.respond m r).map Prod.fst = some (Handler.health (s.call m r)) := by
  have htemplate : Template.ofPath? "/health" = some (Template.literals "/health".toList) := by
    decide
  exact map_fst_respond_of_literal hrouter htemplate (Routes.answer?_of_get? h) rfl m hmethod hpath
    rfl

end Routes

variable {plan : ServerPlan σ} {now : Instant} {s : Server σ} {events : List LogEvent}
  {rs : List Registration} {router : Router Handler}

omit [MeasureSink σ] in
/-- A server is built running, and no registration stops it. -/
theorem lifecycle_of_build (h : plan.build now = .ok (s, events)) (rs : List Registration) :
    (s.registerEach rs).service.lifecycle = .running := by
  rw [registerEach_of_build h, registerEach_eq]
  rfl

/-- Readiness is answered by what has been requested, and by what was said last. -/
theorem response_readiness (hstart : s.service.lifecycle = .running)
    (hrouter : s.router? = some router)
    (hreadiness : s.routes.get? readinessRoute.1 = some readinessRoute.2) (steps : List Step)
    (m : Moment) {r : Request} (hmethod : r.method = "GET") (hpath : r.path = "/readiness") :
    ∃ reply, ((s.run steps).respond m r).map Prod.fst = some reply ∧
      reply.response = .ofStatus
        (if (∀ l ∈ requested steps, l = .running) ∧ lastSaid s.service.willing steps = true
          then .ok else .unavailable) := by
  refine ⟨_, map_fst_respond_readiness ((router?_run steps s).trans hrouter) hmethod
    (by rw [routes_run]; exact hreadiness) hpath, ?_⟩
  have hcall : ((s.run steps).call m r).service = s.service.run steps := service_run steps s
  simp only [← Service.isReady_run_iff hstart, ← hcall]
  rfl

/-- Whatever is registered beside the two routes, and whatever happens to the server, in any
order. -/
theorem isProbed_run (h : plan.build now = .ok (s, events))
    (hrouter : (s.registerEach rs).router? = some router)
    (hreadiness : (s.registerEach rs).routes.get? readinessRoute.1 = some readinessRoute.2)
    (hhealth : (s.registerEach rs).routes.get? healthRoute.1 = some healthRoute.2)
    (steps : List Step) : (s.registerEach rs).IsProbed steps := by
  have hstart := lifecycle_of_build h rs
  generalize s.registerEach rs = t at *
  have hfurthest : ∀ steps, (t.run steps).service.lifecycle.IsFurthest
      (.running :: requested steps) := by
    intro steps
    rw [service_run]
    exact Service.isFurthest_run hstart steps
  refine ⟨hfurthest steps, fun others hothers => ?_, fun more => ?_, fun m r => ?_, ?_, ?_⟩
  · refine (hfurthest others).eq (hfurthest steps) fun l => ?_
    rw [List.mem_cons, List.mem_cons, hothers]
  · refine (hfurthest (steps ++ more)).le _ ?_
    rw [Service.requested_append, ← List.cons_append]
    exact List.mem_append_left _ (hfurthest steps).mem
  · exact response_readiness hstart hrouter hreadiness steps m
  · rintro ⟨l, hl, hne⟩ more m r hmethod hpath
    obtain ⟨reply, hreply, hresponse⟩ :=
      response_readiness hstart hrouter hreadiness (steps ++ more) m hmethod hpath
    refine ⟨reply, hreply, ?_⟩
    rw [hresponse, if_neg]
    rintro ⟨hall, -⟩
    refine hne (hall l ?_)
    rw [Service.requested_append]
    exact List.mem_append_left _ hl
  · intro m r hmethod hpath
    exact ⟨_, map_fst_respond_health ((router?_run steps t).trans hrouter) hmethod
      (by rw [routes_run]; exact hhealth) hpath, rfl⟩

/-- Requests are wanted again once the program is willing again, but not once the server shuts down,
even if it is asked to run again. -/
theorem isProbed_run_small :
    (∃ reply,
      (((small.registerEach smallHistory).run [.say false, .advance .running, .say true]).respond
        ⟨Instant.epoch, "t", "1", none, ⟨0⟩⟩ ⟨"GET", "/readiness", [], []⟩).map Prod.fst =
          some reply ∧ reply.response.status = .ok) ∧
    (∃ reply,
      (((small.registerEach smallHistory).run
          ([.advance .shuttingDown] ++ [.advance .running, .say true])).respond
        ⟨Instant.epoch, "t", "2", none, ⟨0⟩⟩ ⟨"GET", "/readiness", [], []⟩).map Prod.fst =
          some reply ∧ reply.response.status = .unavailable) := by
  obtain ⟨events, hbuild⟩ := build_small
  have hprobed := isProbed_run hbuild router?_small rfl rfl
  have hready : Request.path ⟨"GET", "/readiness", [], []⟩ = "/readiness" := by decide
  refine ⟨?_, ?_⟩
  · obtain ⟨reply, hreply, hresponse⟩ :=
      (hprobed [.say false, .advance .running, .say true]).readiness
        ⟨Instant.epoch, "t", "1", none, ⟨0⟩⟩ ⟨"GET", "/readiness", [], []⟩ rfl hready
    exact ⟨reply, hreply, by rw [hresponse]; decide⟩
  · obtain ⟨reply, hreply, hresponse⟩ := (hprobed [.advance .shuttingDown]).leaving
      ⟨.shuttingDown, by decide, by decide⟩ [.advance .running, .say true]
      ⟨Instant.epoch, "t", "2", none, ⟨0⟩⟩ ⟨"GET", "/readiness", [], []⟩ rfl hready
    exact ⟨reply, hreply, by rw [hresponse]; rfl⟩

end Server

end Gatehouse
