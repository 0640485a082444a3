import Gatehouse.Proofs.Metrics.Body
import Gatehouse.Proofs.Server.Measures

/-!
# Conservation of metrics

Whatever happens to a server with a registry, and however many requests are in flight meanwhile :
the registry counts the requests that have been completed, each of them once, in the series of its
own method, template and status, and in all four families alike. What handlers observe on their own
comes on top, and nothing else does (`Traffic.IsConserved`). The counters of the root page and of
unmatched requests agree with what has answered, up to what handlers count into them on their own,
unless a request has been cut off.

The families are counted when a request is completed, and the counters when it arrives. So the
invariant that goes from step to step speaks of the completed requests for the former, and of all
that have arrived for the latter (`Traffic.IsSound`). The order in which the families have been
counted is that of the steps, and not that of the requests : they are tallies up to order.
-/

namespace Gatehouse

/-! ## The exposition -/

namespace Server

variable {σ : Type} [MeasureSink σ] {plan : ServerPlan σ} {now : Instant} {s t : Server σ}
  {events : List LogEvent} {rs : List Registration} {router : Router Handler} {m : Moment}
  {r : Request} {body : String}

theorem reply_metrics {e : Route Handler} (hhandler : e.handler = Handler.metrics) {c : Call}
    (hbody : c.exposition = some body)
    (hpassed : e.isProtected = true → ∃ claims,
      Gate.check c.service.codec c.moment.systemNow c.request.headers = .ok claims) :
    (e.reply c).delay = ⟨0⟩ ∧
      (e.reply c).response = { status := .ok, contentType := some .exposition, body } := by
  cases hprotected : e.isProtected with
  | false =>
    rw [Route.reply_of_unguarded hprotected, hhandler, Handler.metrics, hbody]
    exact ⟨rfl, rfl⟩
  | true =>
    obtain ⟨claims, hclaims⟩ := hpassed hprotected
    rw [Route.reply_of_passed hprotected hclaims, hhandler, Handler.metrics, hbody]
    exact ⟨rfl, rfl⟩

/-- The exposition is returned by the handler for it, if that is the last to be registered. -/
theorem response_metrics (h : plan.build now = .ok (s, events))
    (hroutes : t.routes = (s.registerEach rs).routes) {last : Registration}
    (hlast : Registration.answering? (defaultRoutes ++ rs) "/metrics" .get = some last)
    (hhandler : last.handler = Handler.metrics) (hrouter : t.router? = some router)
    (hmethod : r.method = "GET") (hpath : r.path = "/metrics")
    (hpassed : last.isProtected = true → ∃ claims,
      Gate.check t.service.codec m.systemNow r.headers = .ok claims)
    (hbody : MeasureSink.exposition? t.sink = some body) :
    (t.launch router m r none).reply.response =
      { status := .ok, contentType := some .exposition, body } := by
  have htemplate : Template.ofPath? "/metrics" = some (Template.literals "/metrics".toList) := by
    decide
  have hanswer : t.routes.answer? "/metrics" .get = some last.route := by
    rw [hroutes, answer?_of_build h, hlast]
    rfl
  obtain ⟨hdelay, hresponse⟩ := reply_metrics (e := last.route) (c := t.call m r) hhandler hbody
    hpassed
  rw [launch, reply_of_literal hrouter htemplate hanswer m hmethod hpath,
    Reply.within_of_delay (congrArg Span.nanos hdelay)]
  exact hresponse

end Server

namespace Traffic

/-! ## The invariant -/

/-- All entries of the server have a property, and so have those that have answered. -/
structure Admits {σ : Type} (P : Route Handler → Prop) (t : Traffic σ) : Prop where
  server : t.server.Admits P
  flights : ∀ f ∈ t.flights, f.dispatch.Meets P

/-- What all entries have, and all that have answered, is kept if what is registered has it. -/
theorem Admits.step {σ : Type} [MeasureSink σ] {P : Route Handler → Prop} {t : Traffic σ}
    (h : t.Admits P) {x : Step} (hx : ∀ r ∈ x.registrations, P r.route) :
    (t.step x).Admits P := by
  refine ⟨(h.server.registerEach hx).of_routes_eq (routes_step t x), ?_⟩
  cases x with
  | register r =>
    rw [flights_register]
    exact h.flights
  | become service => exact h.flights
  | arrive m r cut =>
    cases hrouter : t.server.router? with
    | none =>
      rw [Traffic.step, hrouter]
      exact h.flights
    | some router =>
      intro f hf
      rcases List.mem_cons.mp ((flights_arrive hrouter m r cut).mem_iff.mp hf) with rfl | hf
      · rw [Server.dispatch_launch]
        exact h.server.meets hrouter r.method r.path
      · exact h.flights f hf
  | complete n =>
    cases hflight : t.inFlight[n]? with
    | none =>
      rw [Traffic.step, hflight]
      exact h.flights
    | some f => exact fun g hg => h.flights g ((flights_complete hflight).mem_iff.mp hg)

/-- What handlers have measured on their own. -/
noncomputable def own {σ : Type} (t : Traffic σ) : List Measure :=
  t.flights.flatMap Flight.own

/-- The labels of the requests that handlers have observed on their own. -/
noncomputable def observed {σ : Type} (t : Traffic σ) : List Labels :=
  t.own.filterMap Measure.labels?

/-- The number of requests with some labels that have been completed, or that handlers have observed
on their own. -/
noncomputable def observations {σ : Type} (t : Traffic σ) (l : Labels) : Nat :=
  t.completions l + t.observed.count l

variable {t : Traffic Registry}

/-- What holds of traffic at all times : the families count what is completed and what handlers
observe, and the two counters what has been measured for all that has arrived. -/
structure IsSound (t : Traffic Registry) : Prop where
  flights : ∀ f ∈ t.flights, f.IsSound
  counts : ∃ ls, ls.Perm (t.completed.map Flight.labels ++ t.observed) ∧ t.server.sink.Counts ls
  rootGets : t.server.sink.rootGets = (Flight.measures t.flights).count .rootGet
  notFounds : t.server.sink.notFounds = (Flight.measures t.flights).count .notFound

/-- A registration is nothing that the registry sees. -/
theorem IsSound.register (h : t.IsSound) (r : Registration) : (t.step (.register r)).IsSound := by
  have hsink : (t.step (.register r)).server.sink = t.server.sink := by
    rw [step, Server.registerEach_eq]
  have hflights := flights_register t r
  have hobserved : (t.step (.register r)).observed = t.observed := by
    rw [observed, own, hflights]
    rfl
  constructor
  · rw [hflights]
    exact h.flights
  · rw [hsink, hobserved, step]
    exact h.counts
  · rw [hsink, hflights]
    exact h.rootGets
  · rw [hsink, hflights]
    exact h.notFounds

/-- What the service becomes is nothing that the registry sees. -/
theorem IsSound.become (h : t.IsSound) (service : Service) : (t.step (.become service)).IsSound :=
  ⟨h.flights, h.counts, h.rootGets, h.notFounds⟩

/-- A request that arrives brings the measurements of its handler into the counters, and those
among them that observe requests into the families. -/
theorem IsSound.arrive (h : t.IsSound) {P : Route Handler → Prop} (hadmits : t.server.Admits P)
    (m : Moment) (r : Request) (cut : Option Nat) : (t.step (.arrive m r cut)).IsSound := by
  cases hrouter : t.server.router? with
  | none =>
    rw [step, hrouter]
    exact h
  | some router =>
    have hflight := Server.isSound_launch hadmits hrouter m r cut
    have hperm := flights_arrive hrouter m r cut
    -- The order of the flights makes no difference to what is counted over them.
    have hmeasures (k : Measure) : (Flight.measures (t.step (.arrive m r cut)).flights).count k =
        (Flight.measures t.flights).count k +
          (t.server.launch router m r cut).reply.measures.count k := by
      rw [Nat.add_comm, ← List.count_append, ← Flight.measures_cons]
      exact (Flight.perm_measures hperm).count_eq k
    have hobserved : (t.step (.arrive m r cut)).observed.Perm
        ((t.server.launch router m r cut).own.filterMap Measure.labels? ++ t.observed) := by
      rw [observed, observed, ← List.filterMap_append]
      exact (hperm.flatMap_right _).filterMap _
    have hstep := step_arrive hrouter m r cut
    constructor
    · intro f hf
      rcases List.mem_cons.mp (hperm.mem_iff.mp hf) with rfl | hf
      · exact hflight
      · exact h.flights f hf
    · obtain ⟨ls, hls, hcounts⟩ := h.counts
      rw [hstep] at hobserved ⊢
      refine ⟨_, ?_, hcounts.recordAll⟩
      rw [hflight.requests]
      refine (hls.append_right _).trans ?_
      rw [List.append_assoc]
      exact (List.perm_append_comm.trans hobserved.symm).append_left _
    · rw [hmeasures, ← h.rootGets, hstep]
      exact Registry.rootGets_recordAll _ _
    · rw [hmeasures, ← h.notFounds, hstep]
      exact Registry.notFounds_recordAll _ _

/-- A request that is completed is counted in the families once, and nowhere else. -/
theorem IsSound.complete (h : t.IsSound) (n : Nat) : (t.step (.complete n)).IsSound := by
  cases hflight : t.inFlight[n]? with
  | none =>
    rw [step, hflight]
    exact h
  | some f =>
    have hperm := flights_complete hflight
    have hmeasures := Flight.perm_measures hperm
    have hobserved : (t.step (.complete n)).observed.Perm t.observed :=
      (hperm.flatMap_right _).filterMap _
    have hstep := step_complete hflight
    constructor
    · exact fun g hg => h.flights g (hperm.mem_iff.mp hg)
    · obtain ⟨ls, hls, hcounts⟩ := h.counts
      have hlabels : [f].map Flight.labels = [f.observation.labels] := by
        rw [Flight.labels_observation]
        rfl
      rw [hstep] at hobserved ⊢
      refine ⟨_, ?_, hcounts.observe f.observation⟩
      rw [List.map_append, hlabels, List.append_assoc]
      refine (hls.append_right _).trans ?_
      rw [List.append_assoc]
      exact (List.perm_append_comm.trans (hobserved.symm.append_left _)).append_left _
    · rw [hmeasures.count_eq, ← h.rootGets, hstep]
      rfl
    · rw [hmeasures.count_eq, ← h.notFounds, hstep]
      rfl

/-- Every step keeps the account. -/
theorem IsSound.step (h : t.IsSound) {P : Route Handler → Prop} (hadmits : t.server.Admits P)
    (x : Step) : (t.step x).IsSound := by
  cases x with
  | register r => exact h.register r
  | become service => exact h.become service
  | arrive m r cut => exact h.arrive hadmits m r cut
  | complete n => exact h.complete n

/-- Every list that the registry has counted is one of the completed requests and of those that
handlers have observed, in some order. -/
theorem IsSound.exists_tally (h : t.IsSound) : ∃ ls, t.server.sink.Counts ls ∧
    (∀ l, ls.count l = t.observations l) ∧ (∀ l, l ∈ ls ↔ (∃ f ∈ t.completed, f.labels = l) ∨
      l ∈ t.observed) ∧
    ∀ p : Labels → Bool, ls.countP p =
      (t.completed.countP fun f => p f.labels) + t.observed.countP p := by
  obtain ⟨ls, hls, hcounts⟩ := h.counts
  refine ⟨ls, hcounts, fun l => ?_, fun l => ?_, fun p => ?_⟩
  · rw [hls.count_eq, List.count_append, observations, completions]
  · rw [hls.mem_iff, List.mem_append, List.mem_map]
  · rw [hls.countP_eq, List.countP_append, List.countP_map]
    rfl

/-! ## From the beginning -/

variable {plan : ServerPlan Registry} {now : Instant} {s : Server Registry}
  {events : List LogEvent} {steps : List Step}

theorem mem_history {x : Step} {r : Registration} (hx : x ∈ steps) (hr : r ∈ x.registrations) :
    r ∈ history steps :=
  List.mem_flatMap.mpr ⟨x, hx, hr⟩

theorem admits_start {P : Route Handler → Prop} (h : plan.build now = .ok (s, events))
    (hdefault : ∀ r ∈ Server.defaultRoutes, P r.route) :
    (⟨s, [], []⟩ : Traffic Registry).Admits P :=
  ⟨Server.admits_of_build h hdefault, fun _ hf => absurd hf List.not_mem_nil⟩

theorem admits_run {P : Route Handler → Prop} (h : plan.build now = .ok (s, events))
    (hdefault : ∀ r ∈ Server.defaultRoutes, P r.route) (hhistory : ∀ r ∈ history steps, P r.route) :
    ((⟨s, [], []⟩ : Traffic Registry).run steps).Admits P :=
  run_induction (fun _ hx _ hu => hu.step fun r hr => hhistory r (mem_history hx hr))
    (admits_start h hdefault)

theorem isSound_start (h : plan.build now = .ok (s, events)) {app : String}
    (hsink : plan.sink = Registry.new app) : (⟨s, [], []⟩ : Traffic Registry).IsSound := by
  have hnew : s.sink = Registry.new app := by
    rw [Server.eq_registerEach_of_registerAll h, Server.registerEach_eq]
    exact hsink
  constructor
  · exact fun _ hf => absurd hf List.not_mem_nil
  · rw [hnew]
    exact ⟨[], List.Perm.refl _, Registry.counts_new app⟩
  · rw [hnew]
    rfl
  · rw [hnew]
    rfl

/-- The registry accounts for every run, whatever handlers are registered. -/
theorem isSound_run (h : plan.build now = .ok (s, events)) {app : String}
    (hsink : plan.sink = Registry.new app) (steps : List Step) :
    ((⟨s, [], []⟩ : Traffic Registry).run steps).IsSound := by
  -- Nothing is asked of the entries but that their paths begin with a slash.
  have hstep : ∀ x ∈ steps, ∀ u : Traffic Registry, (u.Admits fun _ => True) ∧ u.IsSound →
      ((u.step x).Admits fun _ => True) ∧ (u.step x).IsSound := by
    rintro x - u ⟨hadmits, hsound⟩
    exact ⟨hadmits.step fun _ _ => trivial, hsound.step hadmits.server x⟩
  have hstart := admits_start h (P := fun _ => True) fun _ _ => trivial
  exact (run_induction hstep ⟨hstart, isSound_start h hsink⟩).2

/-- Where the handlers that are registered measure nothing, but that of the root page, nothing has
been measured by a handler on its own. -/
theorem own_eq_nil {t : Traffic Registry} (hsound : t.IsSound)
    (hadmits : t.Admits Route.IsOrdinary) : t.own = [] :=
  List.flatMap_eq_nil_iff.mpr fun f hf =>
    (hsound.flights f hf).ordinary (hadmits.flights f hf)

/-! ## Conservation -/

open Exposition in
open Classical in
/-- How the registry accounts for traffic on a server with a history of registrations. -/
structure IsConserved (t : Traffic Registry) (registered : List Registration) : Prop where
  /-- There is a series for the labels of every request that has been completed or that a handler
  has observed on its own, with the number of requests that have these labels, and no other. -/
  series : ∀ l, t.server.sink.requests.get? l =
    if t.observations l = 0 then none else some (t.observations l)
  distinct : (t.server.sink.requests.map Prod.fst).Nodup
  /-- A request that is completed adds one to the series of its labels, and nothing to another. -/
  adds : ∀ n f, t.inFlight[n]? = some f → ∀ l,
    (t.step (.complete n)).server.sink.requests.get? l =
      if l = f.labels then some ((t.server.sink.requests.get? f.labels).getD 0 + 1)
      else t.server.sink.requests.get? l
  /-- The other families have the same series, with as many samples. -/
  durations : Family.counts Histogram.count t.server.sink.durations = t.server.sink.requests
  requestSizes : Family.counts Summary.count t.server.sink.requestSizes = t.server.sink.requests
  responseSizes : Family.counts Summary.count t.server.sink.responseSizes = t.server.sink.requests
  total : Family.total (fun _ => true) t.server.sink.requests =
    t.completed.length + t.observed.length
  /-- What is returned for `GET /metrics`, if it is still answered by the handler of metrics. -/
  body : ∀ last router m r,
    Registration.answering? (Server.defaultRoutes ++ registered) "/metrics" .get = some last →
      last.handler = Handler.metrics → t.server.router? = some router →
        r.method = "GET" → r.path = "/metrics" →
          (last.isProtected = true → ∃ claims,
            Gate.check t.server.service.codec m.systemNow r.headers = .ok claims) →
              (t.server.launch router m r none).reply.response =
                { status := .ok, contentType := some .exposition, body := t.server.sink.render }
  /-- Its lines have one with labels and a number exactly if so many requests have been completed,
  or observed by handlers on their own, with these labels. -/
  lines : ∀ l n, IsPlain l.method → IsPlain l.handler →
    ((requestLine (l, n)).toList ∈ t.server.sink.render.toList.splitOn '\n' ↔
      n = t.observations l ∧ n ≠ 0)
  /-- The counter of unmatched requests and the sum of their series differ by the requests in
  flight, and by what handlers have counted and observed on their own. -/
  unmatched : (∀ f ∈ t.flights, f.isCut = false) →
    t.server.sink.notFounds + t.observed.countP (fun l => l.handler = unmatchedTemplate) =
      Family.total (fun l => l.handler = unmatchedTemplate) t.server.sink.requests +
        (t.inFlight.countP fun f => f.labels.handler = unmatchedTemplate) + t.own.count .notFound
  /-- The counter of the root page is the number of requests that it has answered, and what handlers
  have counted on their own. -/
  rootPages : (∀ f ∈ t.flights, f.isCut = false) →
    t.server.sink.rootGets =
      t.flights.countP (fun f => f.dispatch.IsRootPage) + t.own.count .rootGet
  /-- Nothing is measured on their own by handlers that measure nothing, and by the root page. -/
  ordinary : (∀ r ∈ registered, r.route.IsOrdinary) → t.own = [] ∧ t.observed = []

open Classical in
/-- Whatever is registered before or between requests, and however many of them are in flight : the
registry accounts for the requests that have been completed, and for what handlers measure on their
own. -/
theorem isConserved_run (h : plan.build now = .ok (s, events)) {app : String}
    (hsink : plan.sink = Registry.new app) (steps : List Step) :
    ((⟨s, [], []⟩ : Traffic Registry).run steps).IsConserved (history steps) := by
  have hsound := isSound_run h hsink steps
  have hroutes := routes_run steps (⟨s, [], []⟩ : Traffic Registry)
  have hown : (∀ r ∈ history steps, r.route.IsOrdinary) →
      ((⟨s, [], []⟩ : Traffic Registry).run steps).own = [] := fun hhistory =>
    own_eq_nil hsound (admits_run h (fun _ => Server.isOrdinary_of_mem_defaultRoutes) hhistory)
  generalize (⟨s, [], []⟩ : Traffic Registry).run steps = t at *
  obtain ⟨ls, hcounts, hcount, -, hcountP⟩ := hsound.exists_tally
  have hrequests := hcounts.requests
  constructor
  · intro l
    rw [hrequests, Family.get?_tally, hcount]
  · rw [hrequests]
    exact Family.nodup_tally _
  · intro n f hflight l
    rw [step_complete hflight, ← Flight.labels_observation]
    exact Family.get?_bump f.observation.labels l t.server.sink.requests
  · rw [hcounts.durations, hrequests]
  · rw [hcounts.requestSizes, hrequests]
  · rw [hcounts.responseSizes, hrequests]
  · rw [hrequests, Family.total_tally, hcountP, List.countP_true, List.countP_true]
  · intro last router m r hlast hhandler hrouter hmethod hpath hpassed
    exact Server.response_metrics h hroutes hlast hhandler hrouter hmethod hpath hpassed rfl
  · intro l n hmethod hhandler
    rw [← hcount]
    exact Registry.mem_splitOn_render.trans (hcounts.mem_lines hmethod hhandler)
  · intro huncut
    have hmeasures := Flight.count_measures (k := .notFound)
      (p := fun f => f.labels.handler = unmatchedTemplate) fun f hf => by
        rw [(hsound.flights f hf).notFounds (huncut f hf)]
        simp only [decide_eq_true_eq]
    rw [hsound.notFounds, hmeasures, flights, List.countP_append, hrequests, Family.total_tally,
      hcountP, own, flights]
    omega
  · intro huncut
    have hmeasures := Flight.count_measures (k := .rootGet) (p := fun f => f.dispatch.IsRootPage)
      fun f hf => by
        rw [(hsound.flights f hf).rootGets (huncut f hf)]
        simp only [decide_eq_true_eq]
    rw [hsound.rootGets, hmeasures, own]
  · intro hhistory
    have hnone := hown hhistory
    exact ⟨hnone, by rw [observed, hnone, List.filterMap_nil]⟩

/-! ## A busy server -/

/-- The small plan with an empty registry. -/
def countingPlan : ServerPlan Registry :=
  { ServerPlan.small with sink := Registry.new "gatehouse" }

/-- The server of the plan as it is built. -/
def counting : Server Registry :=
  (countingPlan.bare Instant.epoch).registerEach Server.defaultRoutes

theorem exists_build_counting :
    ∃ events, countingPlan.build Instant.epoch = .ok (counting, events) :=
  ⟨_, rfl⟩

/-- Three requests, the second of which is completed first, and the third of which is in flight. -/
def busySteps : List Step :=
  [.register (Registration.rootPage ⟨"Gatehouse", ""⟩),
    .arrive ⟨Instant.epoch, "t", "1", none, ⟨0⟩⟩ ⟨"GET", "/", [], []⟩ none,
    .arrive ⟨Instant.epoch, "t", "2", none, ⟨0⟩⟩ ⟨"PUT", "/nowhere", [], []⟩ none,
    .complete 1,
    .arrive ⟨Instant.epoch, "t", "3", none, ⟨0⟩⟩ ⟨"HEAD", "/login", [], []⟩ none,
    .complete 0]

/-- Two of three requests are completed, and one of them is the root page. -/
theorem isConserved_run_busy :
    ((⟨counting, [], []⟩ : Traffic Registry).run busySteps).completed.map Flight.labels =
        [⟨"PUT", "not_found", 404⟩, ⟨"GET", "/", 200⟩] ∧
      ((⟨counting, [], []⟩ : Traffic Registry).run busySteps).server.sink.notFounds = 1 ∧
      ((⟨counting, [], []⟩ : Traffic Registry).run busySteps).server.sink.rootGets = 1 ∧
      ((⟨counting, [], []⟩ : Traffic Registry).run busySteps).IsConserved (history busySteps) := by
  obtain ⟨events, hbuild⟩ := exists_build_counting
  exact ⟨by decide +kernel, by decide +kernel, by decide +kernel, isConserved_run hbuild rfl _⟩

/-- A request that is answered by the handler for unmatched requests at a path of its own, on a
server that answers for its metrics in another way. -/
def strayedSteps : List Step :=
  [.register ⟨"GET /missing", Handler.notFound, false⟩,
    .register ⟨"GET /metrics", Handler.text "custom", false⟩,
    .arrive ⟨Instant.epoch, "t", "1", none, ⟨0⟩⟩ ⟨"GET", "/missing", [], []⟩ none,
    .complete 0]

/-- Nothing is in flight and nothing is cut off, and yet the counter of unmatched requests is not
the sum of their series, of which there is none; nor does the body of `GET /metrics` count the
request. -/
theorem notFounds_strayed :
    ((⟨counting, [], []⟩ : Traffic Registry).run strayedSteps).inFlight.length = 0 ∧
      (((⟨counting, [], []⟩ : Traffic Registry).run strayedSteps).completed.map fun f =>
        (f.isCut, f.labels)) = [(false, ⟨"GET", "/missing", 404⟩)] ∧
      ((⟨counting, [], []⟩ : Traffic Registry).run strayedSteps).server.sink.requests =
        [(⟨"GET", "/missing", 404⟩, 1)] ∧
      ((⟨counting, [], []⟩ : Traffic Registry).run strayedSteps).server.sink.notFounds = 1 ∧
      Family.total (fun l => l.handler = unmatchedTemplate)
        ((⟨counting, [], []⟩ : Traffic Registry).run strayedSteps).server.sink.requests = 0 ∧
      (((⟨counting, [], []⟩ : Traffic Registry).run strayedSteps).server.respond
        ⟨Instant.epoch, "t", "2", none, ⟨0⟩⟩ ⟨"GET", "/metrics", [], []⟩).map
          (fun answer => answer.1.response) = some (.text .ok "custom") := by
  decide +kernel

end Traffic

end Gatehouse
