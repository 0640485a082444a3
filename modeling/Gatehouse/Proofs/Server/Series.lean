import Gatehouse.Proofs.Server.Conservation
import Gatehouse.Proofs.Server.Mounting
import Mathlib.Data.List.Dedup
import Mathlib.Data.List.ProdSigma

/-!
# Series of requests

A series of the registry has three labels. Its template is that of a route, or the one that stands
for all paths without a route, and its status is a number of three digits. So a scan over paths
makes no more series than the table and the statuses give (`Traffic.IsLocated`). What handlers
observe on their own comes on top, with whatever labels they choose.

Its method is whatever has been sent. The series are bounded by the methods that are sent, the table
and the statuses that are returned, and by nothing less : there is one at least for each method, so
a scan over methods makes as many series as one likes (`Traffic.isScaled_run`).
-/

namespace Gatehouse

/-! ## Labels -/

/-- The codes of all statuses. -/
def Status.codes : List Nat :=
  List.range' 100 900

theorem Status.code_mem_codes (s : Status) : s.code ∈ codes :=
  List.mem_range'_1.mpr s.inRange

namespace Labels

/-- The labels with some methods, some templates and some statuses. -/
def among (methods templates : List String) (statuses : List Nat) : List Labels :=
  (methods ×ˢ templates ×ˢ statuses).map fun x => ⟨x.1, x.2.1, x.2.2⟩

theorem length_among (methods templates : List String) (statuses : List Nat) :
    (among methods templates statuses).length =
      methods.length * (templates.length * statuses.length) := by
  rw [among, List.length_map, List.length_product, List.length_product]

theorem mem_among {methods templates : List String} {statuses : List Nat} {l : Labels}
    (hmethod : l.method ∈ methods) (htemplate : l.handler ∈ templates)
    (hstatus : l.status ∈ statuses) : l ∈ among methods templates statuses := by
  refine List.mem_map.mpr ⟨(l.method, l.handler, l.status), ?_, rfl⟩
  simp [hmethod, htemplate, hstatus]

end Labels

theorem Family.mem_map_fst_tally {ls : List Labels} {l : Labels} :
    l ∈ (tally ls).map Prod.fst ↔ l ∈ ls := by
  simp [mem_tally, List.count_eq_zero]

/-! ## Templates -/

namespace Traffic

variable {σ : Type} [MeasureSink σ]

/-- The templates that requests can be observed with. -/
def templates (t : Traffic σ) : List String :=
  unmatchedTemplate :: t.server.routes.paths

/-- All requests are observed with the template of a route that there is, or with the one for paths
without a route. -/
def IsLocated (t : Traffic σ) : Prop :=
  ∀ f ∈ t.flights, f.labels.handler ∈ t.templates

/-- A request is counted at a path of the table, or as unmatched. -/
theorem template_mem_of_launch {s : Server σ} {router : Router Handler}
    (hrouter : s.router? = some router) (m : Moment) (r : Request) (cut : Option Nat) :
    (s.launch router m r cut).labels.handler ∈ unmatchedTemplate :: s.routes.paths := by
  have htemplate : (s.launch router m r cut).labels.handler =
      ((router.resource? r.path).map Resource.path).getD unmatchedTemplate := by
    cases cut <;> rfl
  rw [htemplate]
  cases hresource : router.resource? r.path with
  | none => exact List.mem_cons_self
  | some resource =>
    exact List.mem_cons_of_mem _
      (Routes.path_mem_paths hrouter (Router.mem_of_resource? hresource))

/-- Paths are never taken out of the table, so what has been counted at them stays located. -/
theorem IsLocated.step {t : Traffic σ} (h : t.IsLocated) (x : Step) : (t.step x).IsLocated := by
  cases x with
  | register r =>
    -- A table never loses a path.
    intro f hf
    rw [flights_register] at hf
    rcases List.mem_cons.mp (h f hf) with hnone | hpath
    · exact List.mem_cons.mpr (Or.inl hnone)
    · exact List.mem_cons_of_mem _ ((Server.mem_paths_registerEach [r] t.server).mpr (Or.inr hpath))
  | become service => exact h
  | arrive m r cut =>
    cases hrouter : t.server.router? with
    | none => rwa [Traffic.step, hrouter]
    | some router =>
      intro f hf
      have htemplates : (t.step (.arrive m r cut)).templates = t.templates := by
        rw [step_arrive hrouter]
        rfl
      rw [htemplates]
      rcases List.mem_cons.mp ((flights_arrive hrouter m r cut).mem_iff.mp hf) with rfl | hf
      · exact template_mem_of_launch hrouter m r cut
      · exact h f hf
  | complete n =>
    cases hflight : t.inFlight[n]? with
    | none => rwa [Traffic.step, hflight]
    | some f =>
      intro g hg
      have htemplates : (t.step (.complete n)).templates = t.templates := by
        rw [step_complete hflight]
        rfl
      rw [htemplates]
      exact h g ((flights_complete hflight).mem_iff.mp hg)

/-- All requests of a run are counted at paths that the table has at its end, or as unmatched. -/
theorem isLocated_run (s : Server σ) (steps : List Step) :
    ((⟨s, [], []⟩ : Traffic σ).run steps).IsLocated :=
  run_induction (fun x _ _ hu => hu.step x) fun _ hf => absurd hf List.not_mem_nil

/-! ## Scans -/

/-- Requests that arrive and are completed one after the other, while `n` others are in flight. -/
def scan (n : Nat) (m : Moment) (rs : List Request) : List Step :=
  rs.flatMap fun r => [.arrive m r none, .complete n]

/-- A request of a scan leaves what is in flight as it is. -/
theorem exists_of_arrive_complete {t : Traffic σ} {router : Router Handler}
    (h : t.server.router? = some router) (m : Moment) (r : Request) :
    ∃ server f, (t.step (.arrive m r none)).step (.complete t.inFlight.length) =
        ⟨server, t.inFlight, t.completed ++ [f]⟩ ∧
      server.routes = t.server.routes ∧ f.request = r := by
  have hlast (f : Flight) : (t.inFlight ++ [f])[t.inFlight.length]? = some f := by simp
  have hothers (f : Flight) : (t.inFlight ++ [f]).eraseIdx t.inFlight.length = t.inFlight := by
    simp [List.eraseIdx_append_of_length_le]
  rw [step_arrive h, step_complete (hlast _), hothers]
  exact ⟨_, t.server.launch router m r none, rfl, rfl, rfl⟩

/-- The requests of a scan are completed, in order. -/
theorem exists_completed_scan (m : Moment) {router : Router Handler} : ∀ (rs : List Request)
    {t : Traffic σ}, t.server.router? = some router →
      ∃ fs, (t.run (scan t.inFlight.length m rs)).completed = t.completed ++ fs ∧
        fs.map Flight.request = rs
  | [], t, _ => ⟨[], (List.append_nil _).symm, rfl⟩
  | r :: rs, t, h => by
    obtain ⟨server, f, hstep, hroutes, rfl⟩ := exists_of_arrive_complete h m r
    have hserver : server.router? = some router := by
      rw [Server.router?, hroutes]
      exact h
    obtain ⟨fs, hcompleted, rfl⟩ := exists_completed_scan m rs
      (t := ⟨server, t.inFlight, t.completed ++ [f]⟩) hserver
    refine ⟨f :: fs, ?_, rfl⟩
    have hscan : scan t.inFlight.length m (f.request :: fs.map Flight.request) =
        .arrive m f.request none :: .complete t.inFlight.length ::
          scan t.inFlight.length m (fs.map Flight.request) := rfl
    rw [hscan, run_cons, run_cons, hstep, hcompleted, List.append_assoc]
    rfl

/-! ## Numbers of series -/

/-- How many series the registry has. -/
structure IsScaled (t : Traffic Registry) : Prop where
  /-- Each series has the method and the status of a request that has been completed, and a template
  that there is, unless a handler has observed its labels on its own. -/
  labels : ∀ l ∈ t.server.sink.requests.map Prod.fst, l ∉ t.observed →
    l.handler ∈ t.templates ∧
      ∃ f ∈ t.completed, f.request.method = l.method ∧ f.reply.response.status.code = l.status
  /-- So there are no more than some methods and some statuses give, if no others have been sent and
  returned, and those that handlers have observed on their own. -/
  atMost : ∀ (methods : List String) (statuses : List Nat),
    (∀ f ∈ t.completed, f.request.method ∈ methods ∧ f.reply.response.status.code ∈ statuses) →
      t.server.sink.requests.length ≤
        methods.length * (t.templates.length * statuses.length) + t.observed.dedup.length
  /-- There are nine hundred statuses. -/
  atMostAny : ∀ methods : List String, (∀ f ∈ t.completed, f.request.method ∈ methods) →
    t.server.sink.requests.length ≤
      methods.length * (t.templates.length * 900) + t.observed.dedup.length
  /-- There is one at least for each method that has been sent. -/
  atLeast : ∀ methods : List String, methods.Nodup →
    (∀ method ∈ methods, ∃ f ∈ t.completed, f.request.method = method) →
      methods.length ≤ t.server.sink.requests.length

/-- The labels of all series are among those of the methods and statuses that have been sent and
returned, and those that handlers have observed. -/
theorem length_requests_le {t : Traffic Registry} (hsound : t.IsSound) (hlocated : t.IsLocated)
    {methods : List String} {statuses : List Nat}
    (hcompleted : ∀ f ∈ t.completed,
      f.request.method ∈ methods ∧ f.reply.response.status.code ∈ statuses) :
    t.server.sink.requests.length ≤
      methods.length * (t.templates.length * statuses.length) + t.observed.dedup.length := by
  obtain ⟨ls, hcounts, -, hmem, -⟩ := hsound.exists_tally
  have hnodup : (t.server.sink.requests.map Prod.fst).Nodup := by
    rw [hcounts.requests]
    exact Family.nodup_tally _
  have hsub : t.server.sink.requests.map Prod.fst ⊆
      Labels.among methods t.templates statuses ++ t.observed.dedup := by
    intro l hl
    rw [hcounts.requests, Family.mem_map_fst_tally, hmem] at hl
    rcases hl with ⟨f, hf, rfl⟩ | hown
    · obtain ⟨hmethod, hstatus⟩ := hcompleted f hf
      exact List.mem_append_left _
        (Labels.mem_among hmethod (hlocated f (List.mem_append_right _ hf)) hstatus)
    · exact List.mem_append_right _ (List.mem_dedup.mpr hown)
  have hlength := (List.subperm_of_subset hnodup hsub).length_le
  rwa [List.length_map, List.length_append, Labels.length_among] at hlength

/-- Sound traffic on the paths of a table has no other series than its labels allow. -/
theorem isScaled_of_isSound {t : Traffic Registry} (hsound : t.IsSound) (hlocated : t.IsLocated) :
    t.IsScaled := by
  obtain ⟨ls, hcounts, -, hmem, -⟩ := hsound.exists_tally
  have hseries : ∀ l, l ∈ t.server.sink.requests.map Prod.fst ↔
      (∃ f ∈ t.completed, f.labels = l) ∨ l ∈ t.observed := by
    intro l
    rw [hcounts.requests, Family.mem_map_fst_tally, hmem]
  refine ⟨fun l hl hown => ?_, fun _ _ => length_requests_le hsound hlocated,
    fun methods hmethods => ?_, fun methods hmethods hsent => ?_⟩
  · obtain ⟨f, hf, rfl⟩ := ((hseries l).mp hl).resolve_right hown
    exact ⟨hlocated f (List.mem_append_right _ hf), f, hf, rfl, rfl⟩
  · have hcompleted : ∀ f ∈ t.completed,
        f.request.method ∈ methods ∧ f.reply.response.status.code ∈ Status.codes := fun f hf =>
      ⟨hmethods f hf, f.reply.response.status.code_mem_codes⟩
    have hlength := length_requests_le hsound hlocated hcompleted
    rwa [Status.codes, List.length_range'] at hlength
  · have hsub : methods ⊆ (t.server.sink.requests.map Prod.fst).map Labels.method := by
      intro method hmethod
      obtain ⟨f, hf, rfl⟩ := hsent method hmethod
      exact List.mem_map.mpr ⟨f.labels, (hseries _).mpr (Or.inl ⟨f, hf, rfl⟩), rfl⟩
    have hlength := (List.subperm_of_subset hmethods hsub).length_le
    rwa [List.length_map, List.length_map] at hlength

/-- Requests alone, completed one after the other, give the registry as many series as one likes. -/
def IsScannable (t : Traffic Registry) : Prop :=
  ∀ n, ∃ m rs, n ≤ (t.run (scan t.inFlight.length m rs)).server.sink.requests.length

variable {plan : ServerPlan Registry} {now : Instant} {s : Server Registry}
  {events : List LogEvent} {steps : List Step} {app : String}

theorem run_append (t : Traffic σ) (before after : List Step) :
    t.run (before ++ after) = (t.run before).run after :=
  List.foldl_append

/-- The requests of a scan over methods, for nothing. -/
def probes (n : Nat) : List Request :=
  (List.range n).map fun k => ⟨toString k, "/", [], []⟩

theorem isScaled_of_build (h : plan.build now = .ok (s, events))
    (hsink : plan.sink = Registry.new app) (steps : List Step) :
    (run ⟨s, [], []⟩ steps).IsScaled :=
  isScaled_of_isSound (isSound_run h hsink steps) (isLocated_run s steps)

/-- A server with a router can be scanned for series. -/
theorem isScannable_run (h : plan.build now = .ok (s, events))
    (hsink : plan.sink = Registry.new app) {router : Router Handler}
    (hrouter : (run ⟨s, [], []⟩ steps).server.router? = some router) :
    (run ⟨s, [], []⟩ steps).IsScannable := by
  intro n
  let t : Traffic Registry := run ⟨s, [], []⟩ steps
  let m : Moment := ⟨now, "", "", none, ⟨0⟩⟩
  refine ⟨m, probes n, ?_⟩
  have hscaled : (t.run (scan t.inFlight.length m (probes n))).IsScaled := by
    rw [show t = run ⟨s, [], []⟩ steps from rfl, ← run_append]
    exact isScaled_of_build h hsink _
  obtain ⟨fs, hcompleted, hfs⟩ := exists_completed_scan m (probes n) hrouter
  -- The methods of the scan are distinct, and all of them have been sent.
  have hnodup : ((List.range n).map fun k => (toString k : String)).Nodup :=
    List.Nodup.map (fun _ _ => Exposition.toString_inj) List.nodup_range
  have hlength := hscaled.atLeast _ hnodup fun method hmethod => ?_
  · rwa [List.length_map, List.length_range] at hlength
  · obtain ⟨k, hk, rfl⟩ := List.mem_map.mp hmethod
    have hprobe : (⟨toString k, "/", [], []⟩ : Request) ∈ fs.map Flight.request := by
      rw [hfs]
      exact List.mem_map.mpr ⟨k, hk, rfl⟩
    obtain ⟨f, hf, hrequest⟩ := List.mem_map.mp hprobe
    refine ⟨f, ?_, congrArg Request.method hrequest⟩
    rw [hcompleted]
    exact List.mem_append_right _ hf

/-- Whatever is registered before or between requests : the number of series is settled by the
methods that have been sent, the table, and the statuses that have been returned, up to what
handlers observe on their own; which is nothing where they measure nothing. As long as there is a
router, requests alone raise it above every number. -/
theorem isScaled_run (h : plan.build now = .ok (s, events))
    (hsink : plan.sink = Registry.new app) (steps : List Step) :
    (run ⟨s, [], []⟩ steps).IsScaled ∧
      ((∀ r ∈ history steps, r.route.IsOrdinary) → (run ⟨s, [], []⟩ steps).observed = []) ∧
      ((run ⟨s, [], []⟩ steps).server.router?.isSome = true →
        (run ⟨s, [], []⟩ steps).IsScannable) := by
  refine ⟨isScaled_of_build h hsink steps, fun hordinary => ?_, fun hsome => ?_⟩
  · have hadmits := admits_run h (fun _ => Server.isOrdinary_of_mem_defaultRoutes) hordinary
    rw [observed, own_eq_nil (isSound_run h hsink steps) hadmits, List.filterMap_nil]
  · obtain ⟨router, hrouter⟩ := Option.isSome_iff_exists.mp hsome
    exact isScannable_run h hsink hrouter

/-! ## A server that is scanned -/

/-- Requests by two methods, on seven paths, with two statuses. -/
theorem isScaled_run_busy :
    (run ⟨counting, [], []⟩ busySteps).server.sink.requests.length ≤ 2 * (8 * 2) ∧
      (run ⟨counting, [], []⟩ busySteps).IsScannable := by
  obtain ⟨events, hbuild⟩ := exists_build_counting
  have hordinary : ∀ r ∈ history busySteps, r.route.IsOrdinary := by
    intro r hr
    obtain rfl := List.mem_singleton.mp hr
    exact Or.inl ⟨_, rfl⟩
  obtain ⟨hscaled, hobserved, hscannable⟩ := isScaled_run hbuild rfl busySteps
  have htemplates : (run ⟨counting, [], []⟩ busySteps).templates.length = 8 := by decide +kernel
  have hmost := hscaled.atMost ["GET", "PUT"] [200, 404] (by decide +kernel)
  rw [htemplates, hobserved hordinary] at hmost
  exact ⟨hmost, hscannable (by decide +kernel)⟩

/-- With the default routes alone, no number of series is kept to by all runs of requests. -/
theorem not_exists_bound_counting :
    counting.router?.isSome = true ∧
      ¬∃ bound, ∀ m rs,
        (run ⟨counting, [], []⟩ (scan 0 m rs)).server.sink.requests.length ≤ bound := by
  obtain ⟨events, hbuild⟩ := exists_build_counting
  have hsome : counting.router?.isSome = true := by decide +kernel
  obtain ⟨router, hrouter⟩ := Option.isSome_iff_exists.mp hsome
  have hstart : (run ⟨counting, [], []⟩ []).server.router? = some router := hrouter
  refine ⟨hsome, ?_⟩
  rintro ⟨bound, hbound⟩
  obtain ⟨m, rs, hmore⟩ := isScannable_run hbuild rfl hstart (bound + 1)
  exact absurd (hmore.trans (hbound m rs)) (Nat.not_succ_le_self bound)

end Traffic

end Gatehouse
