import Gatehouse.Proofs.Metrics.Registry
import Gatehouse.Proofs.Server.Traffic

/-!
# What requests measure

The service itself measures three things : the server observes every request, the page at the root
counts what it answers, and so does the handler for what no route matches. A handler of another
program may measure whatever it likes on top of that, also what looks like one of these three
(`Flight.own`). The rest can be told from the requests alone (`Flight.IsSound`), and where all
handlers but the one of the root page measure nothing there is nothing on top (`Route.IsOrdinary`).

Whether no route matches can be told from the labels of a request, since a template begins with a
slash, and the name that stands for unmatched requests does not (`Server.Admits.template_eq_iff`).
-/

namespace Gatehouse

/-! ## Entries -/

namespace Route

/-- An entry whose handler measures nothing, or that of the root page. -/
def IsOrdinary (e : Route Handler) : Prop :=
  (∃ p, e = (Registration.rootPage p).route) ∨ ∀ c, (e.handler c).measures = []

/-- The gate measures nothing. -/
theorem measures_reply (e : Route Handler) (c : Call) :
    (e.reply c).measures = [] ∨ ∃ c', (e.reply c).measures = (e.handler c').measures := by
  cases hprotected : e.isProtected with
  | false =>
    rw [reply_of_unguarded hprotected]
    exact Or.inr ⟨_, rfl⟩
  | true =>
    cases hcheck : Gate.check c.service.codec c.moment.systemNow c.request.headers with
    | error refusal =>
      rw [reply_of_refused hprotected hcheck]
      exact Or.inl rfl
    | ok claims =>
      rw [reply_of_passed hprotected hcheck]
      exact Or.inr ⟨_, rfl⟩

end Route

theorem Reply.measures_within (r : Reply) (limit : Span) :
    (r.within limit).measures = r.measures := by
  rw [within]
  split_ifs <;> rfl

theorem Handler.measures_login (c : Call) : (login c).measures = [] := by
  rw [login, Reply.after]
  cases Login.attempt c <;> rfl

/-- The handlers of the default routes measure nothing. -/
theorem Server.isOrdinary_of_mem_defaultRoutes {r : Registration} (h : r ∈ defaultRoutes) :
    r.route.IsOrdinary := by
  simp only [defaultRoutes, List.mem_cons, List.not_mem_nil, or_false] at h
  rcases h with rfl | rfl | rfl | rfl | rfl | rfl
  · exact Or.inr fun _ => rfl
  · exact Or.inr fun _ => rfl
  · exact Or.inr fun _ => rfl
  · exact Or.inr fun _ => rfl
  · exact Or.inr fun _ => rfl
  · exact Or.inr Handler.measures_login

/-! ## Requests that are dispatched -/

namespace Dispatch

/-- Whether an entry that answers has a property. -/
def Meets (P : Route Handler → Prop) (d : Dispatch Handler) : Prop :=
  ∀ resource e, d = .entry resource e → P e

/-- Whether the root page answers. -/
def IsRootPage (d : Dispatch Handler) : Prop :=
  ∃ resource p, d = .entry resource (Registration.rootPage p).route

/-- Whether a handler answers, and not that of the root page. -/
def IsForeign (d : Dispatch Handler) : Prop :=
  (∃ resource e, d = .entry resource e) ∧ ¬d.IsRootPage

theorem not_isRootPage_unmatched : ¬IsRootPage .unmatched := by
  rintro ⟨_, _, h⟩
  cases h

theorem not_isRootPage_refused (resource : Resource Handler) : ¬(refused resource).IsRootPage := by
  rintro ⟨_, _, h⟩
  cases h

variable {d : Dispatch Handler}

open Classical in
/-- What the service measures before it observes a request. -/
theorem measures_reply (h : ¬d.IsForeign) (c : Call) :
    (d.reply c).measures =
      if d = .unmatched then [.notFound] else if d.IsRootPage then [.rootGet] else [] := by
  cases d with
  | unmatched =>
    rw [if_pos rfl]
    rfl
  | refused resource =>
    rw [if_neg nofun, if_neg (not_isRootPage_refused resource)]
    rfl
  | entry resource e =>
    rw [IsForeign, not_and_not_right] at h
    have hroot := h ⟨resource, e, rfl⟩
    rw [if_neg nofun, if_pos hroot]
    obtain ⟨_, p, hentry⟩ := hroot
    obtain ⟨-, rfl⟩ := Dispatch.entry.inj hentry
    rw [reply, Route.reply_of_unguarded rfl]
    rfl

/-- It observes no request on the way. -/
theorem labels?_eq_none_of_mem_measures (h : ¬d.IsForeign) {c : Call} {m : Measure}
    (hm : m ∈ (d.reply c).measures) : m.labels? = none := by
  classical
  rw [measures_reply h] at hm
  split_ifs at hm
  · rw [List.mem_singleton.mp hm, Measure.labels?]
  · rw [List.mem_singleton.mp hm, Measure.labels?]
  · cases hm

/-- A handler that measures nothing measures nothing behind the gate either. -/
theorem measures_eq_nil (h : d.IsForeign) (hordinary : d.Meets Route.IsOrdinary) (c : Call) :
    (d.reply c).measures = [] := by
  obtain ⟨⟨resource, e, rfl⟩, hroot⟩ := h
  rcases hordinary resource e rfl with ⟨p, rfl⟩ | he
  · exact absurd ⟨resource, p, rfl⟩ hroot
  · rw [reply]
    rcases e.measures_reply c with hnone | ⟨c', hhandler⟩
    · exact hnone
    · rw [hhandler, he c']

end Dispatch

/-! ## Servers -/

namespace Routes

variable {α : Type} {t : Routes α} {router : Router α}

theorem path_mem_paths (h : t.router? = some router) {r : Resource α} (hr : r ∈ router) :
    r.path ∈ t.paths := by
  have hmem : some r ∈ t.paths.map t.resource? := by
    rw [map_resource?_eq h]
    exact List.mem_map_of_mem hr
  obtain ⟨path, hpath, hresource⟩ := List.mem_map.mp hmem
  obtain ⟨template, -, rfl⟩ := Option.map_eq_some_iff.mp hresource
  exact hpath

end Routes

theorem RoutePattern.head?_path {text : String} {q : RoutePattern} (h : ofString text = .ok q) :
    q.path.toList.head? = some '/' := by
  have hrooted : ∀ {whole verb path}, rooted whole verb path = .ok q →
      q.path.toList.head? = some '/' := by
    intro whole verb path h
    rw [rooted] at h
    split_ifs at h with hhead
    obtain rfl := Except.ok.inj h
    rw [String.toList_ofList]
    exact hhead
  simp only [ofString] at h
  split at h
  · exact hrooted h
  · split at h
    · cases h
    · exact hrooted h

namespace Server

/-- All entries of the server have a property, and their paths begin with a slash. -/
structure Admits {σ : Type} (P : Route Handler → Prop) (s : Server σ) : Prop where
  rooted : ∀ x ∈ s.routes, x.1.path.toList.head? = some '/'
  entries : ∀ x ∈ s.routes, P x.2

variable {σ : Type} {P : Route Handler → Prop} {s : Server σ} {router : Router Handler}

theorem Admits.of_routes_eq {s' : Server σ} (h : s.Admits P) (hroutes : s'.routes = s.routes) :
    s'.Admits P := by
  constructor
  · rw [hroutes]
    exact h.rooted
  · rw [hroutes]
    exact h.entries

/-- What all entries have is kept by a history that has it. -/
theorem Admits.registerEach : ∀ {rs : List Registration} {s : Server σ}, s.Admits P →
    (∀ r ∈ rs, P r.route) → (s.registerEach rs).Admits P
  | [], _, h, _ => h
  | r :: rs, s, h, hrs => by
    obtain ⟨hr, hrest⟩ := List.forall_mem_cons.mp hrs
    rw [registerEach_cons]
    cases hq : RoutePattern.ofString r.pattern with
    | error e => exact h.registerEach hrest
    | ok q =>
      have hinsert : { s with routes := s.routes.insert q r.route }.Admits P := by
        constructor
        · intro x hx
          rcases Routes.mem_insert hx with rfl | hx
          · exact RoutePattern.head?_path hq
          · exact h.rooted x hx
        · intro x hx
          rcases Routes.mem_insert hx with rfl | hx
          · exact hr
          · exact h.entries x hx
      exact hinsert.registerEach hrest

/-- What the default routes have all entries have as a server is built. -/
theorem admits_of_build {plan : ServerPlan σ} {now : Instant} {events : List LogEvent}
    (h : plan.build now = .ok (s, events)) (hdefault : ∀ r ∈ defaultRoutes, P r.route) :
    s.Admits P := by
  rw [eq_registerEach_of_registerAll h]
  have hbare : (plan.bare now).Admits P := ⟨nofun, nofun⟩
  exact hbare.registerEach hdefault

/-- A request goes to an entry of the table. -/
theorem Admits.meets (h : s.Admits P) (hrouter : s.router? = some router) (method path : String) :
    (router.dispatch method path).Meets P := by
  intro resource e hentry
  obtain ⟨v, hv⟩ := Router.exists_ofName?_of_dispatch hentry
  obtain rfl := Verb.ofName?_eq_some_iff.mp hv
  rw [Routes.dispatch_eq hrouter] at hentry
  split at hentry
  · cases hentry
  · split at hentry
    · cases hentry
    next e' hanswer =>
      obtain ⟨-, rfl⟩ := Dispatch.entry.inj hentry
      obtain ⟨verb, hverb⟩ := Routes.exists_mem_of_answer? hanswer
      exact h.entries _ hverb

/-- The template of a resource is no name of unmatched requests. -/
theorem Admits.path_ne (h : s.Admits P) (hrouter : s.router? = some router) {path : String}
    {resource : Resource Handler} (hresource : router.resource? path = some resource) :
    resource.path ≠ unmatchedTemplate := by
  have hpath := Routes.path_mem_paths hrouter (Router.mem_of_resource? hresource)
  rw [Routes.paths, List.mem_eraseDups] at hpath
  obtain ⟨x, hx, heq⟩ := List.mem_map.mp hpath
  have hrooted := h.rooted x hx
  intro hunmatched
  rw [heq, hunmatched] at hrooted
  exact absurd hrooted (by decide)

/-- The template for unmatched requests is that of no resource, since paths begin with a slash. -/
theorem Admits.template_eq_iff (h : s.Admits P) (hrouter : s.router? = some router)
    (method path : String) :
    ((router.resource? path).map Resource.path).getD unmatchedTemplate = unmatchedTemplate ↔
      router.dispatch method path = .unmatched := by
  rw [Router.dispatch_eq_unmatched_iff]
  cases hresource : router.resource? path with
  | none => exact iff_of_true rfl rfl
  | some resource => exact iff_of_false (h.path_ne hrouter hresource) nofun

end Server

/-! ## Flights -/

namespace Flight

open Classical in
/-- What the handler of a flight has measured on its own, unless it is that of the root page. -/
noncomputable def own (f : Flight) : List Measure :=
  if f.dispatch.IsForeign then f.reply.measures else []

open Classical in
/-- What is measured for a flight : that nothing is found exactly if no route matches, and the root
page exactly if it answers, unless the flight has been cut off; and what its handler measures on its
own. -/
structure IsSound (f : Flight) : Prop where
  requests : f.reply.measures.filterMap Measure.labels? = f.own.filterMap Measure.labels?
  notFounds : f.isCut = false → f.reply.measures.count .notFound =
    (if f.labels.handler = unmatchedTemplate then 1 else 0) + f.own.count .notFound
  rootGets : f.isCut = false → f.reply.measures.count .rootGet =
    (if f.dispatch.IsRootPage then 1 else 0) + f.own.count .rootGet
  ordinary : f.dispatch.Meets Route.IsOrdinary → f.own = []

/-- The measurements of flights. -/
def measures (fs : List Flight) : List Measure :=
  fs.flatMap fun f => f.reply.measures

theorem measures_cons (f : Flight) (fs : List Flight) :
    measures (f :: fs) = f.reply.measures ++ measures fs :=
  List.flatMap_cons

theorem perm_measures {fs gs : List Flight} (h : fs.Perm gs) : (measures fs).Perm (measures gs) :=
  h.flatMap_right _

/-- What is counted once for each flight of a kind is counted as often as there are such flights,
and as often as their handlers count it on their own. -/
theorem count_measures {k : Measure} {p : Flight → Bool} : ∀ {fs : List Flight},
    (∀ f ∈ fs, f.reply.measures.count k = (if p f = true then 1 else 0) + f.own.count k) →
      (measures fs).count k = fs.countP p + (fs.flatMap own).count k
  | [], _ => rfl
  | f :: fs, h => by
    obtain ⟨hf, hfs⟩ := List.forall_mem_cons.mp h
    rw [measures_cons, List.count_append, count_measures hfs, hf, List.countP_cons,
      List.flatMap_cons, List.count_append]
    omega

end Flight

namespace Server

variable {σ : Type} [MeasureSink σ] {s : Server σ} {router : Router Handler}

theorem dispatch_launch (s : Server σ) (router : Router Handler) (m : Moment) (r : Request)
    (cut : Option Nat) : (s.launch router m r cut).dispatch = router.dispatch r.method r.path := by
  cases cut <;> rfl

/-- A request that is not cut off brings all measurements of its handler. -/
theorem measures_launch (s : Server σ) (router : Router Handler) (m : Moment) (r : Request) :
    (s.launch router m r none).reply.measures =
      ((router.dispatch r.method r.path).reply (s.call m r)).measures := by
  rw [launch, reply, Reply.measures_within]

/-- What has been measured for a request, whether it is cut off or not, is measured by its reply. -/
theorem mem_measures_of_launch {m : Moment} {r : Request} {cut : Option Nat} {x : Measure}
    (h : x ∈ (s.launch router m r cut).reply.measures) :
    x ∈ ((router.dispatch r.method r.path).reply (s.call m r)).measures := by
  cases cut with
  | none => rwa [measures_launch] at h
  | some taken =>
    rw [← Reply.measures_within _ s.requestTimeout]
    exact List.mem_of_mem_take h

theorem eq_none_of_isCut_launch {m : Moment} {r : Request} {cut : Option Nat}
    (h : (s.launch router m r cut).isCut = false) : cut = none := by
  cases cut with
  | none => rfl
  | some taken => cases h

/-- A request counts as unmatched exactly if it is. -/
theorem Admits.handler_launch_eq_iff {P : Route Handler → Prop} (h : s.Admits P)
    (hrouter : s.router? = some router) (m : Moment) (r : Request) (cut : Option Nat) :
    (s.launch router m r cut).labels.handler = unmatchedTemplate ↔
      router.dispatch r.method r.path = .unmatched := by
  cases cut <;> exact h.template_eq_iff hrouter r.method r.path

/-- Whatever a handler of another program measures is its own. -/
theorem isSound_launch_of_isForeign {P : Route Handler → Prop} (h : s.Admits P)
    (hrouter : s.router? = some router) {m : Moment} {r : Request} {cut : Option Nat}
    (hforeign : (router.dispatch r.method r.path).IsForeign) :
    (s.launch router m r cut).IsSound := by
  have hown : (s.launch router m r cut).own = (s.launch router m r cut).reply.measures := by
    rw [Flight.own, dispatch_launch, if_pos hforeign]
  have hmatched : (s.launch router m r cut).labels.handler ≠ unmatchedTemplate := by
    intro hlabels
    obtain ⟨⟨resource, e, hentry⟩, -⟩ := hforeign
    rw [(h.handler_launch_eq_iff hrouter m r cut).mp hlabels] at hentry
    cases hentry
  constructor
  · rw [hown]
  · intro _
    rw [hown, if_neg hmatched, Nat.zero_add]
  · intro _
    rw [hown, dispatch_launch, if_neg hforeign.2, Nat.zero_add]
  · intro hordinary
    rw [dispatch_launch] at hordinary
    rw [hown, List.eq_nil_iff_forall_not_mem]
    intro x hx
    have hmem := mem_measures_of_launch hx
    rw [Dispatch.measures_eq_nil hforeign hordinary] at hmem
    cases hmem

/-- The handlers of the server measure what their requests are counted by. -/
theorem isSound_launch_of_not_isForeign {P : Route Handler → Prop} (h : s.Admits P)
    (hrouter : s.router? = some router) {m : Moment} {r : Request} {cut : Option Nat}
    (hforeign : ¬(router.dispatch r.method r.path).IsForeign) :
    (s.launch router m r cut).IsSound := by
  have hown : (s.launch router m r cut).own = [] := by
    rw [Flight.own, dispatch_launch, if_neg hforeign]
  constructor
  · rw [hown, List.filterMap_nil, List.filterMap_eq_nil_iff]
    exact fun x hx => Dispatch.labels?_eq_none_of_mem_measures hforeign (mem_measures_of_launch hx)
  · intro hcut
    obtain rfl := eq_none_of_isCut_launch hcut
    have htemplate := h.handler_launch_eq_iff hrouter m r none
    rw [hown, List.count_nil, Nat.add_zero, measures_launch, Dispatch.measures_reply hforeign]
    by_cases hunmatched : router.dispatch r.method r.path = .unmatched
    · rw [if_pos hunmatched, if_pos (htemplate.mpr hunmatched)]
      rfl
    · rw [if_neg hunmatched, if_neg (mt htemplate.mp hunmatched)]
      split_ifs <;> rfl
  · intro hcut
    obtain rfl := eq_none_of_isCut_launch hcut
    rw [hown, List.count_nil, Nat.add_zero, dispatch_launch, measures_launch,
      Dispatch.measures_reply hforeign]
    split_ifs with hunmatched hroot
    · rw [hunmatched] at hroot
      exact absurd hroot Dispatch.not_isRootPage_unmatched
    all_goals rfl
  · exact fun _ => hown

/-- Every request that arrives is sound, whoever answers it. -/
theorem isSound_launch {P : Route Handler → Prop} (h : s.Admits P)
    (hrouter : s.router? = some router) (m : Moment) (r : Request) (cut : Option Nat) :
    (s.launch router m r cut).IsSound := by
  by_cases hforeign : (router.dispatch r.method r.path).IsForeign
  · exact isSound_launch_of_isForeign h hrouter hforeign
  · exact isSound_launch_of_not_isForeign h hrouter hforeign

end Server

end Gatehouse
