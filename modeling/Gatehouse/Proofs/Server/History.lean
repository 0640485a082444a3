import Gatehouse.Proofs.Except
import Gatehouse.Proofs.Route.Dispatch
import Gatehouse.Server.Basic

/-!
# Histories of registrations

A server comes into being by a history : its default routes first, then whatever was registered,
with or without success (`Server.registerEach`). Of a history the table keeps the last success for
each pattern and nothing else (`Server.get?_registerEach`). So a request is answered by the last
registration for its method on the path of its resource, or else the last one for every method, or
else, if it asks for `HEAD`, the last one for `GET` (`Registration.answering?`,
`Server.respond_of_history`), and histories with the same last successes make the same server
(`Server.registerEach_congr`).
-/

namespace Gatehouse

/-! ## The last registration -/

namespace Registration

/-- The entry that a registration makes. -/
def route (r : Registration) : Route Handler := ⟨r.handler, r.isProtected⟩

/-- Whether a registration succeeds, and for a pattern. -/
def isFor (r : Registration) (p : RoutePattern) : Bool :=
  match RoutePattern.ofString r.pattern with
  | .ok q => decide (q = p)
  | .error _ => false

/-- The last registration of a history that succeeds for a pattern. -/
def last? (history : List Registration) (p : RoutePattern) : Option Registration :=
  history.reverse.find? fun r => r.isFor p

/-- The registration of a history that answers a verb at a path. -/
def answering? (history : List Registration) (path : String) (v : Verb) : Option Registration :=
  last? history ⟨some v, path⟩ <|> last? history ⟨none, path⟩ <|>
    if v = .head then last? history ⟨some .get, path⟩ else none

theorem last?_cons (r : Registration) (history : List Registration) (p : RoutePattern) :
    last? (r :: history) p = (last? history p).or (if r.isFor p then some r else none) := by
  rw [last?, List.reverse_cons, List.find?_append, List.find?_singleton]
  rfl

end Registration

namespace Server

variable {σ : Type}

/-- The server with more registrations, those that fail passed over. -/
def registerEach (s : Server σ) : List Registration → Server σ
  | [] => s
  | r :: rest =>
    match s.register r with
    | .ok (s, _) => s.registerEach rest
    | .error _ => s.registerEach rest

/-! ### What one registration does -/

theorem registerEach_cons_of_error {s : Server σ} {r : Registration} {e : ServerError}
    (h : s.register r = .error e) (rest : List Registration) :
    s.registerEach (r :: rest) = s.registerEach rest := by
  rw [registerEach, h]

/-- A registration fails by its text alone, and else makes its entry for its pattern. -/
theorem registerEach_cons (s : Server σ) (r : Registration) (rest : List Registration) :
    s.registerEach (r :: rest) =
      match RoutePattern.ofString r.pattern with
      | .ok p => { s with routes := s.routes.insert p r.route }.registerEach rest
      | .error _ => s.registerEach rest := by
  rw [registerEach, register]
  cases RoutePattern.ofString r.pattern <;> rfl

theorem registerEach_append (after : List Registration) : ∀ (before : List Registration)
    (s : Server σ), s.registerEach (before ++ after) = (s.registerEach before).registerEach after
  | [], _ => rfl
  | r :: before, s => by
    rw [List.cons_append, registerEach_cons, registerEach_cons]
    cases RoutePattern.ofString r.pattern with
    | error e => exact registerEach_append after before s
    | ok p => exact registerEach_append after before _

/-! ### What a history does -/

/-- A history changes nothing of a server but its table. -/
theorem registerEach_eq : ∀ (rs : List Registration) (s : Server σ),
    s.registerEach rs = { s with routes := (s.registerEach rs).routes }
  | [], _ => rfl
  | r :: rs, s => by
    rw [registerEach_cons]
    cases RoutePattern.ofString r.pattern with
    | error e => exact registerEach_eq rs s
    | ok p => exact registerEach_eq rs _

theorem inOrder_registerEach : ∀ (rs : List Registration) {s : Server σ}, s.routes.InOrder →
    (s.registerEach rs).routes.InOrder
  | [], _, h => h
  | r :: rs, s, h => by
    rw [registerEach_cons]
    cases RoutePattern.ofString r.pattern with
    | error e => exact inOrder_registerEach rs h
    | ok p => exact inOrder_registerEach rs (Routes.inOrder_insert h)

/-- The entry of a pattern is that of the last registration that succeeded for it. -/
theorem get?_registerEach (p : RoutePattern) : ∀ (rs : List Registration) (s : Server σ),
    (s.registerEach rs).routes.get? p =
      ((Registration.last? rs p).map Registration.route).or (s.routes.get? p)
  | [], _ => rfl
  | r :: rs, s => by
    have hfor := Registration.last?_cons r rs p
    rw [Registration.isFor] at hfor
    rw [registerEach_cons, hfor]
    cases RoutePattern.ofString r.pattern with
    | error e =>
      simp only [Bool.false_eq_true, if_false, Option.or_none]
      exact get?_registerEach p rs s
    | ok q =>
      simp only [decide_eq_true_eq]
      rw [get?_registerEach p rs, Routes.get?_insert]
      cases Registration.last? rs p with
      | some last => rfl
      | none => split_ifs <;> rfl

/-- Registrations that all succeed do what they do one by one. -/
theorem eq_registerEach_of_registerAll : ∀ {rs : List Registration} {s s' : Server σ}
    {events : List LogEvent}, s.registerAll rs = .ok (s', events) → s' = s.registerEach rs
  | [], _, _, _, h => by
    cases h
    rfl
  | r :: rs, s, s', events, h => by
    obtain ⟨⟨t, event⟩, ht, h⟩ := bind_eq_ok_iff.mp h
    obtain ⟨⟨u, events'⟩, hu, h⟩ := bind_eq_ok_iff.mp h
    cases h
    rw [registerEach, ht]
    exact eq_registerEach_of_registerAll hu

/-! ## Servers with a history -/

variable {plan : ServerPlan σ} {now : Instant} {s : Server σ} {events : List LogEvent}

/-- The default routes are the first registrations of every server. -/
theorem registerEach_of_build (h : plan.build now = .ok (s, events)) (rs : List Registration) :
    s.registerEach rs = (plan.bare now).registerEach (defaultRoutes ++ rs) := by
  rw [eq_registerEach_of_registerAll h, registerEach_append]

theorem inOrder_of_build (h : plan.build now = .ok (s, events)) (rs : List Registration) :
    (s.registerEach rs).routes.InOrder := by
  have hempty : (plan.bare now).routes.InOrder := List.Pairwise.nil
  rw [registerEach_of_build h]
  exact inOrder_registerEach _ hempty

/-- The table of a server has the last success for each pattern. -/
theorem get?_of_build (h : plan.build now = .ok (s, events)) (rs : List Registration)
    (p : RoutePattern) :
    (s.registerEach rs).routes.get? p =
      (Registration.last? (defaultRoutes ++ rs) p).map Registration.route := by
  rw [registerEach_of_build h, get?_registerEach]
  exact Option.or_none

/-- The table of a server answers by the last registration that does. -/
theorem answer?_of_build (h : plan.build now = .ok (s, events)) (rs : List Registration)
    (path : String) (v : Verb) :
    (s.registerEach rs).routes.answer? path v =
      (Registration.answering? (defaultRoutes ++ rs) path v).map Registration.route := by
  rw [Routes.answer?, get?_of_build h, get?_of_build h, get?_of_build h, Registration.answering?]
  cases Registration.last? (defaultRoutes ++ rs) ⟨some v, path⟩ with
  | some r => rfl
  | none =>
    cases Registration.last? (defaultRoutes ++ rs) ⟨none, path⟩ with
    | some r => rfl
    | none => split_ifs <;> rfl

/-- Histories with the same last successes make the same server. -/
theorem registerEach_congr (h : plan.build now = .ok (s, events)) {rs rs' : List Registration}
    (hlast : ∀ p, (Registration.last? (defaultRoutes ++ rs') p).map Registration.route =
      (Registration.last? (defaultRoutes ++ rs) p).map Registration.route) :
    s.registerEach rs' = s.registerEach rs := by
  have hroutes : (s.registerEach rs').routes = (s.registerEach rs).routes :=
    Routes.eq_of_get?_eq (inOrder_of_build h rs') (inOrder_of_build h rs) fun p => by
      rw [get?_of_build h, get?_of_build h, hlast p]
  rw [registerEach_eq rs' s, registerEach_eq rs s, hroutes]

theorem registerEach_of_failed {failed : Registration} {e : ServerError}
    {before : List Registration} (h : (s.registerEach before).register failed = .error e)
    (after : List Registration) :
    s.registerEach (before ++ failed :: after) = s.registerEach (before ++ after) := by
  rw [registerEach_append, registerEach_append, registerEach_cons_of_error h]

/-- A verb is dispatched to the last registration that answers it on the resource of the path. -/
theorem dispatch_of_build (h : plan.build now = .ok (s, events)) {rs : List Registration}
    {router : Router Handler} (hrouter : (s.registerEach rs).router? = some router) (v : Verb)
    (path : String) :
    router.dispatch v.name path =
      match router.resource? path with
      | none => .unmatched
      | some resource =>
        match Registration.answering? (defaultRoutes ++ rs) resource.path v with
        | none => .refused resource
        | some r => .entry resource r.route := by
  rw [Routes.dispatch_eq hrouter]
  cases router.resource? path with
  | none => rfl
  | some resource =>
    simp only [answer?_of_build h]
    cases Registration.answering? (defaultRoutes ++ rs) resource.path v <;> rfl

variable [MeasureSink σ]

theorem map_fst_respond {s : Server σ} {router : Router Handler} (h : s.router? = some router)
    (m : Moment) (r : Request) :
    (s.respond m r).map Prod.fst = some (s.reply (router.dispatch r.method r.path) m r) := by
  rw [respond, h]
  rfl

/-- The reply to a request for a verb is made by the last registration that answers the verb on
the resource of the path. Without one the method is refused, and without a resource nothing is
found. Two histories with the same last successes answer every request alike, and one that fails
can be left out. -/
theorem respond_of_history (h : plan.build now = .ok (s, events)) {rs : List Registration}
    {router : Router Handler} (hrouter : (s.registerEach rs).router? = some router) :
    (∀ (v : Verb) (m : Moment) (r : Request), r.method = v.name →
      ((s.registerEach rs).respond m r).map Prod.fst =
        some (match router.resource? r.path with
          | none => Handler.notFound ((s.registerEach rs).call m r)
          | some resource =>
            match Registration.answering? (defaultRoutes ++ rs) resource.path v with
            | none => { response := { status := .methodNotAllowed, allow := some resource.allow } }
            | some last =>
              (last.route.reply ((s.registerEach rs).call m r)).within s.requestTimeout)) ∧
    (∀ rs', (∀ p, (Registration.last? (defaultRoutes ++ rs') p).map Registration.route =
        (Registration.last? (defaultRoutes ++ rs) p).map Registration.route) →
      ∀ m r, (s.registerEach rs').respond m r = (s.registerEach rs).respond m r) ∧
    ∀ (before after : List Registration) (failed : Registration) (e : ServerError),
      rs = before ++ failed :: after → (s.registerEach before).register failed = .error e →
        s.registerEach (before ++ after) = s.registerEach rs := by
  refine ⟨fun v m r hmethod => ?_, fun rs' hlast m r => ?_, ?_⟩
  · have hdispatch := dispatch_of_build h hrouter v r.path
    have htimeout : (s.registerEach rs).requestTimeout = s.requestTimeout := by
      rw [registerEach_eq]
    rw [map_fst_respond hrouter, hmethod, reply, htimeout]
    cases hresource : router.resource? r.path with
    | none =>
      simp only [hresource] at hdispatch
      rw [hdispatch]
      rfl
    | some resource =>
      simp only [hresource] at hdispatch
      cases hlast : Registration.answering? (defaultRoutes ++ rs) resource.path v with
      | none =>
        simp only [hlast] at hdispatch ⊢
        rw [hdispatch]
        rfl
      | some last =>
        simp only [hlast] at hdispatch ⊢
        rw [hdispatch]
        rfl
  · rw [registerEach_congr h hlast]
  · rintro before after failed e rfl hfailed
    exact (registerEach_of_failed hfailed after).symm

end Server

/-! ## A small server -/

/-- A plan with a secret of one byte. -/
def ServerPlan.small : ServerPlan SilentSink where
  codec := { secret := [7], issuer := "gatehouse", minutes := 1 }
  administrator := { login := "root", digest := "", email := "root@example.com", id := 1 }
  sink := {}

namespace Server

/-- The server of the small plan as it is built. -/
def small : Server SilentSink :=
  (ServerPlan.small.bare Instant.epoch).registerEach defaultRoutes

/-- A history with a failure, by which the claims of administrators replace the time, and a text
that replaces another. -/
def smallHistory : List Registration :=
  [⟨"time", Handler.health, true⟩, ⟨"GET /time", Handler.showClaims, true⟩,
    ⟨"GET /noon", Handler.text "early", true⟩, ⟨"GET /noon", Handler.text "noon", false⟩]

def smallRouter : Router Handler :=
  ((small.registerEach smallHistory).router?).getD []

theorem build_small : ∃ events, ServerPlan.small.build Instant.epoch = .ok (small, events) :=
  ⟨_, rfl⟩

theorem router?_small : (small.registerEach smallHistory).router? = some smallRouter := by
  have hsome : (small.registerEach smallHistory).router?.isSome = true := by decide +kernel
  obtain ⟨router, hrouter⟩ := Option.isSome_iff_exists.mp hsome
  rw [smallRouter, hrouter]
  rfl

theorem resource?_small (path : String) (h : path ∈ ["/time", "/noon"]) :
    ∃ resource, smallRouter.resource? path = some resource ∧ resource.path = path := by
  have hpaths : ∀ path ∈ ["/time", "/noon"],
      (smallRouter.resource? path).map Resource.path = some path := by
    decide +kernel
  exact Option.map_eq_some_iff.mp (hpaths path h)

/-- `HEAD` is answered by the last text for `GET`, for whoever asks. -/
theorem respond_of_history_small :
    ((small.registerEach smallHistory).respond ⟨Instant.epoch, "t", "r", none, ⟨0⟩⟩
        ⟨"HEAD", "/noon", [], []⟩).map Prod.fst =
      some { response := { status := .ok, contentType := some .text, body := "noon" } } := by
  obtain ⟨events, hbuild⟩ := build_small
  obtain ⟨resource, hresource, hpath⟩ := resource?_small "/noon" (by decide)
  have hlast : Registration.answering? (defaultRoutes ++ smallHistory) resource.path .head =
      some ⟨"GET /noon", Handler.text "noon", false⟩ := by
    rw [hpath]
    rfl
  have hroute : (Request.path ⟨"HEAD", "/noon", [], []⟩) = "/noon" := by decide
  rw [(respond_of_history hbuild router?_small).1 .head _ _ rfl, hroute]
  simp only [hresource, hlast]
  rfl

end Server

end Gatehouse
