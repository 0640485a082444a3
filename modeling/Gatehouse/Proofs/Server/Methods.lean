import Gatehouse.Proofs.Route.Pattern
import Gatehouse.Proofs.Route.Slots
import Gatehouse.Proofs.Server.History

/-!
# Routes for every method

Whatever has been registered, the entries of a path share the verbs among them, and none is taken
twice (`Server.fills_registerEach`). A route for every method has those that the other routes of its
path leave. So it answers each verb that has no route of its own, and nothing else : there are
methods that are no verbs, and these are refused where everything is said to be answered, with all
verbs as what is allowed (`Server.respond_of_every`).
-/

namespace Gatehouse

/-! ## Allowed methods -/

namespace Resource

theorem mem_listingOrder (v : Verb) : v ∈ listingOrder := by
  cases v <;> decide

theorem name_mem_allowedBy {verbs : List Verb} {v : Verb} (h : v ∈ verbs) :
    v.name ∈ allowedBy verbs := by
  refine List.mem_map_of_mem (List.mem_filter.mpr ⟨mem_listingOrder v, ?_⟩)
  rw [List.contains_iff_mem]
  split_ifs
  · exact List.mem_cons_of_mem _ h
  · exact h

end Resource

namespace Registration

variable {history : List Registration} {path : String} {last : Registration} {v : Verb}

/-- A registration for every method answers the verbs that have none of their own. -/
theorem answering?_of_every (hlast : last? history ⟨none, path⟩ = some last)
    (hown : last? history ⟨some v, path⟩ = none) : answering? history path v = some last := by
  rw [answering?, hown, hlast]
  rfl

/-- Beside it every verb is answered. -/
theorem exists_answering? (hlast : last? history ⟨none, path⟩ = some last) (v : Verb) :
    ∃ r, answering? history path v = some r := by
  cases hown : last? history ⟨some v, path⟩ with
  | none => exact ⟨last, answering?_of_every hlast hown⟩
  | some r => exact ⟨r, by rw [answering?, hown]; rfl⟩

end Registration

namespace Server

variable {σ : Type}

/-- Of what is registered on a server without routes, and so of what is registered on one that has
been built, no two entries of a path clash, in whatever order they came. -/
theorem fills_registerEach (plan : ServerPlan σ) (now : Instant) (rs : List Registration)
    {path : String} (hpath : path ∈ ((plan.bare now).registerEach rs).routes.paths) :
    ((plan.bare now).registerEach rs).routes.Fills path :=
  Routes.fills_of_inOrder (inOrder_registerEach rs List.Pairwise.nil) hpath

/-- A history by which all methods of a path are answered, and `POST` behind the gate. -/
def anyHistory : List Registration :=
  [⟨"/any", Handler.health, false⟩, ⟨"POST /any", Handler.showClaims, true⟩]

/-- An entry for every verb is left the verbs that no other entry has. -/
theorem fills_registerEach_any :
    "/any" ∈ ((ServerPlan.small.bare Instant.epoch).registerEach anyHistory).routes.paths ∧
      ∃ s, Slots.assemble? (((ServerPlan.small.bare Instant.epoch).registerEach
          anyHistory).routes.namedEntriesAt "/any") = some (some s) ∧
        s .post = some ⟨Handler.showClaims, true⟩ ∧ s .trace = some ⟨Handler.health, false⟩ := by
  have hpath : "/any" ∈
      ((ServerPlan.small.bare Instant.epoch).registerEach anyHistory).routes.paths := by
    decide +kernel
  obtain ⟨s, hs, hslots⟩ := (fills_registerEach ServerPlan.small Instant.epoch _ hpath).filled
  exact ⟨hpath, s, hs, (hslots .post).trans rfl, (hslots .trace).trans rfl⟩

variable {plan : ServerPlan σ} {now : Instant} {s : Server σ} {events : List LogEvent}
  {rs : List Registration} {router : Router Handler} {resource : Resource Handler}

/-- Where there is a route for every method, all verbs are allowed. -/
theorem name_mem_allowed (h : plan.build now = .ok (s, events))
    (hrouter : (s.registerEach rs).router? = some router) {path : String}
    (hresource : router.resource? path = some resource) {last : Registration}
    (hlast : Registration.last? (defaultRoutes ++ rs) ⟨none, resource.path⟩ = some last)
    (v : Verb) : v.name ∈ resource.mounts.flatMap fun m => Resource.allowedBy m.verbs := by
  obtain ⟨path', hpath⟩ :=
    Routes.exists_of_mem_router hrouter (Router.mem_of_resource? hresource)
  obtain ⟨template, -, rfl⟩ := Option.map_eq_some_iff.mp hpath
  have hget := get?_of_build h rs ⟨none, path'⟩
  rw [hlast] at hget
  obtain ⟨m, hm, hv⟩ := Routes.exists_mem_mountsAt (inOrder_of_build h rs) hget v
  exact List.mem_flatMap.mpr ⟨m, hm, Resource.name_mem_allowedBy hv⟩

/-- Beside a route for every method, what is refused are the methods that are no verbs. -/
theorem dispatch_eq_refused_iff (h : plan.build now = .ok (s, events))
    (hrouter : (s.registerEach rs).router? = some router) {path : String}
    (hresource : router.resource? path = some resource) {last : Registration}
    (hlast : Registration.last? (defaultRoutes ++ rs) ⟨none, resource.path⟩ = some last)
    (method : String) :
    router.dispatch method path = .refused resource ↔ Verb.ofName? method = none := by
  cases hverb : Verb.ofName? method with
  | none =>
    rw [Router.dispatch, hresource]
    simp only [Resource.entry?_of_ofName? hverb]
  | some v =>
    obtain rfl := Verb.ofName?_eq_some_iff.mp hverb
    obtain ⟨r, hr⟩ := Registration.exists_answering? hlast v
    rw [dispatch_of_build h hrouter, hresource]
    simp only [hr]
    refine iff_of_false (fun hrefused => ?_) (fun hverb => ?_)
    · cases hrefused
    · cases hverb

variable [MeasureSink σ]

/-- The route for every method that was registered last on a path answers each verb that no route of
the path has been registered for. It answers no method that is no verb : such a method, and only
such a method, is refused, while all verbs are told to be allowed. -/
theorem respond_of_every (h : plan.build now = .ok (s, events))
    (hrouter : (s.registerEach rs).router? = some router) {r : Request}
    (hresource : router.resource? r.path = some resource) {last : Registration}
    (hlast : Registration.last? (defaultRoutes ++ rs) ⟨none, resource.path⟩ = some last)
    (m : Moment) :
    (∀ v : Verb, r.method = v.name →
      Registration.last? (defaultRoutes ++ rs) ⟨some v, resource.path⟩ = none →
        ((s.registerEach rs).respond m r).map Prod.fst =
          some ((last.route.reply ((s.registerEach rs).call m r)).within s.requestTimeout)) ∧
    (router.dispatch r.method r.path = .refused resource ↔ Verb.ofName? r.method = none) ∧
    (Verb.ofName? r.method = none →
      ((s.registerEach rs).respond m r).map Prod.fst =
          some { response := { status := .methodNotAllowed, allow := some resource.allow } } ∧
        ∀ v : Verb, v.name ∈ resource.mounts.flatMap fun m => Resource.allowedBy m.verbs) := by
  have hrefused := dispatch_eq_refused_iff h hrouter hresource hlast r.method
  refine ⟨fun v hmethod hown => ?_, hrefused, fun hverb =>
    ⟨?_, name_mem_allowed h hrouter hresource hlast⟩⟩
  · have hreply := (respond_of_history h hrouter).1 v m r hmethod
    rw [hreply, hresource]
    simp only [Registration.answering?_of_every hlast hown]
  · rw [map_fst_respond hrouter, hrefused.mpr hverb]
    rfl

/-! ## A path for all methods -/

/-- What the small server with that history answers to a request for its path. -/
def anyReply (method : String) : Option Reply :=
  ((small.registerEach anyHistory).respond ⟨Instant.epoch, "t", "r", none, ⟨0⟩⟩
    ⟨method, "/any", [], []⟩).map Prod.fst

theorem exists_router?_any : ∃ router resource,
    (small.registerEach anyHistory).router? = some router ∧
      router.resource? "/any" = some resource ∧ resource.path = "/any" := by
  have hsome : (small.registerEach anyHistory).router?.isSome = true := by decide +kernel
  obtain ⟨router, hrouter⟩ := Option.isSome_iff_exists.mp hsome
  exact ⟨router, _, hrouter,
    Routes.resource?_eq_of_literal hrouter (by decide +kernel) (by decide +kernel), rfl⟩

theorem last?_any : Registration.last? (defaultRoutes ++ anyHistory) ⟨none, "/any"⟩ =
    some ⟨"/any", Handler.health, false⟩ :=
  rfl

/-- `TRACE` has no route of its own, and `CONNECT` is no verb. -/
theorem respond_of_every_any :
    anyReply "TRACE" = some { response := .ofStatus .ok, events := [Call.traced
        ((small.registerEach anyHistory).call ⟨Instant.epoch, "t", "r", none, ⟨0⟩⟩
          ⟨"TRACE", "/any", [], []⟩) "GetHealthHandler"] } ∧
      (anyReply "CONNECT").map (fun reply => reply.response.status) = some .methodNotAllowed := by
  obtain ⟨events, hbuild⟩ := build_small
  obtain ⟨router, resource, hrouter, hresource, hpath⟩ := exists_router?_any
  have htrace : Request.path ⟨"TRACE", "/any", [], []⟩ = "/any" := by decide
  have hconnect : Request.path ⟨"CONNECT", "/any", [], []⟩ = "/any" := by decide
  have hlast := last?_any
  rw [← hpath] at hlast
  constructor
  · have hown : Registration.last? (defaultRoutes ++ anyHistory) ⟨some .trace, resource.path⟩ =
        none := by
      rw [hpath]
      rfl
    exact (respond_of_every hbuild hrouter (r := ⟨"TRACE", "/any", [], []⟩)
      (htrace ▸ hresource) hlast _).1 .trace rfl hown
  · have hrefused := ((respond_of_every hbuild hrouter (r := ⟨"CONNECT", "/any", [], []⟩)
      (hconnect ▸ hresource) hlast ⟨Instant.epoch, "t", "r", none, ⟨0⟩⟩).2.2 (by decide)).1
    rw [anyReply, hrefused]
    rfl

/-- A method that is none of the verbs is refused. -/
theorem anyReply_of_ofName? {method : String} (h : Verb.ofName? method = none) :
    (anyReply method).map (fun reply => reply.response.status) = some .methodNotAllowed := by
  obtain ⟨events, hbuild⟩ := build_small
  obtain ⟨router, resource, hrouter, hresource, hpath⟩ := exists_router?_any
  have hroute : Request.path ⟨method, "/any", [], []⟩ = "/any" :=
    (by decide : Request.path ⟨"", "/any", [], []⟩ = "/any")
  have hlast := last?_any
  rw [← hpath] at hlast
  rw [anyReply, map_fst_respond hrouter, hroute,
    (dispatch_eq_refused_iff hbuild hrouter hresource hlast method).mpr h]
  rfl

/-- The path has a route for every method, and none for `CONNECT` or an extension. These are
refused, where the handler would answer anything. -/
theorem anyReply_connect :
    Registration.last? (defaultRoutes ++ anyHistory) ⟨none, "/any"⟩ =
        some ⟨"/any", Handler.health, false⟩ ∧
      (∀ c, (Handler.health c).response.status = .ok) ∧
      (∀ v : Verb, v.name ≠ "CONNECT" ∧ v.name ≠ "PURGE") ∧
      (anyReply "CONNECT").map (fun reply => reply.response.status) = some .methodNotAllowed ∧
      (anyReply "PURGE").map (fun reply => reply.response.status) = some .methodNotAllowed := by
  refine ⟨last?_any, fun _ => rfl, fun v => ?_, anyReply_of_ofName? (by decide),
    anyReply_of_ofName? (by decide)⟩
  cases v <;> decide

end Server

end Gatehouse
