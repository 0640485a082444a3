import Gatehouse.Proofs.Route.Mounting
import Gatehouse.Proofs.Server.History

/-!
# Registrations that can be served

A registration is refused for its text alone, if its method is no verb or its path does not begin
with a slash (`RoutePattern.eq_of_ofString`). Whether its path can be mounted beside the others is
looked at only when the router is made. So a server that everything could be registered on has a
router exactly if the paths fit together, and loses it with the first registration whose path does
not fit among those before it (`Server.router_of_registerAll`). Plain paths always fit; a path that
is no template, or conflicts with another, is registered like any other and then nothing is served
(`Server.respond_of_unmounted`).
-/

namespace Gatehouse

/-! ## Refusals -/

/-- A text that is no pattern fails by one of two errors. -/
theorem RoutePattern.eq_of_ofString {text : String} {e : ServerError}
    (h : ofString text = .error e) :
    e = unsupported (Text.trim text) ∨ e = notRooted (Text.trim text) := by
  have hrooted : ∀ {verb path}, rooted (Text.trim text) verb path = .error e →
      e = notRooted (Text.trim text) := by
    intro verb path h
    rw [rooted] at h
    split_ifs at h
    exact (Except.error.inj h).symm
  simp only [ofString] at h
  split at h
  · exact Or.inr (hrooted h)
  · split at h
    · exact Or.inl (Except.error.inj h).symm
    · exact Or.inr (hrooted h)

namespace Registration

/-- The path of a registration that succeeds. -/
def path? (r : Registration) : Option String :=
  match RoutePattern.ofString r.pattern with
  | .ok p => some p.path
  | .error _ => none

/-- The paths of those of a history that succeed, in order. -/
def paths (history : List Registration) : List String :=
  history.filterMap path?

theorem path?_of_ofString {r : Registration} {p : RoutePattern}
    (h : RoutePattern.ofString r.pattern = .ok p) : r.path? = some p.path := by
  rw [path?, h]

theorem paths_append (before after : List Registration) :
    paths (before ++ after) = paths before ++ paths after :=
  List.filterMap_append

end Registration

namespace Server

variable {σ : Type} {s t u : Server σ} {event : LogEvent} {r : Registration}
  {rs : List Registration} {events : List LogEvent}

/-- A registration succeeds exactly if its text is a pattern, and then enters its handler for it. -/
theorem register_eq_ok_iff :
    s.register r = .ok (u, event) ↔ ∃ p, RoutePattern.ofString r.pattern = .ok p ∧
      u = { s with routes := s.routes.insert p r.route } ∧ event = r.event s.routes p := by
  rw [register, map_eq_ok_iff]
  simp only [Prod.mk.injEq, eq_comm]
  rfl

/-- A registration fails by its text alone. -/
theorem eq_of_register {e : ServerError} (h : s.register r = .error e) :
    e = RoutePattern.unsupported (Text.trim r.pattern) ∨
      e = RoutePattern.notRooted (Text.trim r.pattern) := by
  rw [register] at h
  cases hp : RoutePattern.ofString r.pattern with
  | ok p =>
    rw [hp] at h
    cases h
  | error e' =>
    rw [hp] at h
    obtain rfl := Except.error.inj h
    exact RoutePattern.eq_of_ofString hp

/-- Everything can be registered that has the form of a pattern, whatever there is already. -/
theorem exists_registerAll_iff : ∀ {rs : List Registration} {s : Server σ},
    (∃ t events, s.registerAll rs = .ok (t, events)) ↔
      ∀ r ∈ rs, ∃ p, RoutePattern.ofString r.pattern = .ok p
  | [], s => ⟨fun _ => nofun, fun _ => ⟨s, [], rfl⟩⟩
  | r :: rs, s => by
    rw [List.forall_mem_cons]
    constructor
    · rintro ⟨t, events, h⟩
      obtain ⟨⟨u, event⟩, hu, h⟩ := bind_eq_ok_iff.mp h
      obtain ⟨⟨v, events'⟩, hv, -⟩ := bind_eq_ok_iff.mp h
      obtain ⟨p, hp, -, -⟩ := register_eq_ok_iff.mp hu
      exact ⟨⟨p, hp⟩, exists_registerAll_iff.mp ⟨v, events', hv⟩⟩
    · rintro ⟨⟨p, hp⟩, hrs⟩
      obtain ⟨u, event, hu⟩ : ∃ u event, s.register r = .ok (u, event) :=
        ⟨_, _, register_eq_ok_iff.mpr ⟨p, hp, rfl, rfl⟩⟩
      obtain ⟨v, events', hv⟩ := (exists_registerAll_iff (s := u)).mpr hrs
      exact ⟨v, _ :: events', bind_eq_ok_iff.mpr ⟨_, hu, bind_eq_ok_iff.mpr ⟨_, hv, rfl⟩⟩⟩

/-! ## Paths -/

/-- A history adds the paths of its successes to the table. -/
theorem mem_paths_registerEach {path : String} : ∀ (rs : List Registration) (s : Server σ),
    path ∈ (s.registerEach rs).routes.paths ↔
      path ∈ Registration.paths rs ∨ path ∈ s.routes.paths
  | [], s => by simp [registerEach, Registration.paths]
  | r :: rs, s => by
    rw [registerEach_cons, Registration.paths, List.filterMap_cons, Registration.path?]
    cases RoutePattern.ofString r.pattern with
    | error e => exact mem_paths_registerEach rs s
    | ok p =>
      simp only [mem_paths_registerEach rs, Routes.mem_paths_insert, List.mem_cons]
      rw [← or_assoc, or_comm (a := path ∈ Registration.paths rs)]
      rfl

variable {plan : ServerPlan σ} {now : Instant} {built : List LogEvent}

/-- What is registered on a server can be served exactly if it can be mounted. -/
theorem isSome_router?_of_build (h : plan.build now = .ok (s, built)) (rs : List Registration) :
    (s.registerEach rs).router?.isSome = true ↔
      Template.Mountable (Registration.paths (defaultRoutes ++ rs)) := by
  rw [router?, Routes.isSome_router?_iff, registerEach_of_build h]
  refine Template.mountable_congr fun path => ?_
  rw [mem_paths_registerEach, or_iff_left]
  exact List.not_mem_nil

theorem isPlain_of_mem_defaultRoutes :
    ∀ path ∈ Registration.paths defaultRoutes, Template.IsPlain path := by
  have hpaths : Registration.paths defaultRoutes =
      ["/time", "/version", "/metrics", "/health", "/readiness", "/login"] := by
    decide
  rw [hpaths]
  decide

/-- Everything can be registered that has the form of a pattern, and nothing else. What has been
registered can be served exactly if the paths of all of it can be mounted together, as plain ones
always can be. One more registration is refused for its text alone; if it succeeds, there is still a
router exactly if there was one before and the path fits among the others. -/
theorem router_of_registerAll (h : plan.build now = .ok (s, built)) (rs : List Registration) :
    ((∃ t events, s.registerAll rs = .ok (t, events)) ↔
      ∀ r ∈ rs, ∃ p, RoutePattern.ofString r.pattern = .ok p) ∧
    ∀ t events, s.registerAll rs = .ok (t, events) →
      (t.router?.isSome = true ↔
        Template.Mountable (Registration.paths (defaultRoutes ++ rs))) ∧
      ((∀ path ∈ Registration.paths rs, Template.IsPlain path) → t.router?.isSome = true) ∧
      ∀ r,
        (∀ e, t.register r = .error e →
          e = RoutePattern.unsupported (Text.trim r.pattern) ∨
            e = RoutePattern.notRooted (Text.trim r.pattern)) ∧
        ∀ u event, t.register r = .ok (u, event) →
          ∃ p, RoutePattern.ofString r.pattern = .ok p ∧
            (u.router?.isSome = true ↔ t.router?.isSome = true ∧
              Template.Fits p.path (Registration.paths (defaultRoutes ++ rs))) := by
  refine ⟨exists_registerAll_iff, fun t events ht => ?_⟩
  obtain rfl := eq_registerEach_of_registerAll ht
  have hrouter := isSome_router?_of_build h rs
  refine ⟨hrouter, fun hplain => ?_, fun r => ⟨fun e => eq_of_register, fun u event hu => ?_⟩⟩
  · rw [hrouter, Registration.paths_append]
    refine Template.mountable_of_isPlain fun path hpath => ?_
    rcases List.mem_append.mp hpath with hpath | hpath
    · exact isPlain_of_mem_defaultRoutes path hpath
    · exact hplain path hpath
  · obtain ⟨p, hp, rfl, -⟩ := register_eq_ok_iff.mp hu
    -- The server with one more registration is that of a history with one more.
    have hnext : { s.registerEach rs with routes := (s.registerEach rs).routes.insert p r.route } =
        s.registerEach (rs ++ [r]) := by
      rw [registerEach_append, registerEach_cons, hp]
      rfl
    have hpaths : Registration.paths (defaultRoutes ++ (rs ++ [r])) =
        Registration.paths (defaultRoutes ++ rs) ++ [p.path] := by
      have hpath : Registration.paths [r] = [p.path] := by
        rw [Registration.paths, List.filterMap_cons, Registration.path?_of_ofString hp]
        rfl
      rw [← List.append_assoc, Registration.paths_append, hpath]
    refine ⟨p, hp, ?_⟩
    rw [hnext, isSome_router?_of_build h, hpaths, Template.mountable_append_singleton, hrouter]

/-- A page can be served; a path in another notation is registered beside it, and then not even the
page can be. -/
theorem router_of_registerAll_page :
    ∃ t events u event,
      small.registerAll [Registration.page "GET /hello" ⟨"Hello", "Hello World!"⟩] =
        .ok (t, events) ∧ t.router?.isSome = true ∧
      t.register ⟨"GET /:id", Handler.health, false⟩ = .ok (u, event) ∧
        u.router?.isSome = false := by
  obtain ⟨built, hbuild⟩ := build_small
  obtain ⟨hall, hrs⟩ :=
    router_of_registerAll hbuild [Registration.page "GET /hello" ⟨"Hello", "Hello World!"⟩]
  have hpattern : RoutePattern.ofString "GET /hello" = .ok ⟨some .get, "/hello"⟩ := by decide
  have hpattern' : RoutePattern.ofString "GET /:id" = .ok ⟨some .get, "/:id"⟩ := by decide
  obtain ⟨t, events, ht⟩ := hall.mpr (List.forall_mem_cons.mpr ⟨⟨_, hpattern⟩, nofun⟩)
  obtain ⟨-, hplain, hnext⟩ := hrs t events ht
  obtain ⟨u, event, hu⟩ : ∃ u event, t.register ⟨"GET /:id", Handler.health, false⟩ =
      .ok (u, event) := ⟨_, _, register_eq_ok_iff.mpr ⟨_, hpattern', rfl, rfl⟩⟩
  obtain ⟨p, hp, hiff⟩ := (hnext _).2 u event hu
  obtain rfl := Except.ok.inj (hpattern'.symm.trans hp)
  refine ⟨t, events, u, event, ht, hplain ?_, hu, Bool.eq_false_iff.mpr fun hsome => ?_⟩
  · have hpaths : Registration.paths
        [Registration.page "GET /hello" ⟨"Hello", "Hello World!"⟩] = ["/hello"] := by decide
    rw [hpaths]
    decide
  · obtain ⟨-, template, htemplate, -⟩ := hiff.mp hsome
    have hnone : Template.ofPath? "/:id" = none := by decide
    rw [hnone] at htemplate
    cases htemplate

variable [MeasureSink σ]

/-- Where the paths cannot be mounted together, all of them are registered and nothing is served. -/
theorem respond_of_not_mountable (h : plan.build now = .ok (s, built))
    (hrs : ∀ r ∈ rs, ∃ p, RoutePattern.ofString r.pattern = .ok p)
    (hpaths : ¬Template.Mountable (Registration.paths (defaultRoutes ++ rs))) :
    ∃ t events, s.registerAll rs = .ok (t, events) ∧ ∀ m r, t.respond m r = none := by
  obtain ⟨t, events, ht⟩ := exists_registerAll_iff.mpr hrs
  refine ⟨t, events, ht, fun m r => ?_⟩
  obtain rfl := eq_registerEach_of_registerAll ht
  rw [← isSome_router?_of_build h rs, Bool.not_eq_true, Option.isSome_eq_false_iff,
    Option.isNone_iff_eq_none] at hpaths
  rw [respond, hpaths, Option.map_none]

/-- Registrations that succeed, of a path that is no template and of two that conflict, after which
no request is answered. -/
theorem respond_of_unmounted :
    (∃ t events, small.registerAll [⟨"GET /:id", Handler.health, false⟩] = .ok (t, events) ∧
      ∀ m r, t.respond m r = none) ∧
    ∃ t events,
      small.registerAll [⟨"/a/\x7bx\x7d", Handler.health, false⟩,
        ⟨"/a/\x7by\x7d", Handler.health, false⟩] = .ok (t, events) ∧
      ∀ m r, t.respond m r = none := by
  obtain ⟨built, hbuild⟩ := build_small
  have hid : RoutePattern.ofString "GET /:id" = .ok ⟨some .get, "/:id"⟩ := by decide
  have hx : RoutePattern.ofString "/a/\x7bx\x7d" = .ok ⟨none, "/a/\x7bx\x7d"⟩ := by decide
  have hy : RoutePattern.ofString "/a/\x7by\x7d" = .ok ⟨none, "/a/\x7by\x7d"⟩ := by decide
  constructor
  · refine respond_of_not_mountable hbuild ?_ fun hmountable => ?_
    · exact List.forall_mem_cons.mpr ⟨⟨_, hid⟩, nofun⟩
    · obtain ⟨template, htemplate, -⟩ := hmountable "/:id" (by decide)
      have hnone : Template.ofPath? "/:id" = none := by decide
      rw [hnone] at htemplate
      cases htemplate
  · refine respond_of_not_mountable hbuild ?_ fun hmountable => ?_
    · exact List.forall_mem_cons.mpr ⟨⟨_, hx⟩, List.forall_mem_cons.mpr ⟨⟨_, hy⟩, nofun⟩⟩
    · obtain ⟨template, htemplate, hconflicts⟩ := hmountable "/a/\x7bx\x7d" (by decide)
      have hparameter : Template.ofPath? "/a/\x7bx\x7d" =
          some (Template.literals "/a/".toList ++ [.parameter ['x']]) := by decide
      have hparameter' : Template.ofPath? "/a/\x7by\x7d" =
          some (Template.literals "/a/".toList ++ [.parameter ['y']]) := by decide
      obtain rfl := Option.some.inj (hparameter.symm.trans htemplate)
      exact absurd (hconflicts "/a/\x7by\x7d" (by decide) (by decide) _ hparameter') (by decide)

end Server

end Gatehouse
