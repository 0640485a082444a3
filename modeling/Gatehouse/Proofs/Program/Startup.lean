import Gatehouse.Program.Startup
import Gatehouse.Proofs.Server.Account
import Gatehouse.Proofs.Server.Mounting

/-!
# Starting

Between reading its configuration and binding its address the program makes a registry, a codec and
a server with nine routes, and each of these steps could fail. With a configuration that keeps every
rule none does : the rules see to the secret and the life of tokens (`TokenSettings.IsUsable`), and
the patterns of the routes are plain, whatever the name of the application
(`Startup.isSome_router?_pages`). So the only thing that can end the program then is that its
address cannot be had (`Startup.attempt_of_service`).
-/

namespace Gatehouse

/-- An exporter that takes all bounds that there are takes those of durations. -/
theorem Registry.create_eq_ok {ε : Type} {setBounds : List Binary64 → Except ε Unit}
    (h : ∀ bounds, bounds ≠ [] → setBounds bounds = .ok ()) (app : String) :
    create setBounds app = .ok (.new app) := by
  have hnonempty : durationBounds ≠ [] := List.cons_ne_nil _ _
  rw [create, h _ hnonempty]
  rfl

/-- A codec for tokens of a usable life issues one for every user. -/
theorem TokenCodec.exists_issue {codec : TokenCodec} (hclock : codec.clock = .system)
    (hleast : 1 ≤ codec.minutes) (hmost : codec.minutes ≤ Rule.maxDuration) (user : User)
    {now : Instant} (hnow : now.LeavesRoom) (tokenId : String) :
    ∃ token, codec.issue user now tokenId = .ok token := by
  obtain ⟨claims, hclaims⟩ : ∃ claims, codec.claims user now tokenId = .ok claims := by
    rw [TokenCodec.claims, hclock]
    exact ⟨_, Token.claims_eq_ok_iff.mpr ⟨hleast, hnow.inRange_add hleast hmost, rfl⟩⟩
  exact ⟨_, map_eq_ok_iff.mpr ⟨claims, hclaims, rfl⟩⟩

namespace Startup

/-! ## Routes -/

theorem ofString_pages :
    RoutePattern.ofString "GET /" = .ok ⟨some .get, "/"⟩ ∧
      RoutePattern.ofString "GET /hello" = .ok ⟨some .get, "/hello"⟩ ∧
        RoutePattern.ofString "GET /protected" = .ok ⟨some .get, "/protected"⟩ := by
  decide

theorem exists_pattern_of_mem_pages (appName : String) :
    ∀ r ∈ pages appName, ∃ p, RoutePattern.ofString r.pattern = .ok p := by
  obtain ⟨hroot, hhello, hprotected⟩ := ofString_pages
  simp [pages, Registration.rootPage, Registration.page, hroot, hhello, hprotected]

theorem paths_pages (appName : String) :
    Registration.paths (pages appName) = ["/", "/hello", "/protected"] := by
  obtain ⟨hroot, hhello, hprotected⟩ := ofString_pages
  simp [Registration.paths, Registration.path?, pages, Registration.rootPage, Registration.page,
    hroot, hhello, hprotected]

/-- These paths have no parameters. -/
theorem isPlain_of_mem_pages (appName : String) :
    ∀ path ∈ Registration.paths (pages appName), Template.IsPlain path := by
  rw [paths_pages]
  decide

/-- The pages of the program can be served beside the default routes. -/
theorem isSome_router?_pages {σ : Type} {plan : ServerPlan σ} {now : Instant} {s : Server σ}
    {events : List LogEvent} (h : plan.build now = .ok (s, events)) (appName : String) :
    (s.registerEach (pages appName)).router?.isSome = true := by
  rw [Server.isSome_router?_of_build h, Registration.paths_append]
  refine Template.mountable_of_isPlain fun path hpath => ?_
  rcases List.mem_append.mp hpath with hpath | hpath
  · exact Server.isPlain_of_mem_defaultRoutes path hpath
  · exact isPlain_of_mem_pages appName path hpath

/-! ## Servers -/

/-- The server of a program that has come to binding its address. -/
structure IsBindable (c : ServiceSettings) (s : Server Registry) : Prop where
  listen : s.listen = c.listen.socketAddress
  sink : s.sink = .new c.appName
  /-- There is a router, so the server can be served. -/
  router : s.router?.isSome = true
  /-- A token can be issued for every user, as long as the longest life of one ends in range. -/
  issues : ∀ user now tokenId, now.LeavesRoom →
    ∃ token, s.service.codec.issue user now tokenId = .ok token

variable {c : ServiceSettings} {plan : ServerPlan Registry}

/-- The server of a plan is built with its routes and pages, whenever that is. -/
theorem exists_server (c : ServiceSettings) (plan : ServerPlan Registry) (started : Instant) :
    ∃ built events s more,
      { plan with version := some (appInfo c.listen.socketAddress) }.build started =
        .ok (built, events) ∧
      built.registerAll (pages c.appName) = .ok (s, more) ∧
      server c plan started = .ok (s, accountEvent c :: events ++ more) := by
  obtain ⟨built, events, hbuilt⟩ : ∃ built events,
      { plan with version := some (appInfo c.listen.socketAddress) }.build started =
        .ok (built, events) :=
    ⟨(ServerPlan.bare _ started).registerEach Server.defaultRoutes, _, rfl⟩
  obtain ⟨s, more, hs⟩ := (Server.exists_registerAll_iff (s := built)).mpr
    (exists_pattern_of_mem_pages c.appName)
  exact ⟨built, events, s, more, hbuilt, hs,
    bind_eq_ok_iff.mpr ⟨_, hbuilt, bind_eq_ok_iff.mpr ⟨_, hs, rfl⟩⟩⟩

/-- What is registered on the server of a plan changes nothing but its table. -/
theorem eq_plan_of_registerAll {p : ServerPlan Registry} {started : Instant}
    {built s : Server Registry} {events more : List LogEvent} {rs : List Registration}
    (hbuilt : p.build started = .ok (built, events)) (hs : built.registerAll rs = .ok (s, more)) :
    s.listen = p.listen ∧ s.sink = p.sink ∧ s.service = p.service started := by
  rw [Server.eq_registerEach_of_registerAll hs, Server.registerEach_of_build hbuilt,
    Server.registerEach_eq]
  exact ⟨rfl, rfl, rfl⟩

/-- The server that is built for a configuration is one to be bound. -/
theorem isBindable_of_registerAll (husable : c.token.IsUsable) {planned : Instant}
    (hplan : ServerPlan.ofConfig c (Registry.new c.appName) planned = .ok plan)
    (hcodec : plan.codec = ⟨c.token.secretBytes, c.token.issuer, c.token.durationMinutes, .system⟩)
    {started : Instant} {built s : Server Registry} {events more : List LogEvent}
    (hbuilt : { plan with version := some (appInfo c.listen.socketAddress) }.build started =
      .ok (built, events))
    (hs : built.registerAll (pages c.appName) = .ok (s, more)) : IsBindable c s := by
  obtain ⟨hlisten, hsink, hservice⟩ := eq_plan_of_registerAll hbuilt hs
  have hissue : s.service.codec = plan.codec := by rw [hservice]; rfl
  obtain ⟨codec, -, rfl⟩ := map_eq_ok_iff.mp hplan
  refine ⟨hlisten, hsink, ?_, fun user now tokenId hnow => ?_⟩
  · rw [Server.eq_registerEach_of_registerAll hs]
    exact isSome_router?_pages hbuilt c.appName
  · rw [hissue, hcodec]
    exact TokenCodec.exists_issue rfl husable.least husable.most user hnow tokenId

/-! ## Attempts -/

/-- With a configuration that keeps every rule nothing can fail until the address is bound : neither
the registry, if its exporter refuses no bounds that there are, nor the codec, nor the server with
its routes and pages, at whatever instants they are made. Whatever is built can be served and issues
tokens. So an attempt to start ends with a server, or because its address cannot be had. -/
theorem attempt_of_service {source : Source} (h : source.service = .ok c) {ε : Type}
    {setBounds : List Binary64 → Except ε Unit}
    (hbounds : ∀ bounds, bounds ≠ [] → setBounds bounds = .ok ()) :
    Registry.create setBounds c.appName = .ok (.new c.appName) ∧
    (∀ planned : Instant, planned.LeavesRoom →
      ∃ plan, ServerPlan.ofConfig c (Registry.new c.appName) planned = .ok plan ∧
        ∀ started, ∃ built events s more,
          { plan with version := some (appInfo c.listen.socketAddress) }.build started =
            .ok (built, events) ∧
          built.registerAll (pages c.appName) = .ok (s, more) ∧ IsBindable c s) ∧
    ∀ host : Host, (∀ bounds, bounds ≠ [] → host.setBounds bounds = .ok ()) →
      host.systemNow.LeavesRoom → ∃ s, IsBindable c s ∧
        (attempt host c).2 =
          match host.refusal c.listen.socketAddress with
          | some reason => .error (.server (.bind c.listen.socketAddress reason))
          | none => .ok s := by
  have husable := TokenSettings.isUsable_of_service h
  refine ⟨Registry.create_eq_ok hbounds c.appName, fun planned hplanned => ?_,
    fun host htakes hhost => ?_⟩
  · obtain ⟨plan, hplan, hcodec, -⟩ :=
      ServerPlan.ofConfig_of_isUsable husable (Registry.new c.appName) hplanned
    refine ⟨plan, hplan, fun started => ?_⟩
    obtain ⟨built, events, s, more, hbuilt, hs, -⟩ := exists_server c plan started
    exact ⟨built, events, s, more, hbuilt, hs,
      isBindable_of_registerAll husable hplan hcodec hbuilt hs⟩
  · obtain ⟨plan, hplan, hcodec, -⟩ :=
      ServerPlan.ofConfig_of_isUsable husable (Registry.new c.appName) hhost
    obtain ⟨built, events, s, more, hbuilt, hs, hserver⟩ := exists_server c plan host.systemNow
    have hbindable := isBindable_of_registerAll husable hplan hcodec hbuilt hs
    refine ⟨s, hbindable, ?_⟩
    rw [attempt, Registry.create_eq_ok htakes]
    simp only [hplan, hserver, bound, Server.bind, hbindable.listen]
    cases host.refusal c.listen.socketAddress <;> rfl

/-- A host whose address is taken, and one where it is not, with an exporter that takes all bounds
but none. -/
theorem attempt_of_service_withLogin :
    (Source.withLogin "goadmin").service = .ok (.withLogin "goadmin") ∧
      (attempt ⟨Instant.epoch, fun _ => none, fun _ => some "address in use",
        fun bounds => if bounds.isEmpty then .error "no bounds" else .ok ()⟩
        (.withLogin "goadmin")).2 =
          .error (.server (.bind ⟨.v4 0 0 0 0, 9999, 0⟩ "address in use")) ∧
      ∃ s, IsBindable (.withLogin "goadmin") s ∧
        (attempt ⟨Instant.epoch, fun _ => none, fun _ => none,
          fun bounds => if bounds.isEmpty then .error "no bounds" else .ok ()⟩
          (.withLogin "goadmin")).2 = .ok s := by
  have hservice : (Source.withLogin "goadmin").service = .ok (.withLogin "goadmin") := by
    decide +kernel
  have hepoch : Instant.epoch.LeavesRoom := ⟨by decide, by decide⟩
  have hbounds : ∀ bounds : List Binary64, bounds ≠ [] →
      (if bounds.isEmpty then .error "no bounds" else .ok () : Except String Unit) = .ok () := by
    intro bounds hne
    rw [if_neg (by simpa using hne)]
  obtain ⟨-, -, hattempt⟩ := attempt_of_service hservice hbounds
  obtain ⟨_, -, htaken⟩ := hattempt ⟨Instant.epoch, fun _ => none,
    fun _ => some "address in use", _⟩ hbounds hepoch
  obtain ⟨s, hs, hfree⟩ := hattempt ⟨Instant.epoch, fun _ => none, fun _ => none, _⟩ hbounds hepoch
  exact ⟨hservice, htaken, s, hs, hfree⟩

end Startup

end Gatehouse
