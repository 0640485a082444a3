import Gatehouse.Proofs.Server.Conservation
import Gatehouse.Proofs.Server.Login

/-!
# Requests do not influence each other

Of what happens to a server its handlers see the service, which no request changes, and the text of
what has been measured, which one of them shows. So two servers with one history of registrations,
whatever they measure into and whatever requests have come to them before, answer the next request
alike once their services are equally ready and their clocks read the same (`Traffic.agrees_run`).
What is left of the difference is told by the handler that is called (`Response.Agrees`) : the time
of the system, the id of a token, and what has been measured.

The handlers of other programs are not held to this, since they may show whatever they are called
with (`Handler.IsOwn`).
-/

namespace Gatehouse

/-! ## Calls that are alike -/

/-- Two services of which one account can be had under one version, with tokens of one kind. -/
structure Service.IsKin (s s' : Service) : Prop where
  secret : s'.codec.secret = s.codec.secret
  issuer : s'.codec.issuer = s.codec.issuer
  minutes : s'.codec.minutes = s.codec.minutes
  administrator : s'.administrator = s.administrator
  version : s'.version = s.version

namespace Service.IsKin

variable {s s' s'' : Service}

theorem refl (s : Service) : s.IsKin s :=
  ⟨rfl, rfl, rfl, rfl, rfl⟩

theorem symm (h : s.IsKin s') : s'.IsKin s :=
  ⟨h.secret.symm, h.issuer.symm, h.minutes.symm, h.administrator.symm, h.version.symm⟩

theorem trans (h : s.IsKin s') (h' : s'.IsKin s'') : s.IsKin s'' where
  secret := h'.secret.trans h.secret
  issuer := h'.issuer.trans h.issuer
  minutes := h'.minutes.trans h.minutes
  administrator := h'.administrator.trans h.administrator
  version := h'.version.trans h.version

end Service.IsKin

/-- Two calls for one request, of services that are equally ready and whose clocks read the same. -/
structure Call.Alike (c c' : Call) : Prop where
  request : c'.request = c.request
  identity : c'.identity = c.identity
  service : c.service.IsKin c'.service
  isReady : c'.service.isReady = c.service.isReady
  now : c'.service.codec.clock.now c'.moment.systemNow =
    c.service.codec.clock.now c.moment.systemNow

variable {c c' : Call}

theorem Call.Alike.symm (h : c.Alike c') : c'.Alike c where
  request := h.request.symm
  identity := h.identity.symm
  service := h.service.symm
  isReady := h.isReady.symm
  now := h.now.symm

/-- Both requests pass the gate with the same claims, or neither does. -/
theorem Gate.check_of_alike (h : c.Alike c') :
    check c'.service.codec c'.moment.systemNow c'.request.headers =
      check c.service.codec c.moment.systemNow c.request.headers := by
  rw [check, check, h.request]
  simp only [TokenCodec.verify, h.service.secret, h.now]

/-! ## Handlers -/

/-- Claims of one moment differ in nothing but the token that they are for. -/
theorem Token.claims_of_claims {user : User} {issuer : String} {minutes : Int} {now : Instant}
    {tokenId : String} {claims : Claims}
    (h : Token.claims user issuer minutes now tokenId = .ok claims) (tokenId' : String) :
    Token.claims user issuer minutes now tokenId' = .ok { claims with tokenId := tokenId' } := by
  obtain ⟨hminutes, hrange, rfl⟩ := claims_eq_ok_iff.mp h
  exact claims_eq_ok_iff.mpr ⟨hminutes, hrange, rfl⟩

/-- Calls that are alike make the same claims, but for the id of the token. -/
theorem Login.attempt_of_alike (h : c.Alike c') {claims : Claims} (hok : attempt c = .ok claims) :
    attempt c' = .ok { claims with tokenId := c'.moment.tokenId } := by
  obtain ⟨hform, hlogin, hclaims⟩ := attempt_eq_ok_iff.mp hok
  rw [attempt_eq_ok_iff, h.request, h.service.administrator]
  refine ⟨hform, hlogin, ?_⟩
  rw [TokenCodec.claims, h.service.issuer, h.service.minutes, h.now]
  exact Token.claims_of_claims hclaims _

namespace Handler

/-- The handlers that are there for every server to register. -/
inductive IsOwn : Handler → Prop
  | time : IsOwn time
  | version : IsOwn version
  | metrics : IsOwn metrics
  | health : IsOwn health
  | readiness : IsOwn readiness
  | login : IsOwn login
  | showClaims : IsOwn showClaims
  | page (p : Page) : IsOwn (page p)
  | rootPage (p : Page) : IsOwn (rootPage p)

/-- The default routes have handlers that the server has of its own. -/
theorem isOwn_of_mem_defaultRoutes {r : Registration} (h : r ∈ Server.defaultRoutes) :
    r.handler.IsOwn := by
  simp only [Server.defaultRoutes, List.mem_cons, List.not_mem_nil, or_false] at h
  rcases h with rfl | rfl | rfl | rfl | rfl | rfl
  · exact .time
  · exact .version
  · exact .metrics
  · exact .health
  · exact .readiness
  · exact .login

/-- Claims are shown by the identity alone. -/
theorem showClaims_eq (c : Call) :
    (showClaims c).delay.nanos = 0 ∧
      (showClaims c).response =
        match c.identity with
        | none => AuthError.missingIdentity.response
        | some claims =>
          if claims.isAdmin = true then .json .ok claims.toJson
          else .text .forbidden "User is not admin" := by
  obtain ⟨service, moment, request, identity, exposition⟩ := c
  cases identity with
  | none => exact ⟨rfl, rfl⟩
  | some claims => exact showClaims_of_identity ⟨service, moment, request, none, exposition⟩ claims

/-- None of them waits. -/
theorem IsOwn.delay {handler : Handler} (h : handler.IsOwn) (c : Call) :
    (handler c).delay.nanos = 0 := by
  cases h with
  | login => exact delay_login c
  | showClaims => exact (showClaims_eq c).1
  | _ => rfl

/-- A login is refused to both, or both are issued a token with the same claims but its id. -/
theorem response_login_of_alike (h : c.Alike c') :
    (login c).response = Login.refused ∧ (login c').response = Login.refused ∨
      ∃ claims : Claims,
        (login c).response = Login.success
          (Token.sign { claims with tokenId := c.moment.tokenId } c.service.codec.secret) ∧
        (login c').response = Login.success
          (Token.sign { claims with tokenId := c'.moment.tokenId } c.service.codec.secret) := by
  rw [response_login, response_login]
  cases hattempt : Login.attempt c with
  | ok claims =>
    have hattempt' := Login.attempt_of_alike h hattempt
    have hown := Login.attempt_of_alike h.symm hattempt'
    have hid : claims = { claims with tokenId := c.moment.tokenId } :=
      Except.ok.inj (hattempt.symm.trans hown)
    rw [hattempt', ← h.service.secret]
    refine Or.inr ⟨claims, ?_, rfl⟩
    rw [← hid, h.service.secret]
    rfl
  | error e =>
    cases hattempt' : Login.attempt c' with
    | ok claims =>
      have hok := Login.attempt_of_alike h.symm hattempt'
      rw [hattempt] at hok
      cases hok
    | error e' => exact Or.inl ⟨rfl, rfl⟩

/-- Only three of them tell calls apart that are alike. -/
theorem IsOwn.response_of_alike {handler : Handler} (hown : handler.IsOwn) (h : c.Alike c')
    (hmetrics : handler ≠ Handler.metrics) (htime : handler ≠ Handler.time)
    (hlogin : handler ≠ Handler.login) : (handler c').response = (handler c).response := by
  cases hown with
  | time => exact absurd rfl htime
  | metrics => exact absurd rfl hmetrics
  | login => exact absurd rfl hlogin
  | version =>
    rw [Handler.version, Handler.version, h.service.version]
    rfl
  | readiness =>
    rw [Handler.readiness, Handler.readiness, h.isReady]
    rfl
  | showClaims => rw [(showClaims_eq c').2, (showClaims_eq c).2, h.identity]
  | health => rfl
  | page p => rfl
  | rootPage p => rfl

end Handler

/-! ## Replies -/

/-- The handler of an entry that is called, if the gate lets it be. -/
def Dispatch.called? (d : Dispatch Handler) (c : Call) : Option Handler :=
  match d with
  | .unmatched | .refused _ => none
  | .entry _ e =>
    if e.isProtected then
      match Gate.check c.service.codec c.moment.systemNow c.request.headers with
      | .ok _ => some e.handler
      | .error _ => none
    else some e.handler

/-- How the responses to calls that are alike compare if they come at two moments and `called?` is
the handler that is called. -/
structure Response.Agrees (called? : Option Handler) (secret : Bytes) (m m' : Moment)
    (r r' : Response) : Prop where
  /-- Unless it is one of three, they are the same. -/
  same : called? ≠ some Handler.metrics → called? ≠ some Handler.time →
    called? ≠ some Handler.login → r' = r
  /-- One of the three shows the time of the system. -/
  time : called? = some Handler.time →
    r = .json .ok (.object [("time", .string m.systemNow.rfc3339Seconds)]) ∧
      r' = .json .ok (.object [("time", .string m'.systemNow.rfc3339Seconds)])
  /-- One refuses both, or issues tokens with the same claims but their ids. -/
  login : called? = some Handler.login →
    r = Login.refused ∧ r' = Login.refused ∨
      ∃ claims : Claims,
        r = Login.success (Token.sign { claims with tokenId := m.tokenId } secret) ∧
        r' = Login.success (Token.sign { claims with tokenId := m'.tokenId } secret)

namespace Response.Agrees

variable {called? : Option Handler} {secret : Bytes} {m m' : Moment} {r r' : Response}

theorem of_none (secret : Bytes) (m m' : Moment) (r : Response) : Agrees none secret m m' r r :=
  ⟨fun _ _ _ => rfl, nofun, nofun⟩

/-- Handlers of its own answer alike to calls that are alike. -/
theorem of_own {handler : Handler} (hown : handler.IsOwn) (h : c.Alike c') :
    Agrees (some handler) c.service.codec.secret c.moment c'.moment (handler c).response
      (handler c').response where
  same hmetrics htime hlogin :=
    hown.response_of_alike h (fun heq => hmetrics (congrArg some heq))
      (fun heq => htime (congrArg some heq)) fun heq => hlogin (congrArg some heq)
  time hcalled := by
    rw [Option.some.inj hcalled]
    exact ⟨rfl, rfl⟩
  login hcalled := by
    rw [Option.some.inj hcalled]
    exact Handler.response_login_of_alike h

/-- What was measured apart, only the bodies can differ. -/
theorem head (h : Agrees called? secret m m' r r') (hcalled : called? ≠ some Handler.metrics) :
    r'.status = r.status ∧ r'.contentType = r.contentType ∧ r'.allow = r.allow := by
  by_cases htime : called? = some Handler.time
  · obtain ⟨rfl, rfl⟩ := h.time htime
    simp only [json, and_self]
  · by_cases hlogin : called? = some Handler.login
    · rcases h.login hlogin with ⟨rfl, rfl⟩ | ⟨claims, rfl, rfl⟩
      · exact ⟨rfl, rfl, rfl⟩
      · simp only [Login.success, json, and_self]
    · rw [h.same hcalled htime hlogin]
      exact ⟨rfl, rfl, rfl⟩

/-- They are the same if the time is and the ids of tokens are. -/
theorem eq_of_moment (h : Agrees called? secret m m' r r')
    (hcalled : called? ≠ some Handler.metrics)
    (hnow : m'.systemNow.rfc3339Seconds = m.systemNow.rfc3339Seconds)
    (hid : m'.tokenId = m.tokenId) : r' = r := by
  by_cases htime : called? = some Handler.time
  · obtain ⟨rfl, rfl⟩ := h.time htime
    rw [hnow]
  · by_cases hlogin : called? = some Handler.login
    · rcases h.login hlogin with ⟨rfl, rfl⟩ | ⟨claims, rfl, rfl⟩
      · rfl
      · rw [hid]
    · exact h.same hcalled htime hlogin

end Response.Agrees

namespace Dispatch

variable {d : Dispatch Handler}

/-- The gate lets both requests pass to the handler, or refuses both alike. -/
theorem agrees_reply (hown : d.Meets fun e => e.handler.IsOwn) (h : c.Alike c') :
    (d.reply c).delay.nanos = 0 ∧ (d.reply c').delay.nanos = 0 ∧
      Response.Agrees (d.called? c) c.service.codec.secret c.moment c'.moment
        (d.reply c).response (d.reply c').response := by
  cases d with
  | unmatched => exact ⟨rfl, rfl, .of_none _ _ _ _⟩
  | refused resource => exact ⟨rfl, rfl, .of_none _ _ _ _⟩
  | entry resource e =>
    have hhandler : e.handler.IsOwn := hown resource e rfl
    have hcheck := Gate.check_of_alike h
    -- Whom the gate finds is the same for both, and the handler is called with nobody else.
    have hidentity : ∀ identity,
        Call.Alike { c with identity := identity } { c' with identity := identity } :=
      fun identity => ⟨h.request, rfl, h.service, h.isReady, h.now⟩
    cases hprotected : e.isProtected with
    | false =>
      have hcalled : (entry resource e).called? c = some e.handler := by
        rw [called?, hprotected]
        rfl
      rw [hcalled, reply, reply, Route.reply_of_unguarded hprotected,
        Route.reply_of_unguarded hprotected]
      exact ⟨hhandler.delay _, hhandler.delay _, .of_own hhandler (hidentity none)⟩
    | true =>
      cases hpassed : Gate.check c.service.codec c.moment.systemNow c.request.headers with
      | error refusal =>
        have hcalled : (entry resource e).called? c = none := by
          rw [called?, if_pos hprotected, hpassed]
        rw [hcalled, reply, reply, Route.reply_of_refused hprotected hpassed,
          Route.reply_of_refused hprotected (hcheck.trans hpassed)]
        exact ⟨rfl, rfl, .of_none _ _ _ _⟩
      | ok claims =>
        have hcalled : (entry resource e).called? c = some e.handler := by
          rw [called?, if_pos hprotected, hpassed]
        rw [hcalled, reply, reply, Route.reply_of_passed hprotected hpassed,
          Route.reply_of_passed hprotected (hcheck.trans hpassed)]
        exact ⟨hhandler.delay _, hhandler.delay _, .of_own hhandler (hidentity (some claims))⟩

end Dispatch

/-! ## Runs of requests -/

/-- Servers whose calls are alike answer alike. -/
theorem Server.agrees_respond {σ τ : Type} [MeasureSink σ] [MeasureSink τ] {s : Server σ}
    {t : Server τ} {router : Router Handler} (hown : s.Admits fun e => e.handler.IsOwn)
    (hrouter : s.router? = some router) (hrouter' : t.router? = some router) {m m' : Moment}
    {r : Request} (h : (s.call m r).Alike (t.call m' r)) :
    ∃ reply reply', (s.respond m r).map Prod.fst = some reply ∧
      (t.respond m' r).map Prod.fst = some reply' ∧
        Response.Agrees ((router.dispatch r.method r.path).called? (s.call m r))
          s.service.codec.secret m m' reply.response reply'.response := by
  obtain ⟨hdelay, hdelay', hagrees⟩ :=
    Dispatch.agrees_reply (hown.meets hrouter r.method r.path) h
  refine ⟨_, _, map_fst_respond hrouter m r, map_fst_respond hrouter' m' r, ?_⟩
  rw [reply, reply, Reply.within_of_delay hdelay, Reply.within_of_delay hdelay']
  exact hagrees

namespace Traffic

/-- A step by which a service changes in nothing but its clock and its state. -/
def Step.Keeps (base : Service) : Step → Prop
  | .become service => base.IsKin service
  | .register _ | .arrive .. | .complete _ => True

variable {σ τ : Type} [MeasureSink σ] [MeasureSink τ]

theorem isKin_step {base : Service} {x : Step} (hx : x.Keeps base) {t : Traffic σ}
    (h : base.IsKin t.server.service) : base.IsKin (t.step x).server.service := by
  cases x with
  | register r =>
    rw [step, Server.registerEach_eq]
    exact h
  | become service => exact hx
  | arrive m r cut =>
    cases hrouter : t.server.router? with
    | none => rwa [step, hrouter]
    | some router =>
      rw [step_arrive hrouter]
      exact h
  | complete n =>
    cases hflight : t.inFlight[n]? with
    | none => rwa [step, hflight]
    | some f =>
      rw [step_complete hflight]
      exact h

/-- Steps that keep the service but for its clock and its readiness leave its kin. -/
theorem isKin_run {base : Service} {steps : List Step} (hsteps : ∀ x ∈ steps, x.Keeps base)
    {t : Traffic σ} (h : base.IsKin t.server.service) :
    base.IsKin (t.run steps).server.service :=
  run_induction (I := fun t => base.IsKin t.server.service)
    (fun x hx _ => isKin_step (hsteps x hx)) h

/-- Two servers that have the same registered answer the next request alike, whatever they measure
into and whatever has come to them before, if by then their services are equally ready and their
clocks read the same. Only what has been measured tells them apart, and the time of the system and
the ids of tokens, where these are not the same either. -/
theorem agrees_run {plan : ServerPlan σ} {plan' : ServerPlan τ} {now now' : Instant}
    {s : Server σ} {s' : Server τ} {events events' : List LogEvent}
    (h : plan.build now = .ok (s, events)) (h' : plan'.build now' = .ok (s', events'))
    (hkin : s.service.IsKin s'.service) {steps steps' : List Step}
    (hkeeps : ∀ x ∈ steps, x.Keeps s.service) (hkeeps' : ∀ x ∈ steps', x.Keeps s'.service)
    (hhistory : history steps' = history steps)
    (hown : ∀ r ∈ history steps, r.handler.IsOwn)
    {t : Traffic σ} {t' : Traffic τ} (ht : run ⟨s, [], []⟩ steps = t)
    (ht' : run ⟨s', [], []⟩ steps' = t') {router : Router Handler}
    (hrouter : t.server.router? = some router)
    (hready : t'.server.service.isReady = t.server.service.isReady) (m m' : Moment)
    (hnow : t'.server.service.codec.clock.now m'.systemNow =
      t.server.service.codec.clock.now m.systemNow) (r : Request) :
    ∃ called? reply reply',
      called? = (router.dispatch r.method r.path).called? (t.server.call m r) ∧
      (t.server.respond m r).map Prod.fst = some reply ∧
      (t'.server.respond m' r).map Prod.fst = some reply' ∧
      Response.Agrees called? s.service.codec.secret m m' reply.response reply'.response ∧
      (called? ≠ some Handler.metrics →
        reply'.response.status = reply.response.status ∧
        reply'.response.contentType = reply.response.contentType ∧
        reply'.response.allow = reply.response.allow ∧
        (m'.systemNow.rfc3339Seconds = m.systemNow.rfc3339Seconds → m'.tokenId = m.tokenId →
          reply'.response = reply.response)) := by
  subst ht ht'
  have hservice : s.service.IsKin (run ⟨s, [], []⟩ steps).server.service :=
    isKin_run hkeeps (.refl _)
  have hservice' : s'.service.IsKin (run ⟨s', [], []⟩ steps').server.service :=
    isKin_run hkeeps' (.refl _)
  have hroutes := routes_run steps ⟨s, [], []⟩
  have hroutes' := routes_run steps' ⟨s', [], []⟩
  -- Both tables begin with the default routes and go on with the same history.
  have htables : (s'.registerEach (history steps')).routes =
      (s.registerEach (history steps)).routes := by
    rw [hhistory, Server.registerEach_of_build h, Server.registerEach_of_build h']
    have hbare : (plan'.bare now').routes = (plan.bare now).routes := rfl
    exact Server.routes_registerEach_congr hbare _
  have hadmits : (run ⟨s, [], []⟩ steps).server.Admits fun e => e.handler.IsOwn :=
    ((Server.admits_of_build h fun r => Handler.isOwn_of_mem_defaultRoutes).registerEach
      hown).of_routes_eq hroutes
  generalize run ⟨s, [], []⟩ steps = t at *
  generalize run ⟨s', [], []⟩ steps' = t' at *
  have hrouter' : t'.server.router? = some router := by
    rw [Server.router?, hroutes', htables, ← hroutes]
    exact hrouter
  have halike : (t.server.call m r).Alike (t'.server.call m' r) :=
    ⟨rfl, rfl, (hservice.symm.trans hkin).trans hservice', hready, hnow⟩
  obtain ⟨reply, reply', hreply, hreply', hagrees⟩ :=
    Server.agrees_respond hadmits hrouter hrouter' halike
  rw [hservice.secret] at hagrees
  refine ⟨_, reply, reply', rfl, hreply, hreply', hagrees, fun hcalled => ?_⟩
  obtain ⟨hstatus, htype, hallow⟩ := hagrees.head hcalled
  exact ⟨hstatus, htype, hallow, hagrees.eq_of_moment hcalled⟩

/-- The same registration as on the busy server, after a login that fails while the server is about
to stop. -/
def idleSteps : List Step :=
  [.become { Server.small.service with lifecycle := .shuttingDown },
    .arrive ⟨Instant.epoch, "u", "1", none, ⟨0⟩⟩ ⟨"POST", "/login", [], []⟩ none,
    .register (Registration.rootPage ⟨"Gatehouse", ""⟩),
    .become Server.small.service]

/-- The busy server, which counts, and the idle one, which does not, show the same page. -/
theorem agrees_run_busy :
    ∃ reply reply',
      ((run ⟨counting, [], []⟩ busySteps).server.respond ⟨Instant.epoch, "t", "4", none, ⟨0⟩⟩
        ⟨"GET", "/", [], []⟩).map Prod.fst = some reply ∧
      ((run ⟨Server.small, [], []⟩ idleSteps).server.respond ⟨Instant.epoch, "u", "2", none, ⟨0⟩⟩
        ⟨"GET", "/", [], []⟩).map Prod.fst = some reply' ∧
      reply'.response = reply.response := by
  obtain ⟨events, hbuild⟩ := exists_build_counting
  obtain ⟨events', hbuild'⟩ := Server.build_small
  have hkeeps : ∀ x ∈ busySteps, x.Keeps counting.service := by
    simp [busySteps, Step.Keeps]
  have hkeeps' : ∀ x ∈ idleSteps, x.Keeps Server.small.service := by
    simp only [idleSteps, List.forall_mem_cons, Step.Keeps, true_and]
    exact ⟨⟨rfl, rfl, rfl, rfl, rfl⟩, .refl _, nofun⟩
  have hown : ∀ r ∈ history busySteps, r.handler.IsOwn := by
    intro r hr
    obtain rfl := List.mem_singleton.mp hr
    exact .rootPage _
  have hsome : (run ⟨counting, [], []⟩ busySteps).server.router?.isSome = true := by
    decide +kernel
  obtain ⟨router, hrouter⟩ := Option.isSome_iff_exists.mp hsome
  obtain ⟨called?, reply, reply', hcalled, hreply, hreply', hagrees, -⟩ :=
    agrees_run hbuild hbuild' ⟨rfl, rfl, rfl, rfl, rfl⟩ hkeeps hkeeps' rfl hown rfl rfl hrouter
      (by decide +kernel) ⟨Instant.epoch, "t", "4", none, ⟨0⟩⟩ ⟨Instant.epoch, "u", "2", none, ⟨0⟩⟩
      (by decide +kernel) ⟨"GET", "/", [], []⟩
  refine ⟨reply, reply', hreply, hreply', ?_⟩
  -- The page is shown by the handler of the root page.
  have hget : (run ⟨counting, [], []⟩ busySteps).server.routes.get? ⟨some .get, "/"⟩ =
      some (Registration.rootPage ⟨"Gatehouse", ""⟩).route := rfl
  have hanswer : (run ⟨counting, [], []⟩ busySteps).server.routes.answer? "/" .get =
      some (Registration.rootPage ⟨"Gatehouse", ""⟩).route := by
    rw [Routes.answer?, hget]
    rfl
  obtain ⟨resource, hdispatch⟩ := Routes.dispatch_of_literal hrouter
    (Routes.mem_paths_of_get? hget) (by decide) hanswer
  have hpath : Request.path ⟨"GET", "/", [], []⟩ = "/" := by decide
  rw [hpath, show "GET" = Verb.name .get from rfl, hdispatch] at hcalled
  have hne : ∀ handler : Handler,
      (handler (Server.small.call ⟨Instant.epoch, "t", "4", none, ⟨0⟩⟩
        ⟨"GET", "/", [], []⟩)).response.contentType ≠ some .html →
          called? ≠ some handler := by
    rintro handler hhtml rfl
    obtain rfl := Option.some.inj hcalled
    exact hhtml rfl
  exact hagrees.same (hne _ (by decide)) (hne _ (by decide)) (hne _ (by decide))

end Traffic

end Gatehouse
