import Gatehouse.Proofs.Route.Literal
import Gatehouse.Proofs.Route.Pattern
import Gatehouse.Proofs.Server.History

/-!
# The gate of a server

Whether a request has to show a token is settled with the entry that answers it : the handler and
the protection of an entry come from one registration, the last for its pattern, however its path
is mounted beside others. Behind the gate a handler is called with the claims that the codec has
verified, and not at all if there are none; in front of it no handler is told of an identity
(`Registration.Guards`). So a server shows claims only to administrators, and only their own
(`Server.respond_behind_gate`).
-/

namespace Gatehouse

/-! ## Replies of entries -/

/-- A reply that does not wait is never given up. -/
theorem Reply.within_of_delay {r : Reply} (h : r.delay.nanos = 0) (limit : Span) :
    r.within limit = r := by
  rw [within, if_neg]
  omega

namespace Route

variable {e : Route Handler} {c : Call}

theorem reply_of_refused (hprotected : e.isProtected = true) {refusal : AuthError}
    (h : Gate.check c.service.codec c.moment.systemNow c.request.headers = .error refusal) :
    e.reply c = (Reply.refusal refusal).after [Gate.event c.request (.error refusal)] := by
  rw [reply, if_pos hprotected, h]

/-- Whoever passes is known to the handler by the claims of the token. -/
theorem reply_of_passed (hprotected : e.isProtected = true) {claims : Claims}
    (h : Gate.check c.service.codec c.moment.systemNow c.request.headers = .ok claims) :
    e.reply c = (e.handler { c with identity := some claims }).after
      [Gate.event c.request (.ok claims)] := by
  rw [reply, if_pos hprotected, h]

theorem reply_of_unguarded (hprotected : e.isProtected = false) :
    e.reply c = e.handler { c with identity := none } := by
  rw [reply, hprotected]
  rfl

end Route

namespace Registration

/-- How the reply of a registration to a call depends on the token of the request. -/
structure Guards (last : Registration) (c : Call) (limit : Span) (reply : Reply) : Prop where
  /-- Without a token the handler is not called. -/
  missing : last.isProtected = true → Bearer.extract c.request.headers = none →
    reply = { response := .text .badRequest "Authorization header missing"
              events := [Gate.event c.request (.error .missingAuthorization)] }
  /-- With a token that is not accepted it is not called either, and the cause is not told. -/
  invalid : last.isProtected = true → ∀ token cause,
    Bearer.extract c.request.headers = some token →
      c.service.codec.verify token c.moment.systemNow = .error cause →
        reply = { response := .text .unauthorized "Invalid token"
                  events := [Gate.event c.request (.error (.invalidToken cause))] }
  /-- With a token that is accepted it is called with the claims of the token. -/
  valid : last.isProtected = true → ∀ token claims,
    Bearer.extract c.request.headers = some token →
      c.service.codec.verify token c.moment.systemNow = .ok claims →
        reply = ((last.handler { c with identity := some claims }).after
          [Gate.event c.request (.ok claims)]).within limit
  /-- Without protection it is called with no identity. -/
  unguarded : last.isProtected = false →
    reply = (last.handler { c with identity := none }).within limit

/-- An entry guards its handler exactly if it is protected. -/
theorem guards_reply (last : Registration) (c : Call) (limit : Span) :
    last.Guards c limit ((last.route.reply c).within limit) where
  missing hprotected hnone := by
    have hcheck : Gate.check c.service.codec c.moment.systemNow c.request.headers =
        .error .missingAuthorization := by
      rw [Gate.check, hnone]
    rw [Route.reply_of_refused (e := last.route) hprotected hcheck]
    exact Reply.within_of_delay rfl limit
  invalid hprotected token cause htoken hcause := by
    have hcheck : Gate.check c.service.codec c.moment.systemNow c.request.headers =
        .error (.invalidToken cause) := by
      rw [Gate.check, htoken]
      simp only [hcause]
      rfl
    rw [Route.reply_of_refused (e := last.route) hprotected hcheck]
    exact Reply.within_of_delay rfl limit
  valid hprotected token claims htoken hclaims := by
    have hcheck : Gate.check c.service.codec c.moment.systemNow c.request.headers =
        .ok claims := by
      rw [Gate.check, htoken]
      simp only [hclaims]
      rfl
    rw [Route.reply_of_passed (e := last.route) hprotected hcheck]
    rfl
  unguarded hprotected := by
    rw [Route.reply_of_unguarded (e := last.route) hprotected]
    rfl

end Registration

/-! ## The claims of administrators -/

namespace Handler

theorem showClaims_of_identity (c : Call) (claims : Claims) :
    (showClaims { c with identity := some claims }).delay.nanos = 0 ∧
      (showClaims { c with identity := some claims }).response =
        if claims.isAdmin = true then .json .ok claims.toJson
        else .text .forbidden "User is not admin" := by
  rw [showClaims, withIdentity]
  cases hadmin : claims.isAdmin with
  | true =>
    simp only [adminOnly, hadmin, if_true]
    exact ⟨rfl, rfl⟩
  | false =>
    simp only [adminOnly, hadmin]
    exact ⟨rfl, rfl⟩

/-- Claims are shown to an administrator behind the gate. -/
theorem response_showClaims {last : Registration} {c : Call} {limit : Span} {reply : Reply}
    (hguards : last.Guards c limit reply) (hlast : last.handler = showClaims) :
    (last.isProtected = false → reply.response = .text .internalError "Internal server error") ∧
      ∀ token claims, last.isProtected = true → Bearer.extract c.request.headers = some token →
        c.service.codec.verify token c.moment.systemNow = .ok claims →
          reply.response = if claims.isAdmin = true then .json .ok claims.toJson
            else .text .forbidden "User is not admin" := by
  constructor
  · intro hprotected
    rw [hguards.unguarded hprotected, hlast, Reply.within_of_delay rfl]
    rfl
  · intro token claims hprotected htoken hclaims
    obtain ⟨hdelay, hresponse⟩ := showClaims_of_identity c claims
    rw [hguards.valid hprotected token claims htoken hclaims, hlast,
      Reply.within_of_delay (by exact hdelay)]
    exact hresponse

/-- The status tells that claims are shown, and to whom. -/
theorem status_showClaims {last : Registration} {c : Call} {limit : Span} {reply : Reply}
    (hguards : last.Guards c limit reply) (hlast : last.handler = showClaims) :
    reply.response.status = .ok ↔ last.isProtected = true ∧ ∃ token claims,
      Bearer.extract c.request.headers = some token ∧
        c.service.codec.verify token c.moment.systemNow = .ok claims ∧ claims.isAdmin = true := by
  obtain ⟨hopen, hbehind⟩ := response_showClaims hguards hlast
  constructor
  · intro hok
    cases hprotected : last.isProtected with
    | false =>
      rw [hopen hprotected] at hok
      cases hok
    | true =>
      refine ⟨rfl, ?_⟩
      cases htoken : Bearer.extract c.request.headers with
      | none =>
        rw [hguards.missing hprotected htoken] at hok
        cases hok
      | some token =>
        cases hclaims : c.service.codec.verify token c.moment.systemNow with
        | error cause =>
          rw [hguards.invalid hprotected token cause htoken hclaims] at hok
          cases hok
        | ok claims =>
          refine ⟨token, claims, rfl, hclaims, ?_⟩
          rw [hbehind token claims hprotected htoken hclaims] at hok
          by_contra hadmin
          rw [if_neg hadmin] at hok
          cases hok
  · rintro ⟨hprotected, token, claims, htoken, hclaims, hadmin⟩
    rw [hbehind token claims hprotected htoken hclaims, if_pos hadmin]
    rfl

end Handler

/-! ## Requests to a server -/

namespace Server

variable {σ : Type} {plan : ServerPlan σ} {now : Instant} {s : Server σ} {events : List LogEvent}

/-- An entry that answers a request is that of the registration that answers its verb. -/
theorem exists_of_dispatch_entry (h : plan.build now = .ok (s, events)) {rs : List Registration}
    {router : Router Handler} (hrouter : (s.registerEach rs).router? = some router)
    {method path : String} {resource : Resource Handler} {e : Route Handler}
    (hentry : router.dispatch method path = .entry resource e) :
    ∃ v last, method = Verb.name v ∧
      Registration.answering? (defaultRoutes ++ rs) resource.path v = some last ∧
        e = last.route := by
  obtain ⟨v, hv⟩ := Router.exists_ofName?_of_dispatch hentry
  obtain rfl := Verb.ofName?_eq_some_iff.mp hv
  have hdispatch := dispatch_of_build h hrouter v path
  rw [hentry] at hdispatch
  cases hresource : router.resource? path with
  | none =>
    simp only [hresource] at hdispatch
    cases hdispatch
  | some r =>
    simp only [hresource] at hdispatch
    cases hlast : Registration.answering? (defaultRoutes ++ rs) r.path v with
    | none =>
      simp only [hlast] at hdispatch
      cases hdispatch
    | some last =>
      simp only [hlast] at hdispatch
      cases hdispatch
      exact ⟨v, last, rfl, hlast, rfl⟩

variable [MeasureSink σ]

/-- A request for a path without parameters gets the reply of the entry for its method there. -/
theorem reply_of_literal {router : Router Handler} (hrouter : s.router? = some router)
    {path : String} (htemplate : Template.ofPath? path = some (Template.literals path.toList))
    {v : Verb} {e : Route Handler} (hanswer : s.routes.answer? path v = some e) (m : Moment)
    {r : Request} (hmethod : r.method = v.name) (hpath : r.path = path) :
    s.reply (router.dispatch r.method r.path) m r =
      (e.reply (s.call m r)).within s.requestTimeout := by
  obtain ⟨resource, hdispatch⟩ := Routes.dispatch_of_literal hrouter
    (Routes.mem_paths_of_answer? hanswer) htemplate hanswer
  rw [hmethod, hpath, hdispatch]
  rfl

/-- An open entry whose handler does not wait returns what the handler does. -/
theorem map_fst_respond_of_literal {router : Router Handler} (hrouter : s.router? = some router)
    {path : String} (htemplate : Template.ofPath? path = some (Template.literals path.toList))
    {v : Verb} {e : Route Handler} (hanswer : s.routes.answer? path v = some e)
    (hopen : e.isProtected = false) (m : Moment) {r : Request} (hmethod : r.method = v.name)
    (hpath : r.path = path) (hdelay : (e.handler (s.call m r)).delay.nanos = 0) :
    (s.respond m r).map Prod.fst = some (e.handler (s.call m r)) := by
  rw [map_fst_respond hrouter, reply_of_literal hrouter htemplate hanswer m hmethod hpath,
    Route.reply_of_unguarded hopen]
  exact congrArg some (Reply.within_of_delay hdelay _)

/-- Whatever has been registered, and whatever the service is by the time of a request : the reply
of an entry is guarded as the registration says that the entry comes from. Claims are shown by it
only if it is protected, and only to the administrator whose claims they are. -/
theorem respond_behind_gate (h : plan.build now = .ok (s, events)) {rs : List Registration}
    {router : Router Handler} (hrouter : (s.registerEach rs).router? = some router)
    (service : Service) (m : Moment) (r : Request) {resource : Resource Handler}
    {e : Route Handler} (hentry : router.dispatch r.method r.path = .entry resource e) :
    let server : Server σ := { s.registerEach rs with service := service }
    ∃ v last reply, r.method = Verb.name v ∧
      Registration.answering? (defaultRoutes ++ rs) resource.path v = some last ∧
      e = last.route ∧
      (server.respond m r).map Prod.fst = some reply ∧
      last.Guards (server.call m r) s.requestTimeout reply ∧
      (last.handler = Handler.showClaims →
        (last.isProtected = false →
          reply.response = .text .internalError "Internal server error") ∧
        (∀ token claims, last.isProtected = true → Bearer.extract r.headers = some token →
          service.codec.verify token m.systemNow = .ok claims →
            reply.response = if claims.isAdmin = true then .json .ok claims.toJson
              else .text .forbidden "User is not admin") ∧
        (reply.response.status = .ok ↔ last.isProtected = true ∧ ∃ token claims,
          Bearer.extract r.headers = some token ∧
            service.codec.verify token m.systemNow = .ok claims ∧ claims.isAdmin = true)) := by
  intro server
  obtain ⟨v, last, hmethod, hlast, rfl⟩ := exists_of_dispatch_entry h hrouter hentry
  have htimeout : server.requestTimeout = s.requestTimeout := by
    rw [show server.requestTimeout = (s.registerEach rs).requestTimeout from rfl, registerEach_eq]
  have hreply : (server.respond m r).map Prod.fst =
      some ((last.route.reply (server.call m r)).within s.requestTimeout) := by
    have hserver : server.router? = some router := hrouter
    rw [map_fst_respond hserver, hentry, ← htimeout]
    rfl
  have hguards := last.guards_reply (server.call m r) s.requestTimeout
  refine ⟨v, last, _, hmethod, hlast, rfl, hreply, hguards, fun hshow => ?_⟩
  obtain ⟨hopen, hbehind⟩ := Handler.response_showClaims hguards hshow
  exact ⟨hopen, hbehind, Handler.status_showClaims hguards hshow⟩

theorem respond_behind_gate_small :
    (respond { small.registerEach smallHistory with service := small.service }
        ⟨Instant.epoch, "t", "r", none, ⟨0⟩⟩ ⟨"GET", "/time", [], []⟩).map Prod.fst =
      some { response := .text .badRequest "Authorization header missing"
             events := [Gate.event ⟨"GET", "/time", [], []⟩ (.error .missingAuthorization)] } := by
  obtain ⟨events, hbuild⟩ := build_small
  obtain ⟨resource, hresource, hpath⟩ := resource?_small "/time" (by decide)
  have hlast : Registration.answering? (defaultRoutes ++ smallHistory) resource.path .get =
      some ⟨"GET /time", Handler.showClaims, true⟩ := by
    rw [hpath]
    rfl
  have hdispatch := dispatch_of_build hbuild router?_small .get "/time"
  simp only [hresource, hlast] at hdispatch
  have hroute : (Request.path ⟨"GET", "/time", [], []⟩) = "/time" := by decide
  rw [← hroute] at hdispatch
  obtain ⟨v, last, reply, hv, hanswer, -, hreply, hguards, -⟩ := respond_behind_gate hbuild
    router?_small small.service ⟨Instant.epoch, "t", "r", none, ⟨0⟩⟩ ⟨"GET", "/time", [], []⟩
    hdispatch
  obtain rfl : .get = v := Option.some.inj (Verb.ofName?_eq_some_iff.mpr hv)
  obtain rfl := Option.some.inj (hlast.symm.trans hanswer)
  rw [hreply, hguards.missing rfl rfl]
  rfl

end Server

end Gatehouse
