import Gatehouse.Proofs.Config.Rules
import Gatehouse.Proofs.Server.Login

/-!
# The account of a configuration

A configuration that keeps every rule has a secret that is not empty and a life of tokens from a
minute to ten years (`TokenSettings.isUsable_of_service`). So a server can be built from it that
answers for its account (`Server.IsFor`), and whoever sends the login and the digest of the password
is let in with a token that speaks for the account, unless the login is blank
(`Server.respond_login_of_service`).

Of the login itself the rules ask for five characters and no more. So a blank login keeps every
rule, and the account is locked (`Server.respond_login_blank`).
-/

namespace Gatehouse

/-! ## What the rules keep -/

theorem Utf8.ofString_ne_nil {s : String} (h : s.toList ≠ []) : Utf8.ofString s ≠ [] := by
  obtain ⟨c, text, htext⟩ := List.exists_cons_of_ne_nil h
  have hlength : 0 < (String.utf8EncodeChar c).length := by
    rw [String.length_utf8EncodeChar]
    exact c.utf8Size_pos
  rw [Utf8.ofString, htext, Utf8.encode_cons]
  exact List.append_ne_nil_of_left_ne_nil (List.length_pos_iff.mp hlength) _

/-- What a server needs of the settings of tokens. -/
structure TokenSettings.IsUsable (s : TokenSettings) : Prop where
  secret : s.secretBytes ≠ []
  least : 1 ≤ s.durationMinutes
  most : s.durationMinutes ≤ Rule.maxDuration

/-- The demands on the secret and on the life of tokens see to it. -/
theorem TokenSettings.isUsable_of_service {source : Source} {c : ServiceSettings}
    (h : source.service = .ok c) : c.token.IsUsable := by
  obtain ⟨d, -, hcheck⟩ := bind_eq_ok_iff.mp h
  have hmakes := ConfigDraft.makes_of_check hcheck
  have hmem : Demand.secret ∈ Demand.all ∧ Demand.duration ∈ Demand.all := by simp [Demand.all]
  obtain ⟨s, hs, hlength⟩ := ConfigDraft.isMet_of_check hcheck hmem.1
  obtain ⟨hleast, hmost⟩ := ConfigDraft.isMet_of_check hcheck hmem.2
  obtain rfl : s = c.token.secret := Option.some.inj (hs.symm.trans hmakes.secret)
  refine ⟨Utf8.ofString_ne_nil fun hnil => ?_, ?_, ?_⟩
  · rw [hnil] at hlength
    exact absurd hlength (by decide)
  · rw [hmakes.duration]
    exact hleast
  · rw [hmakes.duration]
    exact hmost

/-! ## Servers of configurations -/

/-- An instant that the longest life of a token may begin at. -/
structure Instant.LeavesRoom (now : Instant) : Prop where
  inRange : Instant.inRange now.seconds = true
  tenYears : now.seconds + 60 * Rule.maxDuration ≤ Instant.maxSeconds

/-- A life that the rules allow ends in range. -/
theorem Instant.LeavesRoom.inRange_add {now : Instant} (h : now.LeavesRoom) {minutes : Int}
    (hleast : 1 ≤ minutes) (hmost : minutes ≤ Rule.maxDuration) :
    Instant.inRange (now.seconds + 60 * minutes) = true := by
  have hnow := h.inRange
  have hend := h.tenYears
  rw [Instant.inRange_iff] at hnow ⊢
  rw [Instant.maxSeconds] at hend
  omega

/-- Usable settings make a codec wherever the life of its tokens ends in range. -/
theorem TokenCodec.new_of_isUsable {s : TokenSettings} (h : s.IsUsable) (systemNow : Instant) :
    new s.secretBytes s.issuer s.durationMinutes systemNow =
      (Token.expiry systemNow s.durationMinutes).map fun _ =>
        ⟨s.secretBytes, s.issuer, s.durationMinutes, .system⟩ := by
  rw [new, if_neg (by simpa using h.secret)]

namespace ServerPlan

variable {σ : Type}

/-- The plan of a configuration whose settings of tokens are usable. -/
theorem ofConfig_of_isUsable {c : ServiceSettings} (h : c.token.IsUsable) (sink : σ)
    {now : Instant} (hnow : now.LeavesRoom) :
    ∃ plan : ServerPlan σ, ofConfig c sink now = .ok plan ∧
      plan.codec = ⟨c.token.secretBytes, c.token.issuer, c.token.durationMinutes, .system⟩ ∧
        plan.administrator = .ofSettings c.admin := by
  have hexpiry : ∃ t, Token.expiry now c.token.durationMinutes = .ok t := by
    rw [Token.expiry, if_neg (Int.not_lt.mpr h.least), Instant.addSeconds?]
    simp only [hnow.inRange_add h.least h.most, if_true]
    exact ⟨_, rfl⟩
  obtain ⟨t, ht⟩ := hexpiry
  refine ⟨_, map_eq_ok_iff.mpr ⟨_, ?_, rfl⟩, rfl, rfl⟩
  rw [TokenCodec.new_of_isUsable h, ht]
  rfl

end ServerPlan

namespace Server

variable {σ : Type} {server : Server σ} {c : ServiceSettings}

/-- A server answers for the account of a configuration. -/
structure IsFor (server : Server σ) (c : ServiceSettings) : Prop where
  administrator : server.service.administrator =
    .new c.admin.login c.admin.password c.admin.email c.admin.id
  codec : server.service.codec =
    ⟨c.token.secretBytes, c.token.issuer, c.token.durationMinutes, .system⟩
  route : server.routes.get? loginRoute.1 = some loginRoute.2
  router : ∃ router, server.router? = some router

/-- A server can be built from usable settings, and answers for their account. -/
theorem exists_isFor (h : c.token.IsUsable) (sink : σ) {startup : Instant}
    (hstartup : startup.LeavesRoom) :
    ∃ (plan : ServerPlan σ) (server : Server σ) (events : List LogEvent),
      ServerPlan.ofConfig c sink startup = .ok plan ∧ plan.build startup = .ok (server, events) ∧
        server.IsFor c := by
  obtain ⟨plan, hplan, hcodec, hadministrator⟩ := ServerPlan.ofConfig_of_isUsable h sink hstartup
  refine ⟨plan, (plan.bare startup).registerEach defaultRoutes, _, hplan, rfl, ?_⟩
  exact { administrator := hadministrator
          codec := hcodec
          route := rfl
          router := router?_default plan startup }

/-- Whoever sends the login and the digest is let in, unless the login is blank. -/
theorem IsFor.grants_iff (h : server.IsFor c) (husable : c.token.IsUsable) {m : Moment}
    (hm : m.systemNow.LeavesRoom) {r : Request}
    (hform : Credentials.ofRequest r = .ok ⟨c.admin.login, Password.digest c.admin.password⟩) :
    Login.Grants c.admin.login c.admin.password server.service.codec m r ↔
      ∃ ch ∈ c.admin.login.toList, Text.isBlank ch = false := by
  constructor
  · exact fun hgrants => hgrants.notBlank
  · intro hlogin
    refine ⟨hform, hlogin, ?_, ?_⟩
    · rw [h.codec]
      exact husable.least
    · rw [h.codec]
      exact hm.inRange_add husable.least husable.most

variable [MeasureSink σ]

/-- Whatever configuration keeps every rule, a server can be built from it, and a request that
carries the login and the digest of the password of its account is answered : with a token for the
account if the login is not blank, and else by a refusal. -/
theorem respond_login_of_service {source : Source} (h : source.service = .ok c)
    (hid : Width.fitsSigned c.admin.id = true) (sink : σ) {startup : Instant}
    (hstartup : startup.LeavesRoom) :
    ∃ (plan : ServerPlan σ) (server : Server σ) (events : List LogEvent),
      ServerPlan.ofConfig c sink startup = .ok plan ∧ plan.build startup = .ok (server, events) ∧
      ∀ (m : Moment) (r : Request) (ps : List (String × String)), m.systemNow.LeavesRoom →
        r.method = "POST" → r.path = "/login" → Form.Carries r ps →
        Credentials.collect none none ps = .ok ⟨c.admin.login, Password.digest c.admin.password⟩ →
        ∃ reply, (server.respond m r).map Prod.fst = some reply ∧
          ((∃ ch ∈ c.admin.login.toList, Text.isBlank ch = false) → ∃ token claims,
            reply.response =
              { status := .ok, contentType := some .json
                body := "\x7b\"token\":\"" ++ String.ofList token ++ "\"\x7d" } ∧
            server.service.codec.verify token m.systemNow = .ok claims ∧
            claims.user = ⟨c.admin.id, "Administrator", c.admin.email, c.admin.login, true⟩) ∧
          ((∀ ch ∈ c.admin.login.toList, Text.isBlank ch = true) →
            reply.response =
              { status := .unauthorized, contentType := some .text
                body := "Invalid credentials" }) := by
  have husable := TokenSettings.isUsable_of_service h
  obtain ⟨plan, server, events, hplan, hbuild, hfor⟩ := exists_isFor husable sink hstartup
  refine ⟨plan, server, events, hplan, hbuild, fun m r ps hm hmethod hpath hcarries hps => ?_⟩
  obtain ⟨router, hrouter⟩ := hfor.router
  have hgrants := hfor.grants_iff husable hm ((Credentials.ofRequest_of_carries hcarries).trans hps)
  refine ⟨_, map_fst_respond_login hfor.route hrouter hmethod hpath, fun hlogin => ?_,
    fun hblank => ?_⟩
  · exact Handler.response_login_of_grants (c := server.call m r) hfor.administrator hid hm.inRange
      (hgrants.mpr hlogin)
  · refine Handler.response_login_of_not_grants (c := server.call m r) hfor.administrator ?_
    intro h
    obtain ⟨ch, hch, hnot⟩ := hgrants.mp h
    rw [hblank ch hch] at hnot
    cases hnot

end Server

/-! ## Accounts that are let in, and locked ones -/

/-- The default settings and those that have no default, with a login of the account. -/
def Source.withLogin (login : String) : Source :=
  [("jwt_secret", ⟨.text "sixteen or more characters", none⟩),
    ("jwt_issuer_id", ⟨.text "gatehouse", none⟩), ("admin_user", ⟨.text login, none⟩),
    ("admin_password", ⟨.text "ValidP@ssw0rd", none⟩)] ++ Source.defaults

/-- The configuration of these settings. -/
def ServiceSettings.withLogin (login : String) : ServiceSettings where
  appName := "cloudkit"
  listen := ⟨.v4 0 0 0 0, 9999⟩
  token := ⟨"sixteen or more characters", "gatehouse", 60⟩
  admin := ⟨login, "ValidP@ssw0rd", "goadmin@yourdomain.org", 960901⟩
  shutdownTimeout := Span.ofSeconds 2
  logging := {}

namespace Server

theorem respond_login_of_service_goadmin :
    (Source.withLogin "goadmin").service = .ok (.withLogin "goadmin") ∧
    ∃ (server : Server SilentSink) (reply : Reply) (token : List Char) (claims : Claims),
      (server.respond ⟨Instant.epoch, "t", "r", none, ⟨0⟩⟩
        (Login.request "goadmin" (Password.digest "ValidP@ssw0rd"))).map Prod.fst = some reply ∧
      reply.response =
        { status := .ok, contentType := some .json
          body := "\x7b\"token\":\"" ++ String.ofList token ++ "\"\x7d" } ∧
      server.service.codec.verify token Instant.epoch = .ok claims ∧
      claims.user = ⟨960901, "Administrator", "goadmin@yourdomain.org", "goadmin", true⟩ := by
  have hservice : (Source.withLogin "goadmin").service = .ok (.withLogin "goadmin") := by
    decide +kernel
  have hepoch : Instant.epoch.LeavesRoom := ⟨by decide, by decide⟩
  obtain ⟨plan, server, events, hplan, hbuild, hanswer⟩ :=
    respond_login_of_service hservice (by decide) ({} : SilentSink) hepoch
  obtain ⟨reply, hreply, hgranted, -⟩ := hanswer ⟨Instant.epoch, "t", "r", none, ⟨0⟩⟩ _ _ hepoch rfl
    (Login.path_request "goadmin" (Password.digest "ValidP@ssw0rd"))
    (Login.carries_request (by decide)) rfl
  obtain ⟨token, claims, htoken, hverify, huser⟩ := hgranted ⟨'g', by decide, by decide⟩
  exact ⟨hservice, server, reply, token, claims, hreply, htoken, hverify, huser⟩

/-- A login of five spaces keeps every rule, and its account is locked. -/
theorem respond_login_blank :
    (Source.withLogin "     ").service = .ok (.withLogin "     ") ∧
    ∃ (plan : ServerPlan SilentSink) (server : Server SilentSink) (events : List LogEvent)
      (reply : Reply),
      ServerPlan.ofConfig (.withLogin "     ") {} Instant.epoch = .ok plan ∧
      plan.build Instant.epoch = .ok (server, events) ∧
      Form.Carries (Login.request "     " (Password.digest "ValidP@ssw0rd"))
        [("login", "     "), ("hashed", Password.digest "ValidP@ssw0rd")] ∧
      (server.respond ⟨Instant.epoch, "t", "r", none, ⟨0⟩⟩
        (Login.request "     " (Password.digest "ValidP@ssw0rd"))).map Prod.fst = some reply ∧
      reply.response =
        { status := .unauthorized, contentType := some .text, body := "Invalid credentials" } := by
  have hservice : (Source.withLogin "     ").service = .ok (.withLogin "     ") := by
    decide +kernel
  have hepoch : Instant.epoch.LeavesRoom := ⟨by decide, by decide⟩
  have husable := TokenSettings.isUsable_of_service hservice
  obtain ⟨plan, server, events, hplan, hbuild, hfor⟩ :=
    exists_isFor husable ({} : SilentSink) hepoch
  obtain ⟨router, hrouter⟩ := hfor.router
  have hcarries : Form.Carries (Login.request "     " (Password.digest "ValidP@ssw0rd"))
      [("login", "     "), ("hashed", Password.digest "ValidP@ssw0rd")] :=
    Login.carries_request (by decide)
  refine ⟨hservice, plan, server, events, _, hplan, hbuild, hcarries,
    map_fst_respond_login hfor.route hrouter rfl (Login.path_request _ _),
    Handler.response_login_of_not_grants (c := server.call _ _) hfor.administrator fun h => ?_⟩
  obtain ⟨ch, hch, hnot⟩ := h.notBlank
  have hblank : "     ".toList.all Text.isBlank = true := by decide +kernel
  rw [List.all_eq_true.mp hblank ch hch] at hnot
  cases hnot

end Server

end Gatehouse
