import Gatehouse.Proofs.Http.Form
import Gatehouse.Proofs.Server.Gate
import Gatehouse.Proofs.Text.Blank
import Gatehouse.Proofs.Token.Lifetime

/-!
# Logging in

A request to log in is granted a token if it carries the login and the digest of the password of
the account, the login is not blank, and the life of a token ends in range (`Login.Grants`). Every
other one is refused by the same response, whatever is wrong with it, so nobody learns from it which
logins there are (`Server.respond_login`). A user is looked up only behind the test for the login,
and then it is found (`Login.grant_eq`); so the token speaks for the account.
-/

namespace Gatehouse

/-! ## What is sent -/

/-- A digest is written with 64 digits. -/
theorem Password.length_ofString_digest (password : String) :
    (Utf8.ofString (Password.digest password)).length = 64 := by
  have hdigit : ∀ n < 16, (Hex.digit n).toNat < 0x80 := by decide
  have hascii : ∀ c ∈ Hex.encode (Sha256.digest (Utf8.ofString password)), c.toNat < 0x80 := by
    intro c hc
    obtain ⟨b, -, hb⟩ := List.mem_flatMap.mp hc
    have hlt := b.toNat_lt
    rcases List.mem_cons.mp hb with rfl | hb
    · exact hdigit _ (by omega)
    · obtain rfl := List.mem_singleton.mp hb
      exact hdigit _ (by omega)
  rw [Utf8.ofString, Password.digest, String.toList_ofList, Utf8.encode_of_ascii hascii,
    List.length_map, Hex.encode, List.length_flatMap]
  simp [Sha256.length_digest]

namespace Login

/-- A request that carries a login and the digest of a password. -/
def request (login hashed : String) : Request where
  method := "POST"
  target := "/login"
  headers := [⟨"Content-Type", Utf8.encode Form.contentType⟩]
  body := Form.encode [("login", login), ("hashed", hashed)]

theorem path_request (login hashed : String) : (request login hashed).path = "/login" := by
  have hpath : String.ofList (Target.path "/login".toList) = "/login" := by decide
  exact hpath

/-- Every login that leaves room for the digest can be carried. -/
theorem carries_request {login password : String}
    (h : 3 * (Utf8.ofString login).length + 256 ≤ Form.maxBytes) :
    Form.Carries (request login (Password.digest password))
      [("login", login), ("hashed", Password.digest password)] where
  type := by
    have htext : Headers.text? [⟨"Content-Type", Utf8.encode Form.contentType⟩] "Content-Type" =
        some Form.contentType := by decide
    exact ⟨Form.contentType, htext, by decide⟩
  length := by
    have hlogin := Form.length_spelling login
    have hhashed := Form.length_spelling (Password.digest password)
    rw [Password.length_ofString_digest] at hhashed
    have hnames : (Form.spelling "login").length = 5 ∧ (Form.spelling "hashed").length = 6 := by
      decide
    simp only [request, Form.encode, List.length_append, List.length_cons, hnames.1, hnames.2]
    omega
  body := Form.writes_encode _

end Login

/-! ## Who is let in -/

/-- Who is accepted has both the login and the digest. -/
theorem Administrator.accepts_iff {a : Administrator} {login digest : String} :
    a.accepts login digest = true ↔ login = a.login ∧ digest = a.digest := by
  rw [accepts, Bool.and_eq_true, beq_iff_eq, beq_iff_eq]

namespace Login

/-- A request is granted a token for the account with a login and a password. -/
structure Grants (login password : String) (codec : TokenCodec) (m : Moment) (r : Request) :
    Prop where
  form : Credentials.ofRequest r = .ok ⟨login, Password.digest password⟩
  notBlank : ∃ c ∈ login.toList, Text.isBlank c = false
  lifetime : 1 ≤ codec.minutes
  inRange : Instant.inRange ((codec.clock.now m.systemNow).seconds + 60 * codec.minutes) = true

/-- Whoever is accepted is also found. -/
theorem grant_eq (s : Service) (m : Moment) (form : Credentials) :
    grant s m form =
      if (Text.Blank.trim form.login.toList).isEmpty then .error .blank
      else if !s.administrator.accepts form.login form.hashed then .error (.rejected form.login)
      else (s.codec.claims s.administrator.identity m.systemNow m.tokenId).mapError
        (.issuance form.login) := by
  rw [grant]
  split_ifs with hblank haccepts
  · rfl
  · rfl
  · rw [Bool.not_eq_true, Bool.not_eq_false', Administrator.accepts_iff] at haccepts
    rw [Administrator.user, if_pos haccepts.1]

/-- Claims are granted exactly for a login that is not blank, with its digest, and are those of the
account. -/
theorem grant_eq_ok_iff {s : Service} {m : Moment} {form : Credentials} {claims : Claims} :
    grant s m form = .ok claims ↔ (∃ c ∈ form.login.toList, Text.isBlank c = false) ∧
      form = ⟨s.administrator.login, s.administrator.digest⟩ ∧
        s.codec.claims s.administrator.identity m.systemNow m.tokenId = .ok claims := by
  have hblank : (Text.Blank.trim form.login.toList).isEmpty = true ↔
      ¬∃ c ∈ form.login.toList, Text.isBlank c = false := by
    rw [List.isEmpty_iff, Text.Blank.trim_eq_nil_iff]
    simp
  have hform : s.administrator.accepts form.login form.hashed = true ↔
      form = ⟨s.administrator.login, s.administrator.digest⟩ := by
    rw [Administrator.accepts_iff]
    cases form
    simp
  rw [grant_eq, ← hform]
  split_ifs with htrim haccepts
  · simp [hblank.mp htrim]
  · rw [Bool.not_eq_true'] at haccepts
    simp [haccepts]
  · rw [Bool.not_eq_true, Bool.not_eq_false'] at haccepts
    have hlogin := not_not.mp fun h => htrim (hblank.mpr h)
    cases s.codec.claims s.administrator.identity m.systemNow m.tokenId <;>
      simp [Except.mapError, haccepts, hlogin]

/-- Claims are made for the account, and only if all of the request is right. -/
theorem attempt_eq_ok_iff {c : Call} {claims : Claims} :
    attempt c = .ok claims ↔
      Credentials.ofRequest c.request =
        .ok ⟨c.service.administrator.login, c.service.administrator.digest⟩ ∧
      (∃ ch ∈ c.service.administrator.login.toList, Text.isBlank ch = false) ∧
      c.service.codec.claims c.service.administrator.identity c.moment.systemNow
        c.moment.tokenId = .ok claims := by
  rw [attempt]
  cases Credentials.ofRequest c.request with
  | error e => simp
  | ok form =>
    simp only [grant_eq_ok_iff, Except.ok.injEq]
    constructor
    · rintro ⟨hlogin, rfl, hclaims⟩
      exact ⟨rfl, hlogin, hclaims⟩
    · rintro ⟨rfl, hlogin, hclaims⟩
      exact ⟨hlogin, rfl, hclaims⟩

/-- The token stands in the answer as it is, since nothing in it has to be escaped. -/
theorem success_sign (claims : Claims) (secret : Bytes) :
    success (Token.sign claims secret) =
      { status := .ok, contentType := some .json
        body := "\x7b\"token\":\"" ++ String.ofList (Token.sign claims secret) ++ "\"\x7d" } := by
  have hplain : ∀ c ∈ Token.sign claims secret, 0x20 ≤ c.toNat ∧ c ≠ '"' ∧ c ≠ '\\' := by
    intro c hc
    obtain ⟨hlow, -, hquote, hslash⟩ := Token.printable_of_mem_sign hc
    exact ⟨by omega, hquote, hslash⟩
  have hkey : Json.Printer.string "token" = "\"token\"".toList := by decide
  have hbody : (Json.Value.object
        [("token", .string (String.ofList (Token.sign claims secret)))]).render.toList =
      ("\x7b\"token\":\"" ++ String.ofList (Token.sign claims secret) ++ "\"\x7d").toList := by
    rw [Json.Value.render, String.toList_ofList, Json.Printer.value, Json.Printer.members,
      Json.Printer.members, Json.Printer.commas, Json.Printer.value,
      Json.Printer.string_of_plain hplain, hkey]
    simp
  rw [success, Response.json, String.toList_inj.mp hbody]

/-- What a client is told who is refused. -/
def refused : Response :=
  .text .unauthorized "Invalid credentials"

/-- Every failure is refused alike. -/
theorem response_of_attempt {c : Call} {e : LoginFailure} (h : attempt c = .error e) :
    e.cause.response = refused := by
  rw [attempt] at h
  split at h
  · cases h
    rfl
  · rename_i form _
    rw [grant_eq] at h
    split_ifs at h
    · cases h
      rfl
    · cases h
      rfl
    · cases hclaims : c.service.codec.claims c.service.administrator.identity c.moment.systemNow
          c.moment.tokenId with
      | ok claims =>
        rw [hclaims] at h
        cases h
      | error e' =>
        rw [hclaims] at h
        cases h
        rfl

end Login

namespace Handler

variable {c : Call}

theorem delay_login (c : Call) : (login c).delay.nanos = 0 := by
  rw [login]
  cases Login.attempt c <;> rfl

theorem response_login (c : Call) :
    (login c).response =
      match Login.attempt c with
      | .ok claims => Login.success (c.service.codec.sign claims)
      | .error _ => Login.refused := by
  rw [login]
  cases h : Login.attempt c with
  | ok claims => rfl
  | error e => exact Login.response_of_attempt h

section Account

variable {password email : String} {id : Int} {name : String}
  (hadmin : c.service.administrator = .new name password email id)

include hadmin

/-- Who is granted a token gets one that speaks for the account at once. -/
theorem response_login_of_grants (hid : Width.fitsSigned id = true)
    (hnow : Instant.inRange c.moment.systemNow.seconds = true)
    (h : Login.Grants name password c.service.codec c.moment c.request) :
    ∃ token claims, (login c).response =
        { status := .ok, contentType := some .json
          body := "\x7b\"token\":\"" ++ String.ofList token ++ "\"\x7d" } ∧
      c.service.codec.verify token c.moment.systemNow = .ok claims ∧
        claims.user = ⟨id, "Administrator", email, name, true⟩ := by
  have hidentity : Width.fitsSigned c.service.administrator.identity.id = true := by
    rw [hadmin]
    exact hid
  obtain ⟨claims, hclaims⟩ : ∃ claims, c.service.codec.claims c.service.administrator.identity
      c.moment.systemNow c.moment.tokenId = .ok claims :=
    ⟨_, Token.claims_eq_ok_iff.mpr ⟨h.lifetime, h.inRange, rfl⟩⟩
  have hattempt : Login.attempt c = .ok claims := by
    refine Login.attempt_eq_ok_iff.mpr ⟨?_, ?_, hclaims⟩
    · rw [hadmin]
      exact h.form
    · rw [hadmin]
      exact h.notBlank
  have hverify := Token.verify_claims hidentity (c.service.codec.clock.inRange_now hnow) hclaims
    c.service.codec.secret (c.service.codec.clock.now c.moment.systemNow)
  have hlater : (c.service.codec.clock.now c.moment.systemNow).seconds ≤
      (c.service.codec.clock.now c.moment.systemNow).seconds + 60 * c.service.codec.minutes := by
    have hlifetime := h.lifetime
    omega
  refine ⟨c.service.codec.sign claims, _, ?_, hverify.trans (if_pos ⟨Int.le_refl _, hlater⟩),
    congrArg Administrator.identity hadmin⟩
  rw [response_login, hattempt]
  exact Login.success_sign claims _

/-- Everybody else is refused alike. -/
theorem response_login_of_not_grants
    (h : ¬Login.Grants name password c.service.codec c.moment c.request) :
    (login c).response = Login.refused := by
  rw [response_login]
  cases hattempt : Login.attempt c with
  | error e => rfl
  | ok claims =>
    rw [Login.attempt_eq_ok_iff, hadmin] at hattempt
    obtain ⟨hform, hlogin, hclaims⟩ := hattempt
    obtain ⟨hminutes, hrange, -⟩ := Token.claims_eq_ok_iff.mp hclaims
    exact absurd ⟨hform, hlogin, hminutes, hrange⟩ h

end Account

end Handler

/-! ## Requests to a server -/

namespace Server

variable {σ : Type} [MeasureSink σ] {server : Server σ} {router : Router Handler} {m : Moment}
  {r : Request}

/-- The route for logging in, where it is as in every server at first. -/
def loginRoute : RoutePattern × Route Handler :=
  (⟨some .post, "/login"⟩, ⟨Handler.login, false⟩)

/-- A request to log in is answered by the handler that logs in, whatever else is registered. -/
theorem map_fst_respond_login (hlogin : server.routes.get? loginRoute.1 = some loginRoute.2)
    (hrouter : server.router? = some router) (hmethod : r.method = "POST")
    (hpath : r.path = "/login") :
    (server.respond m r).map Prod.fst = some (Handler.login (server.call m r)) := by
  have htemplate : Template.ofPath? "/login" = some (Template.literals "/login".toList) := by
    decide
  exact map_fst_respond_of_literal hrouter htemplate (Routes.answer?_of_get? hlogin) rfl m hmethod
    hpath (Handler.delay_login _)

theorem router?_default {σ : Type} (plan : ServerPlan σ) (now : Instant) :
    ∃ router, ((plan.bare now).registerEach defaultRoutes).router? = some router := by
  -- The table is the same for every plan.
  have hroutes : ((plan.bare now).registerEach defaultRoutes).routes = small.routes := rfl
  have hsome : small.router?.isSome = true := by decide +kernel
  rw [router?, hroutes]
  exact Option.isSome_iff_exists.mp hsome

/-- A request to log in is answered by a token exactly if it carries the login and the digest of the
password of the account, the login is not blank and a token can be issued. The token is the only
member of the object that is sent, and speaks for the account at once. Every other request to log in
gets the same response. -/
theorem respond_login {login password email : String} {id : Int}
    (hadmin : server.service.administrator = .new login password email id)
    (hid : Width.fitsSigned id = true)
    (hlogin : server.routes.get? loginRoute.1 = some loginRoute.2)
    (hrouter : server.router? = some router)
    (hnow : Instant.inRange m.systemNow.seconds = true)
    (hmethod : r.method = "POST") (hpath : r.path = "/login") :
    ∃ reply, (server.respond m r).map Prod.fst = some reply ∧
      (reply.response.status = .ok ↔ Login.Grants login password server.service.codec m r) ∧
      (Login.Grants login password server.service.codec m r → ∃ token claims,
        reply.response =
          { status := .ok, contentType := some .json
            body := "\x7b\"token\":\"" ++ String.ofList token ++ "\"\x7d" } ∧
          server.service.codec.verify token m.systemNow = .ok claims ∧
            server.service.administrator.user login = .ok claims.user ∧
              claims.user = ⟨id, "Administrator", email, login, true⟩) ∧
      (¬Login.Grants login password server.service.codec m r →
        reply.response = { status := .unauthorized, contentType := some .text
                           body := "Invalid credentials" }) := by
  refine ⟨_, map_fst_respond_login hlogin hrouter hmethod hpath, ?_⟩
  have hgranted := Handler.response_login_of_grants (c := server.call m r) hadmin hid hnow
  have hrefused := Handler.response_login_of_not_grants (c := server.call m r) hadmin
  refine ⟨⟨fun hok => ?_, fun h => ?_⟩, fun h => ?_, hrefused⟩
  · by_contra h
    rw [hrefused h] at hok
    cases hok
  · obtain ⟨token, claims, htoken, -⟩ := hgranted h
    rw [htoken]
  · obtain ⟨token, claims, htoken, hverify, huser⟩ := hgranted h
    refine ⟨token, claims, htoken, hverify, ?_, huser⟩
    rw [hadmin, huser]
    exact if_pos rfl

end Server

/-! ## A server with an account -/

/-- The small plan with an account that has a password. -/
def ServerPlan.staffed : ServerPlan SilentSink :=
  { ServerPlan.small with administrator := .new "root" "Passw0rd!" "root@example.com" 1 }

namespace Server

/-- The server of the plan as it is built. -/
def staffed : Server SilentSink :=
  (ServerPlan.staffed.bare Instant.epoch).registerEach defaultRoutes

/-- The account is let in by its login and its digest, and nobody else is. -/
theorem respond_login_staffed :
    (∃ reply token claims,
      (staffed.respond ⟨Instant.epoch, "t", "r", none, ⟨0⟩⟩
        (Login.request "root" (Password.digest "Passw0rd!"))).map Prod.fst = some reply ∧
      reply.response =
        { status := .ok, contentType := some .json
          body := "\x7b\"token\":\"" ++ String.ofList token ++ "\"\x7d" } ∧
      staffed.service.codec.verify token Instant.epoch = .ok claims ∧
      claims.user = ⟨1, "Administrator", "root@example.com", "root", true⟩) ∧
    ∃ reply,
      (staffed.respond ⟨Instant.epoch, "t", "r", none, ⟨0⟩⟩ ⟨"POST", "/login", [], []⟩).map
        Prod.fst = some reply ∧
      reply.response =
        { status := .unauthorized, contentType := some .text, body := "Invalid credentials" } := by
  obtain ⟨router, hrouter⟩ := router?_default ServerPlan.staffed Instant.epoch
  have hadmin : staffed.service.administrator = .new "root" "Passw0rd!" "root@example.com" 1 := rfl
  have hlogin : staffed.routes.get? loginRoute.1 = some loginRoute.2 := rfl
  have hanswer := fun r => respond_login (m := ⟨Instant.epoch, "t", "r", none, ⟨0⟩⟩) (r := r)
    hadmin (by decide) hlogin hrouter (by decide)
  constructor
  · have hgrants : Login.Grants "root" "Passw0rd!" staffed.service.codec
        ⟨Instant.epoch, "t", "r", none, ⟨0⟩⟩
        (Login.request "root" (Password.digest "Passw0rd!")) :=
      { form := Credentials.ofRequest_of_carries (Login.carries_request (by decide))
        notBlank := ⟨'r', by decide, by decide⟩
        lifetime := by decide
        inRange := by decide }
    obtain ⟨reply, hreply, -, hgranted, -⟩ := hanswer _ rfl (Login.path_request _ _)
    obtain ⟨token, claims, htoken, hverify, -, huser⟩ := hgranted hgrants
    exact ⟨reply, token, claims, hreply, htoken, hverify, huser⟩
  · obtain ⟨reply, hreply, -, -, hrefused⟩ := hanswer ⟨"POST", "/login", [], []⟩ rfl (by decide)
    refine ⟨reply, hreply, hrefused fun hgrants => ?_⟩
    have hform := hgrants.form
    cases hform

end Server

end Gatehouse
