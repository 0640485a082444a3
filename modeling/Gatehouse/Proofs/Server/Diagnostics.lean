import Gatehouse.Proofs.Config.Redaction
import Gatehouse.Proofs.Server.Account
import Gatehouse.Proofs.Text.Quoted

/-!
# Diagnostics that do not depend on secrets

Two sources that are equal but for the texts of their secrets are told apart by nothing that is
shown of them (`Source.diagnostics_of_areAlike`). If both make a configuration, the diagnostic texts
of the configurations, of the codecs for their tokens and of what the handlers of their servers know
are the same : each of these texts is made of the configuration without its secrets
(`ServiceSettings.debug_codec`, `ServiceSettings.debug_state`). If neither makes one, the errors
that there may be are the same, provided that the secrets measure the same.

Which error there is may hang on the order in which the settings come, and the secrets measure what
is read of them, which may be less than what is given (`Source.errors_mistyped`).
-/

namespace Gatehouse

/-! ## What is built from a configuration -/

namespace ServiceSettings

variable {σ : Type}

/-- The codec for the tokens of a configuration, on a clock. -/
def codec (c : ServiceSettings) (builtAt : Instant) (clock : Clock) :
    Except TokenError TokenCodec :=
  (TokenCodec.new c.token.secretBytes c.token.issuer c.token.durationMinutes builtAt).map
    fun codec => { codec with clock }

/-- What the handlers know of a server of a configuration, on a clock. -/
def state (c : ServiceSettings) (sink : σ) (builtAt : Instant) (clock : Clock)
    (startedAt : Instant) (lifecycle : Lifecycle) : Except TokenError Service :=
  (ServerPlan.ofConfig c sink builtAt).map fun plan =>
    { { plan with codec := { plan.codec with clock } }.service startedAt with lifecycle }

/-- The codec that is shown of a configuration without its secrets. -/
def shownCodec (c : ServiceSettings) (clock : Clock) : TokenCodec :=
  ⟨[], c.redacted.token.issuer, c.redacted.token.durationMinutes, clock⟩

/-- What is shown of the state of a server, of a configuration without its secrets. -/
def shownState (c : ServiceSettings) (clock : Clock) (startedAt : Instant)
    (lifecycle : Lifecycle) : Service where
  appName := c.redacted.appName
  codec := c.shownCodec clock
  administrator := .ofSettings c.redacted.admin
  version := { app := c.redacted.appName, version := programVersion }
  lifecycle := lifecycle
  startedAt := startedAt

variable {c c' : ServiceSettings}

/-- Of the secret a codec needs only that there is one, and then it shows nothing of it. -/
theorem debug_codec (h : c.token.IsUsable) (builtAt : Instant) (clock : Clock) :
    (c.codec builtAt clock).map TokenCodec.debug =
      (Token.expiry builtAt c.redacted.token.durationMinutes).map fun _ =>
        (c.shownCodec clock).debug := by
  have hminutes : c.redacted.token.durationMinutes = c.token.durationMinutes := rfl
  rw [codec, TokenCodec.new_of_isUsable h, hminutes]
  cases Token.expiry builtAt c.token.durationMinutes <;> rfl

/-- What is shown of the state of a service shows of the configuration what is shown without its
secrets. -/
theorem debug_state (h : c.token.IsUsable) (sink : σ) (builtAt : Instant) (clock : Clock)
    (startedAt : Instant) (lifecycle : Lifecycle) :
    (c.state sink builtAt clock startedAt lifecycle).map Service.debug =
      (Token.expiry builtAt c.redacted.token.durationMinutes).map fun _ =>
        (c.shownState clock startedAt lifecycle).debug := by
  have hminutes : c.redacted.token.durationMinutes = c.token.durationMinutes := rfl
  rw [state, ServerPlan.ofConfig, TokenCodec.new_of_isUsable h, hminutes]
  cases Token.expiry builtAt c.token.durationMinutes <;> rfl

/-- Two configurations of which the same is shown, and of all that is built from them at the same
times and on the same clocks. -/
structure ShowAlike (c c' : ServiceSettings) : Prop where
  debug : c.debug = c'.debug
  codec : ∀ (builtAt : Instant) (clock : Clock),
    (c.codec builtAt clock).map TokenCodec.debug = (c'.codec builtAt clock).map TokenCodec.debug
  state : ∀ {σ : Type} (sink : σ) (builtAt : Instant) (clock : Clock) (startedAt : Instant)
    (lifecycle : Lifecycle),
    (c.state sink builtAt clock startedAt lifecycle).map Service.debug =
      (c'.state sink builtAt clock startedAt lifecycle).map Service.debug

/-- Configurations that are equal without their secrets are shown alike. -/
theorem showAlike_of_redacted (h : c.token.IsUsable) (h' : c'.token.IsUsable)
    (hc : c.redacted = c'.redacted) : c.ShowAlike c' where
  debug := by rw [← c.debug_redacted, hc, c'.debug_redacted]
  codec builtAt clock := by
    rw [debug_codec h, debug_codec h', shownCodec, shownCodec, hc]
  state sink builtAt clock startedAt lifecycle := by
    rw [debug_state h, debug_state h', shownState, shownState, shownCodec, shownCodec, hc]

end ServiceSettings

/-! ## Sources -/

/-- What is read of an environment is a table. Whatever texts two tables give for their secrets, if
they are equal otherwise : where both make a configuration, the same is shown of both. If what is
read of the secrets measures the same, both make one or neither does, and the errors that there may
be are the same; the error is the same if the settings come in one order, or no two of them are of
wrong types. -/
theorem Source.diagnostics_of_areAlike :
    (∀ environment : Variables, (environment.laidOver Source.defaults).IsTable) ∧
    ∀ {s t : Source}, s.IsTable → t.IsTable → s.AreAlike t →
      (∀ c c', s.service = .ok c → t.service = .ok c' → c.ShowAlike c') ∧
      (s.MeasureAlike t →
        ((∃ c, s.service = .ok c) ↔ ∃ c, t.service = .ok c) ∧
        (∀ e, s.MayFail e ↔ t.MayFail e) ∧
        ∀ e e', s.service = .error e → t.service = .error e' →
          s.map Prod.fst = t.map Prod.fst ∨ s.HasOneMisfit → e = e') := by
  refine ⟨isTable_laidOver_defaults, fun hs ht h => ⟨fun c c' hc hc' => ?_, fun hmeasure => ⟨?_,
    h.mayFail_iff hmeasure hs ht, fun e e' he he' horder => h.error_eq hmeasure horder he he'⟩⟩⟩
  · exact ServiceSettings.showAlike_of_redacted (TokenSettings.isUsable_of_service hc)
      (TokenSettings.isUsable_of_service hc') (h.redacted_eq hc hc')
  · rw [← fault_eq_none_iff, h.fault_eq_none_iff hmeasure, fault_eq_none_iff]

/-- The default settings and those that have no default, with texts of the secrets. -/
def Source.withSecrets (secret password : String) : Source :=
  [("jwt_secret", ⟨.text secret, none⟩), ("jwt_issuer_id", ⟨.text "gatehouse", none⟩),
    ("admin_password", ⟨.text password, none⟩)] ++ Source.defaults

/-- The configuration of these settings, if there is one. -/
def ServiceSettings.withSecrets (secret password : String) : ServiceSettings :=
  { ServiceSettings.withLogin "goadmin" with
    token := ⟨secret, "gatehouse", 60⟩
    admin := ⟨"goadmin", password, "goadmin@yourdomain.org", 960901⟩ }

namespace ServiceSettings

/-- What is shown of this configuration. -/
def shownText : String :=
  "ServiceConfig \x7b app_name: \"cloudkit\", server: ServerConfig \x7b ip: 0.0.0.0, " ++
    "port: 9999 \x7d, jwt: JwtSettings \x7b secret: SecretBox<str>([REDACTED]), " ++
    "issuer: \"gatehouse\", duration_minutes: 60 \x7d, admin: AdminSettings \x7b " ++
    "login: \"goadmin\", password: SecretBox<str>([REDACTED]), " ++
    "email: \"goadmin@yourdomain.org\", id: 960901 \x7d, shutdown_timeout: 2s, " ++
    "logging: LogConfig \x7b level: \"info\", format: Pretty, target: Stderr, " ++
    "with_span_events: false, with_file: true, with_thread_ids: false, " ++
    "with_target: true \x7d \x7d"

/-- What is shown of a server of it, as it starts at the epoch. -/
def shownStateText : String :=
  "AppState \x7b app_name: \"cloudkit\", codec: JwtCodec \x7b secret: \"[REDACTED]\", " ++
    "issuer: \"gatehouse\", ttl_minutes: 60, clock: SystemClock \x7d, lifecycle: Running, " ++
    "started_at: 1970-01-01T00:00:00Z, .. \x7d"

/-- None of the texts in it has to be escaped. -/
theorem quoted_shown : ∀ s ∈ ["cloudkit", "gatehouse", "goadmin", "goadmin@yourdomain.org", "info",
    "[REDACTED]"], Text.quoted s = "\"" ++ s ++ "\"" := by
  have hbare : ["cloudkit", "gatehouse", "goadmin", "goadmin@yourdomain.org", "info",
      "[REDACTED]"].all (fun s => s.toList.all Text.isBare) = true := by
    decide +kernel
  exact fun s hs => Text.quoted_of_isBare (List.all_eq_true.mp hbare s hs)

/-- All is shown of it but the secrets, whatever they are. -/
theorem debug_withSecrets (secret password : String) :
    (withSecrets secret password).debug = shownText := by
  have hquoted := quoted_shown
  simp only [List.forall_mem_cons] at hquoted
  obtain ⟨happ, hissuer, hlogin, hemail, hlevel, -⟩ := hquoted
  simp only [withSecrets, withLogin, debug, TokenSettings.debug, AccountSettings.debug,
    LogSettings.debug, happ, hissuer, hlogin, hemail, hlevel]
  decide +kernel

/-- And so it is with a server of it. -/
theorem debug_state_withSecrets {secret password : String}
    (h : (withSecrets secret password).token.IsUsable) (sink : σ) :
    ((withSecrets secret password).state sink Instant.epoch .system Instant.epoch .running).map
      Service.debug = .ok shownStateText := by
  have hquoted := quoted_shown
  simp only [List.forall_mem_cons] at hquoted
  obtain ⟨happ, hissuer, -, -, -, hredacted, -⟩ := hquoted
  have hshown : ((withSecrets secret password).shownState .system Instant.epoch .running).debug =
      shownStateText := by
    simp only [shownState, shownCodec, redacted, withSecrets, withLogin, Service.debug,
      TokenCodec.debug, happ, hissuer, hredacted]
    decide +kernel
  have hminutes : (withSecrets secret password).redacted.token.durationMinutes = 60 := rfl
  rw [debug_state h, hshown, hminutes]
  decide +kernel

end ServiceSettings

namespace Source

theorem areAlike_withSecrets (secret password secret' password' : String) :
    (withSecrets secret password).AreAlike (withSecrets secret' password') where
  others := by
    intro key hsecret hpassword
    simp [get?, withSecrets, List.lookup_cons, beq_false_of_ne hsecret, beq_false_of_ne hpassword]
  secret := Or.inr ⟨secret, secret', rfl, rfl⟩
  password := Or.inr ⟨password, password', rfl, rfl⟩

/-- Two pairs of secrets that make configurations, and two secrets that are too short by as much. -/
theorem diagnostics_of_areAlike_withSecrets :
    (withSecrets "sixteen or more characters" "ValidP@ssw0rd").service =
      .ok (.withSecrets "sixteen or more characters" "ValidP@ssw0rd") ∧
    (withSecrets "another signing secret" "0ther!Pass").service =
      .ok (.withSecrets "another signing secret" "0ther!Pass") ∧
    (ServiceSettings.withSecrets "another signing secret" "0ther!Pass").debug =
      ServiceSettings.shownText ∧
    ((ServiceSettings.withSecrets "another signing secret" "0ther!Pass").state () Instant.epoch
      .system Instant.epoch .running).map Service.debug = .ok ServiceSettings.shownStateText ∧
    (ServiceSettings.withSecrets "sixteen or more characters" "ValidP@ssw0rd").ShowAlike
      (.withSecrets "another signing secret" "0ther!Pass") ∧
    (withSecrets "short" "ValidP@ssw0rd").service =
      .error (.invalid "JWT_SECRET" "should contain at least 16 characters") ∧
    (withSecrets "brief" "0therP@ssw0rd").service =
      .error (.invalid "JWT_SECRET" "should contain at least 16 characters") := by
  have hfirst : (withSecrets "sixteen or more characters" "ValidP@ssw0rd").service =
      .ok (.withSecrets "sixteen or more characters" "ValidP@ssw0rd") := by
    decide +kernel
  have hsecond : (withSecrets "another signing secret" "0ther!Pass").service =
      .ok (.withSecrets "another signing secret" "0ther!Pass") := by
    decide +kernel
  have hmeasure : (withSecrets "short" "ValidP@ssw0rd").MeasureAlike
      (withSecrets "brief" "0therP@ssw0rd") := by
    refine ⟨fun a b ha hb => ?_, fun a b ha hb => ?_⟩
    · obtain rfl := Option.some.inj (Except.ok.inj ha)
      obtain rfl := Option.some.inj (Except.ok.inj hb)
      decide
    · obtain rfl := Option.some.inj (Except.ok.inj ha)
      obtain rfl := Option.some.inj (Except.ok.inj hb)
      exact ⟨by decide, by decide +kernel⟩
  have hshort : (withSecrets "short" "ValidP@ssw0rd").service =
      .error (.invalid "JWT_SECRET" "should contain at least 16 characters") := by
    decide +kernel
  have hbrief : (fault (withSecrets "brief" "0therP@ssw0rd").service).isSome = true := by
    decide +kernel
  obtain ⟨e, he⟩ := Option.isSome_iff_exists.mp hbrief
  rw [fault_eq_some_iff] at he
  obtain ⟨-, hdiagnostics⟩ := diagnostics_of_areAlike
  have hshown := hdiagnostics (by decide) (by decide)
    (areAlike_withSecrets "sixteen or more characters" "ValidP@ssw0rd"
      "another signing secret" "0ther!Pass")
  obtain ⟨-, -, herror⟩ := (hdiagnostics (by decide) (by decide)
    (areAlike_withSecrets "short" "ValidP@ssw0rd" "brief" "0therP@ssw0rd")).2 hmeasure
  obtain rfl := herror _ e hshort he (Or.inl rfl)
  exact ⟨hfirst, hsecond, ServiceSettings.debug_withSecrets _ _,
    ServiceSettings.debug_state_withSecrets (TokenSettings.isUsable_of_service hsecond) (),
    hshown.1 _ _ hfirst hsecond, hshort, he⟩

/-- Settings of which two are given as texts, first of all. -/
def mistyped (texts : List (String × String)) : Source :=
  (texts.map fun p => (p.1, ⟨.text p.2, none⟩)) ++
    (withSecrets "sixteen or more characters" "ValidP@ssw0rd").filter fun p =>
      p.1 != "port" && p.1 != "admin_id"

/-- Variables that give a secret of sixteen characters, and an account with no number. -/
def numberless (secret : String) : Variables :=
  [("JWT_SECRET", secret), ("JWT_ISSUER_ID", "gatehouse"), ("ADMIN_PASSWORD", "ValidP@ssw0rd"),
    ("ADMIN_ID", "0")]

/-- The same settings fail by one error or by another, as they come. And two texts of as many
characters are not refused alike if one of them is read as a number, of which one digit is left. -/
theorem errors_mistyped :
    (mistyped [("port", "abc"), ("admin_id", "xyz")]).Perm
      (mistyped [("admin_id", "xyz"), ("port", "abc")]) ∧
    (mistyped [("port", "abc"), ("admin_id", "xyz")]).service = .error (.source
      "invalid type: string \"abc\", expected an integer for key `port`") ∧
    (mistyped [("admin_id", "xyz"), ("port", "abc")]).service = .error (.source
      "invalid type: string \"xyz\", expected an integer for key `admin_id`") ∧
    "0000000000000001".toList.length = "abcdefghijklmnop".toList.length ∧
    ServiceSettings.ofVariables (numberless "0000000000000001") "" =
      .error (.invalid "JWT_SECRET" "should contain at least 16 characters") ∧
    ServiceSettings.ofVariables (numberless "abcdefghijklmnop") "" =
      .error (.invalid "ADMIN_ID" "should be a positive integer") :=
  ⟨((List.Perm.swap _ _ []).map _).append_right _, by decide +kernel, by decide +kernel, by decide,
    by decide +kernel, by decide +kernel⟩

end Source

end Gatehouse
