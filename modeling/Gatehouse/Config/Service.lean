import Gatehouse.Config.Environment
import Gatehouse.Config.Password
import Gatehouse.Logging.Settings
import Gatehouse.Net.Address
import Gatehouse.Time.Span

/-!
# The configuration of a service

`Source.service` is the way from settings to a `ServiceSettings`: every setting is read as
the type it is needed in (`ConfigDraft.ofSource`), then checked against its rule
(`ConfigDraft.check`), in a fixed order, so the first broken rule is the one that is
reported. Only the name, the address and the issuer are trimmed; nothing else is changed.

Of several settings of wrong types the one is reported that comes first among the entries of
the source (`Source.readAll`). The order of the entries is given with the source; the table
that it stands for has none. What is missing is reported only where all that is there can be
read.
-/

namespace Gatehouse

/-- The address that a server listens on. -/
structure ListenSettings where
  ip : IpAddress
  port : UInt16
deriving DecidableEq

def ListenSettings.socketAddress (c : ListenSettings) : SocketAddress :=
  ⟨c.ip, c.port, 0⟩

/-- How tokens are signed and how long they are valid. -/
structure TokenSettings where
  secret : String
  issuer : String
  durationMinutes : Int
deriving DecidableEq

/-- The signing secret as bytes. -/
def TokenSettings.secretBytes (s : TokenSettings) : Bytes :=
  Utf8.ofString s.secret

/-- The one account that the service knows. -/
structure AccountSettings where
  login : String
  password : String
  email : String
  id : Int
deriving DecidableEq

/-- A configuration that keeps every rule. -/
structure ServiceSettings where
  appName : String
  listen : ListenSettings
  token : TokenSettings
  admin : AccountSettings
  shutdownTimeout : Span
  logging : LogSettings
deriving DecidableEq

/-- Settings of the right types that no rule has been checked for. -/
structure ConfigDraft where
  appName : String
  serverIp : String
  port : Int
  secret : Option String
  issuer : Option String
  durationMinutes : Int
  adminUser : String
  adminPassword : Option String
  adminEmail : String
  adminId : Int
  shutdownSeconds : Int
  logLevel : String
  logFormat : String
  logFile : String
deriving DecidableEq

/-! ## Reading -/

namespace Source

/-- The settings that hold when no source says otherwise. -/
def defaults : Source :=
  [("app_name", ⟨.text "cloudkit", none⟩),
    ("server_ip", ⟨.text "0.0.0.0", none⟩),
    ("port", ⟨.int 9999, none⟩),
    ("jwt_duration_minutes", ⟨.int 60, none⟩),
    ("admin_user", ⟨.text "goadmin", none⟩),
    ("admin_email", ⟨.text "goadmin@yourdomain.org", none⟩),
    ("admin_id", ⟨.int 960901, none⟩),
    ("shutdown_timeout_secs", ⟨.int 2, none⟩),
    ("log_level", ⟨.text "info", none⟩),
    ("log_format", ⟨.text "pretty", none⟩),
    ("log_file", ⟨.text "stderr", none⟩)]

/-- The error of a key without an entry. -/
def absent (key : String) : ConfigError :=
  .source ("missing field `" ++ key ++ "`")

/-- The setting of a key as a text. -/
def text (s : Source) (key : String) : Except ConfigError String :=
  match s.get? key with
  | none => .error (absent key)
  | some e =>
    match e.setting.text? with
    | some t => .ok t
    | none =>
      .error (.source (SettingError.message ⟨e.setting.found, "a string", key, e.origin⟩))

/-- The setting of a key as a text, if there is one. -/
def textOrNone (s : Source) (key : String) : Except ConfigError (Option String) :=
  match s.get? key with
  | none => .ok none
  | some e => if e.setting = .nothing then .ok none else (s.text key).map some

/-- The setting of a key as a whole number. -/
def int (s : Source) (key : String) : Except ConfigError Int :=
  match s.get? key with
  | none => .error (absent key)
  | some e =>
    match e.setting.int? with
    | some n => .ok n
    | none =>
      let error : SettingError := ⟨e.setting.found, e.setting.expectedInt, key, e.origin⟩
      .error (.source error.message)

end Source

/-- What a setting is read as. -/
inductive FieldType
  | text
  | textOrNone
  | int
deriving Repr, DecidableEq

/-- The keys that are read, and what as. All others are passed over. -/
def fieldTypes : List (String × FieldType) :=
  [("app_name", .text), ("server_ip", .text), ("port", .int), ("jwt_secret", .textOrNone),
    ("jwt_issuer_id", .textOrNone), ("jwt_duration_minutes", .int), ("admin_user", .text),
    ("admin_password", .textOrNone), ("admin_email", .text), ("admin_id", .int),
    ("shutdown_timeout_secs", .int), ("log_level", .text), ("log_format", .text),
    ("log_file", .text)]

namespace Source

/-- Reads the setting of a key as what is needed of it. -/
def read (s : Source) (key : String) : Except ConfigError Unit :=
  match fieldTypes.lookup key with
  | none => .ok ()
  | some .text => (s.text key).map fun _ => ()
  | some .textOrNone => (s.textOrNone key).map fun _ => ()
  | some .int => (s.int key).map fun _ => ()

/-- Reads the settings of some keys, up to the first that cannot be read. -/
def readEach (s : Source) : List String → Except ConfigError Unit
  | [] => .ok ()
  | key :: rest => do
    s.read key
    s.readEach rest

/-- Reads all settings, in the order in which they come. -/
def readAll (s : Source) : Except ConfigError Unit :=
  s.readEach (s.map Prod.fst)

end Source

/-- The settings of the keys that are needed, each in its type. -/
def ConfigDraft.gather (s : Source) : Except ConfigError ConfigDraft := do
  let appName ← s.text "app_name"
  let serverIp ← s.text "server_ip"
  let port ← s.int "port"
  let secret ← s.textOrNone "jwt_secret"
  let issuer ← s.textOrNone "jwt_issuer_id"
  let durationMinutes ← s.int "jwt_duration_minutes"
  let adminUser ← s.text "admin_user"
  let adminPassword ← s.textOrNone "admin_password"
  let adminEmail ← s.text "admin_email"
  let adminId ← s.int "admin_id"
  let shutdownSeconds ← s.int "shutdown_timeout_secs"
  let logLevel ← s.text "log_level"
  let logFormat ← s.text "log_format"
  let logFile ← s.text "log_file"
  return { appName, serverIp, port, secret, issuer, durationMinutes, adminUser, adminPassword,
           adminEmail, adminId, shutdownSeconds, logLevel, logFormat, logFile }

/-- The settings of a source: all that is there is read before something is found missing. -/
def ConfigDraft.ofSource (s : Source) : Except ConfigError ConfigDraft := do
  s.readAll
  gather s

/-! ## Rules -/

namespace Rule

/-- The fewest characters of the administrator's login. -/
def minLogin : Nat := 5

/-- The fewest characters of a signing secret. -/
def minSecret : Nat := 16

/-- The longest life of a token, in minutes: ten years. -/
def maxDuration : Int := 60 * 24 * 366 * 10

/-- A name that is not blank, trimmed. -/
def appName (name : String) : Except ConfigError String :=
  let name := Text.trim name
  if name = "" then .error (.invalid "APP_NAME" "must not be empty") else .ok name

/-- An address, with blanks around it. -/
def ip (text : String) : Except ConfigError IpAddress :=
  match IpAddress.ofString? (Text.trim text) with
  | some ip => .ok ip
  | none => .error (.invalid "SERVER_IP" "invalid IP address syntax")

/-- A port other than zero. -/
def port (n : Int) : Except ConfigError UInt16 :=
  if 1 ≤ n ∧ n ≤ 65535 then .ok (UInt16.ofNat n.toNat)
  else .error (.invalid "PORT"
    ("should contain an integer between 1 and 65535 (got " ++ toString n ++ ")"))

/-- A signing secret that is long enough. -/
def secret : Option String → Except ConfigError String
  | none => .error (.missing "JWT_SECRET")
  | some s =>
    if s = "" then .error (.missing "JWT_SECRET")
    else if s.toList.length < minSecret then
      .error (.invalid "JWT_SECRET"
        ("should contain at least " ++ toString minSecret ++ " characters"))
    else .ok s

/-- An issuer that is not blank, trimmed. -/
def issuer : Option String → Except ConfigError String
  | none => .error (.missing "JWT_ISSUER_ID")
  | some s =>
    let s := Text.trim s
    if s = "" then .error (.missing "JWT_ISSUER_ID") else .ok s

/-- A life of tokens between a minute and the longest. -/
def duration (n : Int) : Except ConfigError Int :=
  if 1 ≤ n ∧ n ≤ maxDuration then .ok n
  else .error (.invalid "JWT_DURATION_MINUTES"
    ("should be between 1 and " ++ toString maxDuration ++ " minutes (got " ++ toString n ++ ")"))

/-- A login that is long enough. -/
def login (s : String) : Except ConfigError String :=
  let count := s.toList.length
  if count < minLogin then .error (.invalid "ADMIN_USER" (tooShort minLogin count)) else .ok s

/-- A password that keeps the rule for passwords. -/
def password : Option String → Except ConfigError String
  | none => .error (.missing "ADMIN_PASSWORD")
  | some s => (Password.check s).map fun _ => s

/-- An address with an at sign. -/
def email (s : String) : Except ConfigError String :=
  if '@' ∈ s.toList then .ok s
  else .error (.invalid "ADMIN_EMAIL" "should be a valid email address")

/-- A positive number. -/
def adminId (n : Int) : Except ConfigError Int :=
  if n < 1 then .error (.invalid "ADMIN_ID" "should be a positive integer") else .ok n

/-- A time of at least a second. -/
def shutdown (n : Int) : Except ConfigError Span :=
  if n < 1 then .error (.invalid "SHUTDOWN_TIMEOUT_SECS" "should be at least 1 second")
  else .ok (Span.ofSeconds n.toNat)

/-- The name of a log format. -/
def logFormat (s : String) : Except ConfigError LogFormat :=
  (LogFormat.ofString s).mapError (.invalid "LOG_FORMAT")

end Rule

/-- The configuration, if every rule is kept; else the first rule that is not. -/
def ConfigDraft.check (r : ConfigDraft) : Except ConfigError ServiceSettings := do
  let appName ← Rule.appName r.appName
  let ip ← Rule.ip r.serverIp
  let port ← Rule.port r.port
  let secret ← Rule.secret r.secret
  let issuer ← Rule.issuer r.issuer
  let durationMinutes ← Rule.duration r.durationMinutes
  let login ← Rule.login r.adminUser
  let password ← Rule.password r.adminPassword
  let email ← Rule.email r.adminEmail
  let id ← Rule.adminId r.adminId
  let shutdownTimeout ← Rule.shutdown r.shutdownSeconds
  let format ← Rule.logFormat r.logFormat
  let target ← LogOutput.ofString r.logFile
  return {
    appName
    listen := ⟨ip, port⟩
    token := ⟨secret, issuer, durationMinutes⟩
    admin := ⟨login, password, email, id⟩
    shutdownTimeout
    logging := { level := r.logLevel, format, target } }

/-- The configuration that the settings of a source make. -/
def Source.service (s : Source) : Except ConfigError ServiceSettings :=
  ConfigDraft.ofSource s >>= ConfigDraft.check

/-- The configuration that an environment makes together with a file of variables. -/
def ServiceSettings.ofVariables (environment : Variables) (file : String) :
    Except ConfigError ServiceSettings :=
  ((DotEnv.load environment file).laidOver Source.defaults).service

/-! ## Diagnostics -/

/-- What diagnostics show of a secret. -/
def hidden : String := "SecretBox<str>([REDACTED])"

def ListenSettings.debug (c : ListenSettings) : String :=
  Text.record "ServerConfig" [("ip", c.ip.text), ("port", toString c.port.toNat)]

def TokenSettings.debug (s : TokenSettings) : String :=
  Text.record "JwtSettings"
    [("secret", hidden), ("issuer", Text.quoted s.issuer),
      ("duration_minutes", toString s.durationMinutes)]

def AccountSettings.debug (s : AccountSettings) : String :=
  Text.record "AdminSettings"
    [("login", Text.quoted s.login), ("password", hidden), ("email", Text.quoted s.email),
      ("id", toString s.id)]

/-- The diagnostic text of a configuration, without its secrets. -/
def ServiceSettings.debug (c : ServiceSettings) : String :=
  Text.record "ServiceConfig"
    [("app_name", Text.quoted c.appName), ("server", c.listen.debug), ("jwt", c.token.debug),
      ("admin", c.admin.debug), ("shutdown_timeout", c.shutdownTimeout.debug),
      ("logging", c.logging.debug)]

end Gatehouse
