import Gatehouse.Config.Service
import Gatehouse.Proofs.Except
import Mathlib.Data.List.Forall2

/-!
# What the rules of a configuration ask

There are thirteen demands on the settings of a configuration, in a fixed order (`Demand.all`), each
with the key that it blames. Settings that meet all of them make a configuration, which holds what
they hold : the name, the address and the issuer trimmed, and everything else as it is
(`ConfigDraft.Makes`). Other settings make none, and the error blames the first demand that is not
met, and calls its setting missing or invalid (`Source.service_of_draft`).

No rule looks at what another has made of its setting. So the error of a chain of rules is the first
of their errors, each taken by itself (`fault_bind`).
-/

namespace Gatehouse

/-! ## The first fault of a chain -/

section Fault

variable {ε α β : Type}

/-- The error of a computation that has failed. -/
def fault : Except ε α → Option ε
  | .ok _ => none
  | .error e => some e

theorem fault_eq_none_iff {x : Except ε α} : fault x = none ↔ ∃ a, x = .ok a := by
  cases x <;> simp [fault]

theorem fault_eq_some_iff {x : Except ε α} {e : ε} : fault x = some e ↔ x = .error e := by
  cases x <;> simp [fault]

/-- Where a step does not depend on the one before, the first that fails is to blame. -/
theorem fault_bind {x : Except ε α} {f : α → Except ε β} {o : Option ε}
    (h : ∀ a, fault (f a) = o) : fault (x >>= f) = (fault x).or o := by
  cases x with
  | error e => rfl
  | ok a => exact h a

/-- What becomes of a value makes no difference to the error. -/
theorem fault_map (x : Except ε α) (f : α → β) : fault (x.map f) = fault x := by
  cases x <;> rfl

end Fault

/-! ## Demands -/

/-- What is asked of settings, the key to blame where it is not met, and when the setting of the key
counts as missing. -/
structure Demand where
  key : String
  IsMet : ConfigDraft → Prop
  IsLacking : ConfigDraft → Prop := fun _ => False

namespace Demand

def appName : Demand where
  key := "APP_NAME"
  IsMet d := Text.trim d.appName ≠ ""

def serverIp : Demand where
  key := "SERVER_IP"
  IsMet d := ∃ ip, IpAddress.ofString? (Text.trim d.serverIp) = some ip

def port : Demand where
  key := "PORT"
  IsMet d := 1 ≤ d.port ∧ d.port ≤ 65535

def secret : Demand where
  key := "JWT_SECRET"
  IsMet d := ∃ s, d.secret = some s ∧ 16 ≤ s.toList.length
  IsLacking d := d.secret = none ∨ d.secret = some ""

/-- An issuer that is blank is as good as none. -/
def issuer : Demand where
  key := "JWT_ISSUER_ID"
  IsMet d := ∃ s, d.issuer = some s ∧ Text.trim s ≠ ""
  IsLacking _ := True

def duration : Demand where
  key := "JWT_DURATION_MINUTES"
  IsMet d := 1 ≤ d.durationMinutes ∧ d.durationMinutes ≤ 60 * 24 * 366 * 10

def adminUser : Demand where
  key := "ADMIN_USER"
  IsMet d := 5 ≤ d.adminUser.toList.length

def adminPassword : Demand where
  key := "ADMIN_PASSWORD"
  IsMet d := ∃ s, d.adminPassword = some s ∧ 8 ≤ s.toList.length ∧ Password.isComplex s = true
  IsLacking d := d.adminPassword = none

def adminEmail : Demand where
  key := "ADMIN_EMAIL"
  IsMet d := '@' ∈ d.adminEmail.toList

def adminId : Demand where
  key := "ADMIN_ID"
  IsMet d := 1 ≤ d.adminId

def shutdown : Demand where
  key := "SHUTDOWN_TIMEOUT_SECS"
  IsMet d := 1 ≤ d.shutdownSeconds

def logFormat : Demand where
  key := "LOG_FORMAT"
  IsMet d := d.logFormat.toList.map Char.toLower ∈
    ["pretty".toList, "json".toList, "compact".toList]

def logFile : Demand where
  key := "LOG_FILE"
  IsMet d := 5 ≤ d.logFile.toList.length

/-- What the rules ask of settings, in the order in which they ask it. -/
def all : List Demand :=
  [appName, serverIp, port, secret, issuer, duration, adminUser, adminPassword, adminEmail, adminId,
    shutdown, logFormat, logFile]

end Demand

/-- A fault is the one that a demand has with settings : none where it is met, and else one that
blames its key. -/
structure Demand.Judges (q : Demand) (d : ConfigDraft) (o : Option ConfigError) : Prop where
  met : q.IsMet d → o = none
  lacking : ¬q.IsMet d → q.IsLacking d → o = some (.missing q.key)
  broken : ¬q.IsMet d → ¬q.IsLacking d → ∃ reason, o = some (.invalid q.key reason)

namespace Demand

variable {q : Demand} {d : ConfigDraft} {α : Type} {a : α}

/-- A rule that finds no error has its demand met. -/
theorem Judges.isMet {o : Option ConfigError} (h : q.Judges d o) (ho : o = none) : q.IsMet d := by
  subst ho
  by_contra hnot
  by_cases hlacking : q.IsLacking d
  · cases h.lacking hnot hlacking
  · obtain ⟨reason, hreason⟩ := h.broken hnot hlacking
    cases hreason

theorem judges_ok (h : q.IsMet d) : q.Judges d (fault (.ok a : Except ConfigError α)) where
  met _ := rfl
  lacking hnot := absurd h hnot
  broken hnot := absurd h hnot

theorem judges_missing (h : ¬q.IsMet d) (hlacking : q.IsLacking d) :
    q.Judges d (fault (.error (.missing q.key) : Except ConfigError α)) where
  met hmet := absurd hmet h
  lacking _ _ := rfl
  broken _ hnot := absurd hlacking hnot

theorem judges_invalid {reason : String} (h : ¬q.IsMet d) (hlacking : ¬q.IsLacking d) :
    q.Judges d (fault (.error (.invalid q.key reason) : Except ConfigError α)) where
  met hmet := absurd hmet h
  lacking _ hlack := absurd hlack hlacking
  broken _ _ := ⟨reason, rfl⟩

/-! ## The first demand that is not met -/

variable {qs : List Demand} {os : List (Option ConfigError)}

/-- The first of some faults. -/
def first (os : List (Option ConfigError)) : Option ConfigError :=
  os.foldr Option.or none

/-- Rules that judge their demands find no error between them exactly if all demands are met. -/
theorem first_eq_none_iff (h : List.Forall₂ (fun q o => q.Judges d o) qs os) :
    first os = none ↔ ∀ q ∈ qs, q.IsMet d := by
  induction h with
  | nil => simp [first]
  | @cons q o qs os hq hqs ih =>
    rw [first, List.foldr_cons, ← first, Option.or_eq_none_iff, ih, List.forall_mem_cons]
    exact and_congr_left fun _ => ⟨hq.isMet, hq.met⟩

/-- The first error is the judgement on the first demand that is not met. -/
theorem judges_first (h : List.Forall₂ (fun q o => q.Judges d o) qs os) :
    ∀ {before after : List Demand} {q : Demand}, qs = before ++ q :: after →
      (∀ p ∈ before, p.IsMet d) → ¬q.IsMet d → q.Judges d (first os) := by
  induction h with
  | nil => simp
  | @cons p o qs os hp hqs ih =>
    intro before after q heq hbefore hq
    rw [first, List.foldr_cons, ← first]
    cases before with
    | nil =>
      obtain ⟨rfl, -⟩ := List.cons.inj heq
      obtain ⟨e, rfl⟩ : ∃ e, o = some e :=
        Option.ne_none_iff_exists'.mp fun ho => hq (hp.isMet ho)
      exact hp
    | cons p' before =>
      obtain ⟨rfl, htail⟩ := List.cons.inj heq
      rw [hp.met (hbefore p List.mem_cons_self), Option.none_or]
      exact ih htail (fun p hp => hbefore p (List.mem_cons_of_mem _ hp)) hq

end Demand

/-! ## The rules, one by one -/

namespace ConfigDraft

open Demand

variable (d : ConfigDraft)

/-- What each rule says of its setting. -/
def faults : List (Option ConfigError) :=
  [fault (Rule.appName d.appName), fault (Rule.ip d.serverIp), fault (Rule.port d.port),
    fault (Rule.secret d.secret), fault (Rule.issuer d.issuer),
    fault (Rule.duration d.durationMinutes), fault (Rule.login d.adminUser),
    fault (Rule.password d.adminPassword), fault (Rule.email d.adminEmail),
    fault (Rule.adminId d.adminId), fault (Rule.shutdown d.shutdownSeconds),
    fault (Rule.logFormat d.logFormat), fault (LogOutput.ofString d.logFile)]

/-- The rules are checked in order, and the first error is the one of the check. -/
theorem fault_check : fault d.check = first d.faults :=
  fault_bind fun _ => fault_bind fun _ => fault_bind fun _ => fault_bind fun _ =>
    fault_bind fun _ => fault_bind fun _ => fault_bind fun _ => fault_bind fun _ =>
      fault_bind fun _ => fault_bind fun _ => fault_bind fun _ => fault_bind fun _ =>
        fault_bind fun _ => rfl

variable {d} {q : Demand} {α : Type} {a : α} {p : Prop} [Decidable p] {reason : String}

/-- A rule of one condition judges as a demand for it does. -/
theorem judges_ite (hmet : q.IsMet d ↔ p) (hlacking : ¬q.IsLacking d) :
    q.Judges d (fault (if p then .ok a else .error (.invalid q.key reason))) := by
  split_ifs with hp
  · exact judges_ok (hmet.mpr hp)
  · exact judges_invalid (mt hmet.mp hp) hlacking

theorem judges_ite_not (hmet : q.IsMet d ↔ ¬p) (hlacking : ¬q.IsLacking d) :
    q.Judges d (fault (if p then .error (.invalid q.key reason) else .ok a)) := by
  rw [← ite_not]
  exact judges_ite hmet hlacking

variable (d)

theorem judges_serverIp : Demand.serverIp.Judges d (fault (Rule.ip d.serverIp)) := by
  delta Rule.ip
  cases hip : IpAddress.ofString? (Text.trim d.serverIp) with
  | some ip => exact judges_ok ⟨ip, hip⟩
  | none =>
    refine judges_invalid (q := .serverIp) ?_ id
    rintro ⟨ip, h⟩
    cases hip.symm.trans h

/-- A secret that is empty counts as missing, and one that is too short as invalid. -/
theorem judges_secret : Demand.secret.Judges d (fault (Rule.secret d.secret)) := by
  cases hsecret : d.secret with
  | none =>
    refine judges_missing (q := .secret) ?_ (Or.inl hsecret)
    rintro ⟨s, h, -⟩
    cases hsecret.symm.trans h
  | some s =>
    rw [Rule.secret]
    split_ifs with hempty hshort
    · refine judges_missing (q := .secret) ?_ (Or.inr (hempty ▸ hsecret))
      rintro ⟨s', h, hlong⟩
      obtain rfl := Option.some.inj (hsecret.symm.trans h)
      rw [hempty] at hlong
      exact absurd hlong (by decide)
    · refine judges_invalid (q := .secret) ?_ ?_
      · rintro ⟨s', h, hlong⟩
        obtain rfl := Option.some.inj (hsecret.symm.trans h)
        exact absurd hlong (Nat.not_le.mpr hshort)
      · rintro (h | h)
        · cases hsecret.symm.trans h
        · exact hempty (Option.some.inj (hsecret.symm.trans h))
    · exact judges_ok ⟨s, hsecret, Nat.not_lt.mp hshort⟩

/-- An issuer that is blank counts as missing. -/
theorem judges_issuer : Demand.issuer.Judges d (fault (Rule.issuer d.issuer)) := by
  cases hissuer : d.issuer with
  | none =>
    refine judges_missing (q := .issuer) ?_ trivial
    rintro ⟨s, h, -⟩
    cases hissuer.symm.trans h
  | some s =>
    rw [Rule.issuer]
    split_ifs with hblank
    · refine judges_missing (q := .issuer) ?_ trivial
      rintro ⟨s', h, hnot⟩
      obtain rfl := Option.some.inj (hissuer.symm.trans h)
      exact hnot hblank
    · exact judges_ok ⟨s, hissuer, hblank⟩

/-- A password that is not complex or long enough is invalid, and missing only if there is none. -/
theorem judges_password :
    Demand.adminPassword.Judges d (fault (Rule.password d.adminPassword)) := by
  cases hpassword : d.adminPassword with
  | none =>
    refine judges_missing (q := .adminPassword) ?_ hpassword
    rintro ⟨s, h, -⟩
    cases hpassword.symm.trans h
  | some s =>
    have hnotLacking : ¬Demand.adminPassword.IsLacking d := fun h => by cases hpassword.symm.trans h
    rw [Rule.password, fault_map, Password.check]
    split_ifs with hshort hsimple
    · refine judges_invalid (q := .adminPassword) ?_ hnotLacking
      rintro ⟨s', h, hlong, -⟩
      obtain rfl := Option.some.inj (hpassword.symm.trans h)
      exact absurd hlong (Nat.not_le.mpr hshort)
    · refine judges_invalid (q := .adminPassword) ?_ hnotLacking
      rintro ⟨s', h, -, hcomplex⟩
      obtain rfl := Option.some.inj (hpassword.symm.trans h)
      rw [hcomplex] at hsimple
      cases hsimple
    · exact judges_ok ⟨s, hpassword, Nat.not_lt.mp hshort, by simpa using hsimple⟩

theorem judges_logFormat : Demand.logFormat.Judges d (fault (Rule.logFormat d.logFormat)) := by
  rw [Rule.logFormat, LogFormat.ofString]
  split_ifs with hpretty hjson hcompact
  · exact judges_ok (List.mem_cons.mpr (Or.inl hpretty))
  · exact judges_ok (List.mem_cons_of_mem _ (List.mem_cons.mpr (Or.inl hjson)))
  · have hmem := List.mem_singleton.mpr hcompact
    exact judges_ok (List.mem_cons_of_mem _ (List.mem_cons_of_mem _ hmem))
  · refine judges_invalid (q := .logFormat) ?_ id
    intro h
    rcases List.mem_cons.mp h with h | h
    · exact hpretty h
    · rcases List.mem_cons.mp h with h | h
      · exact hjson h
      · exact hcompact (List.mem_singleton.mp h)

theorem judges_logFile : Demand.logFile.Judges d (fault (LogOutput.ofString d.logFile)) := by
  rw [LogOutput.ofString]
  split_ifs with hshort
  · exact judges_invalid (q := .logFile) (Nat.not_le.mpr hshort) id
  all_goals exact judges_ok (Nat.not_lt.mp hshort)

/-- Each rule judges the demand at its place. -/
theorem judges_faults : List.Forall₂ (fun q o => q.Judges d o) Demand.all d.faults :=
  .cons (judges_ite_not Iff.rfl id) <| .cons d.judges_serverIp <| .cons (judges_ite Iff.rfl id) <|
    .cons d.judges_secret <| .cons d.judges_issuer <| .cons (judges_ite Iff.rfl id) <|
      .cons (judges_ite_not Nat.not_lt.symm id) <| .cons d.judges_password <|
        .cons (judges_ite Iff.rfl id) <| .cons (judges_ite_not Int.not_lt.symm id) <|
          .cons (judges_ite_not Int.not_lt.symm id) <| .cons d.judges_logFormat <|
            .cons d.judges_logFile .nil

theorem exists_check_iff : (∃ c, d.check = .ok c) ↔ ∀ q ∈ Demand.all, q.IsMet d := by
  rw [← fault_eq_none_iff, fault_check, Demand.first_eq_none_iff d.judges_faults]

variable {d}

/-- What is accepted meets every demand. -/
theorem isMet_of_check {c : ServiceSettings} (h : d.check = .ok c) (hq : q ∈ Demand.all) :
    q.IsMet d :=
  d.exists_check_iff.mp ⟨c, h⟩ q hq

end ConfigDraft

/-! ## What settings make -/

/-- A configuration holds what settings hold : three of them trimmed, numbers as the same numbers,
and all else as it is. -/
structure ConfigDraft.Makes (d : ConfigDraft) (c : ServiceSettings) : Prop where
  appName : c.appName = Text.trim d.appName
  ip : IpAddress.ofString? (Text.trim d.serverIp) = some c.listen.ip
  port : (c.listen.port.toNat : Int) = d.port
  secret : d.secret = some c.token.secret
  issuer : d.issuer.map Text.trim = some c.token.issuer
  duration : c.token.durationMinutes = d.durationMinutes
  login : c.admin.login = d.adminUser
  password : d.adminPassword = some c.admin.password
  email : c.admin.email = d.adminEmail
  id : c.admin.id = d.adminId
  shutdown : (c.shutdownTimeout.nanos : Int) = d.shutdownSeconds * Span.perSecond
  level : c.logging.level = d.logLevel
  format : c.logging.format.name.toList.map Char.toLower = d.logFormat.toList.map Char.toLower
  target : c.logging.target = if d.logFile = "stdout" then .stdout else if d.logFile = "stderr"
    then .stderr else if d.logFile = "DISCARD" then .discard else .file d.logFile
  others : c.logging.spanEvents = false ∧ c.logging.file = true ∧ c.logging.threadIds = false ∧
    c.logging.withTarget = true

section Ok

variable {ε α : Type} {p : Prop} [Decidable p] {a b : α} {e : ε}

theorem of_ite_ok (h : (if p then .ok a else .error e : Except ε α) = .ok b) : p ∧ a = b := by
  split_ifs at h with hp
  exact ⟨hp, Except.ok.inj h⟩

theorem of_ite_error (h : (if p then .error e else .ok a : Except ε α) = .ok b) : a = b := by
  split_ifs at h
  exact Except.ok.inj h

end Ok

namespace Rule

/-- An address is read from its text without the blanks around it. -/
theorem ip_eq_ok_iff {text : String} {ip : IpAddress} :
    Rule.ip text = .ok ip ↔ IpAddress.ofString? (Text.trim text) = some ip := by
  delta Rule.ip
  cases IpAddress.ofString? (Text.trim text) <;> simp

theorem toNat_of_port {n : Int} {port : UInt16} (h : Rule.port n = .ok port) :
    (port.toNat : Int) = n := by
  obtain ⟨⟨hleast, hmost⟩, rfl⟩ := of_ite_ok h
  rw [UInt16.toNat_ofNat', Nat.mod_eq_of_lt (by omega)]
  omega

theorem eq_some_of_secret {s : Option String} {secret : String} (h : Rule.secret s = .ok secret) :
    s = some secret := by
  cases s with
  | none => cases h
  | some s =>
    rw [Rule.secret] at h
    split_ifs at h
    exact congrArg some (Except.ok.inj h)

/-- An issuer is kept without the blanks around it. -/
theorem map_trim_of_issuer {s : Option String} {issuer : String} (h : Rule.issuer s = .ok issuer) :
    s.map Text.trim = some issuer := by
  cases s with
  | none => cases h
  | some s => exact congrArg some (of_ite_error h)

theorem eq_some_of_password {s : Option String} {password : String}
    (h : Rule.password s = .ok password) : s = some password := by
  cases s with
  | none => cases h
  | some s =>
    obtain ⟨-, -, h⟩ := map_eq_ok_iff.mp h
    exact congrArg some h

theorem nanos_of_shutdown {n : Int} {span : Span} (h : Rule.shutdown n = .ok span) :
    (span.nanos : Int) = n * Span.perSecond := by
  rw [Rule.shutdown] at h
  split_ifs at h with hn
  obtain rfl := Except.ok.inj h
  have hseconds : (Span.ofSeconds n.toNat).nanos = n.toNat * Span.perSecond := rfl
  rw [hseconds, Int.natCast_mul, Int.toNat_of_nonneg (by omega)]

/-- A format is named by a text up to the case of its letters. -/
theorem name_of_logFormat {s : String} {format : LogFormat} (h : Rule.logFormat s = .ok format) :
    format.name.toList.map Char.toLower = s.toList.map Char.toLower := by
  rw [Rule.logFormat, LogFormat.ofString] at h
  split_ifs at h with hpretty hjson hcompact
  · obtain rfl := Except.ok.inj h
    rw [hpretty]
    rfl
  · obtain rfl := Except.ok.inj h
    rw [hjson]
    rfl
  · obtain rfl := Except.ok.inj h
    rw [hcompact]
    rfl
  · cases h

end Rule

/-- Three words are outputs of their own, and all other texts are files. -/
theorem LogOutput.eq_of_ofString {text : String} {target : LogOutput}
    (h : LogOutput.ofString text = .ok target) :
    target = if text = "stdout" then .stdout else if text = "stderr" then .stderr
      else if text = "DISCARD" then .discard else .file text := by
  rw [ofString] at h
  split_ifs at h ⊢ <;> exact (Except.ok.inj h).symm

/-- A source gives settings, each under its key. -/
structure Source.Gives (s : Source) (d : ConfigDraft) : Prop where
  appName : s.text "app_name" = .ok d.appName
  serverIp : s.text "server_ip" = .ok d.serverIp
  port : s.int "port" = .ok d.port
  secret : s.textOrNone "jwt_secret" = .ok d.secret
  issuer : s.textOrNone "jwt_issuer_id" = .ok d.issuer
  durationMinutes : s.int "jwt_duration_minutes" = .ok d.durationMinutes
  adminUser : s.text "admin_user" = .ok d.adminUser
  adminPassword : s.textOrNone "admin_password" = .ok d.adminPassword
  adminEmail : s.text "admin_email" = .ok d.adminEmail
  adminId : s.int "admin_id" = .ok d.adminId
  shutdownSeconds : s.int "shutdown_timeout_secs" = .ok d.shutdownSeconds
  logLevel : s.text "log_level" = .ok d.logLevel
  logFormat : s.text "log_format" = .ok d.logFormat
  logFile : s.text "log_file" = .ok d.logFile

namespace ConfigDraft

variable {d : ConfigDraft}

theorem makes_of_check {c : ServiceSettings} (h : d.check = .ok c) : d.Makes c := by
  obtain ⟨appName, happName, h⟩ := bind_eq_ok_iff.mp h
  obtain ⟨ip, hip, h⟩ := bind_eq_ok_iff.mp h
  obtain ⟨port, hport, h⟩ := bind_eq_ok_iff.mp h
  obtain ⟨secret, hsecret, h⟩ := bind_eq_ok_iff.mp h
  obtain ⟨issuer, hissuer, h⟩ := bind_eq_ok_iff.mp h
  obtain ⟨minutes, hminutes, h⟩ := bind_eq_ok_iff.mp h
  obtain ⟨login, hlogin, h⟩ := bind_eq_ok_iff.mp h
  obtain ⟨password, hpassword, h⟩ := bind_eq_ok_iff.mp h
  obtain ⟨email, hemail, h⟩ := bind_eq_ok_iff.mp h
  obtain ⟨id, hid, h⟩ := bind_eq_ok_iff.mp h
  obtain ⟨shutdown, hshutdown, h⟩ := bind_eq_ok_iff.mp h
  obtain ⟨format, hformat, h⟩ := bind_eq_ok_iff.mp h
  obtain ⟨target, htarget, h⟩ := bind_eq_ok_iff.mp h
  obtain rfl := Except.ok.inj h
  exact {
    appName := (of_ite_error happName).symm
    ip := Rule.ip_eq_ok_iff.mp hip
    port := Rule.toNat_of_port hport
    secret := Rule.eq_some_of_secret hsecret
    issuer := Rule.map_trim_of_issuer hissuer
    duration := (of_ite_ok hminutes).2.symm
    login := (of_ite_error hlogin).symm
    password := Rule.eq_some_of_password hpassword
    email := (of_ite_ok hemail).2.symm
    id := (of_ite_error hid).symm
    shutdown := Rule.nanos_of_shutdown hshutdown
    level := rfl
    format := Rule.name_of_logFormat hformat
    target := LogOutput.eq_of_ofString htarget
    others := ⟨rfl, rfl, rfl, rfl⟩ }

/-- A source of these settings. -/
def source (d : ConfigDraft) : Source :=
  [("app_name", ⟨.text d.appName, none⟩), ("server_ip", ⟨.text d.serverIp, none⟩),
    ("port", ⟨.int d.port, none⟩),
    ("jwt_secret", ⟨(d.secret.map Setting.text).getD .nothing, none⟩),
    ("jwt_issuer_id", ⟨(d.issuer.map Setting.text).getD .nothing, none⟩),
    ("jwt_duration_minutes", ⟨.int d.durationMinutes, none⟩),
    ("admin_user", ⟨.text d.adminUser, none⟩),
    ("admin_password", ⟨(d.adminPassword.map Setting.text).getD .nothing, none⟩),
    ("admin_email", ⟨.text d.adminEmail, none⟩), ("admin_id", ⟨.int d.adminId, none⟩),
    ("shutdown_timeout_secs", ⟨.int d.shutdownSeconds, none⟩),
    ("log_level", ⟨.text d.logLevel, none⟩), ("log_format", ⟨.text d.logFormat, none⟩),
    ("log_file", ⟨.text d.logFile, none⟩)]

/-- A draft is read back from its settings. -/
theorem ofSource_source (d : ConfigDraft) : ofSource d.source = .ok d := by
  obtain ⟨appName, serverIp, port, secret, issuer, minutes, user, password, email, id, shutdown,
    level, format, file⟩ := d
  cases secret <;> cases issuer <;> cases password <;> rfl

theorem gives_of_gather {s : Source} (h : gather s = .ok d) : s.Gives d := by
  obtain ⟨appName, happName, h⟩ := bind_eq_ok_iff.mp h
  obtain ⟨serverIp, hserverIp, h⟩ := bind_eq_ok_iff.mp h
  obtain ⟨port, hport, h⟩ := bind_eq_ok_iff.mp h
  obtain ⟨secret, hsecret, h⟩ := bind_eq_ok_iff.mp h
  obtain ⟨issuer, hissuer, h⟩ := bind_eq_ok_iff.mp h
  obtain ⟨durationMinutes, hdurationMinutes, h⟩ := bind_eq_ok_iff.mp h
  obtain ⟨adminUser, hadminUser, h⟩ := bind_eq_ok_iff.mp h
  obtain ⟨adminPassword, hadminPassword, h⟩ := bind_eq_ok_iff.mp h
  obtain ⟨adminEmail, hadminEmail, h⟩ := bind_eq_ok_iff.mp h
  obtain ⟨adminId, hadminId, h⟩ := bind_eq_ok_iff.mp h
  obtain ⟨shutdownSeconds, hshutdownSeconds, h⟩ := bind_eq_ok_iff.mp h
  obtain ⟨logLevel, hlogLevel, h⟩ := bind_eq_ok_iff.mp h
  obtain ⟨logFormat, hlogFormat, h⟩ := bind_eq_ok_iff.mp h
  obtain ⟨logFile, hlogFile, h⟩ := bind_eq_ok_iff.mp h
  obtain rfl := Except.ok.inj h
  exact ⟨happName, hserverIp, hport, hsecret, hissuer, hdurationMinutes, hadminUser, hadminPassword,
    hadminEmail, hadminId, hshutdownSeconds, hlogLevel, hlogFormat, hlogFile⟩

theorem gives_of_ofSource {s : Source} (h : ofSource s = .ok d) : s.Gives d := by
  obtain ⟨-, -, h⟩ := bind_eq_ok_iff.mp h
  exact gives_of_gather h

end ConfigDraft

/-- Whatever settings there are of the right types : they make a configuration exactly if they meet
every demand, and it holds what they hold. Otherwise the first demand that is not met is blamed by
its key, for a setting that is missing or for one that is invalid. -/
theorem Source.service_of_draft (d : ConfigDraft) :
    (∃ s, ConfigDraft.ofSource s = .ok d) ∧
    ∀ s, ConfigDraft.ofSource s = .ok d →
      ((∃ c, s.service = .ok c) ↔ ∀ q ∈ Demand.all, q.IsMet d) ∧
      (∀ c, s.service = .ok c → d.Makes c) ∧
      ∀ (before after : List Demand) (q : Demand), Demand.all = before ++ q :: after →
        (∀ p ∈ before, p.IsMet d) → ¬q.IsMet d →
          (q.IsLacking d → s.service = .error (.missing q.key)) ∧
          (¬q.IsLacking d → ∃ reason, s.service = .error (.invalid q.key reason)) := by
  refine ⟨⟨d.source, d.ofSource_source⟩, fun s hs => ?_⟩
  have hservice : s.service = d.check := by
    rw [service, hs]
    rfl
  rw [hservice]
  refine ⟨d.exists_check_iff, fun c => ConfigDraft.makes_of_check,
    fun before after q hall hbefore hq => ?_⟩
  have hjudges := Demand.judges_first d.judges_faults hall hbefore hq
  rw [← d.fault_check] at hjudges
  refine ⟨fun hlacking => fault_eq_some_iff.mp (hjudges.lacking hq hlacking), fun hbroken => ?_⟩
  obtain ⟨reason, hreason⟩ := hjudges.broken hq hbroken
  exact ⟨reason, fault_eq_some_iff.mp hreason⟩

/-- Settings that no port and no address of mail can be made of. -/
def ConfigDraft.broken : ConfigDraft where
  appName := " gatehouse "
  serverIp := "127.0.0.1"
  port := 70000
  secret := none
  issuer := some "gatehouse"
  durationMinutes := 60
  adminUser := "goadmin"
  adminPassword := some "ValidP@ssw0rd"
  adminEmail := "nobody"
  adminId := 1
  shutdownSeconds := 2
  logLevel := "info"
  logFormat := "JSON"
  logFile := "stderr"

/-- Two demands are not met, and the error names the first of them. -/
theorem Source.service_of_draft_broken :
    ∃ s, ConfigDraft.ofSource s = .ok ConfigDraft.broken ∧
      ∃ reason, s.service = .error (.invalid "PORT" reason) := by
  obtain ⟨⟨s, hs⟩, hservice⟩ := service_of_draft ConfigDraft.broken
  obtain ⟨-, -, hblame⟩ := hservice s hs
  refine ⟨s, hs, (hblame [.appName, .serverIp] _ .port rfl ?_ ?_).2 id⟩
  · intro p hp
    rcases List.mem_cons.mp hp with rfl | hp
    · exact (by decide +kernel : Text.trim " gatehouse " ≠ "")
    · obtain rfl := List.mem_singleton.mp hp
      have hip : IpAddress.ofString? (Text.trim "127.0.0.1") = some (.v4 127 0 0 1) := by
        decide +kernel
      exact ⟨_, hip⟩
  · exact (by decide : ¬((1 : Int) ≤ 70000 ∧ (70000 : Int) ≤ 65535))

end Gatehouse
