import Gatehouse.Proofs.Config.Misfit

/-!
# Settings without their secrets

A source gives two secrets, a signing secret and a password. Whatever texts it gives for them, all
else that is read of it is the same (`ConfigDraft.gather_goAlike`), and so is all else that a
configuration is made of (`Source.AreAlike.redacted_eq`).

Of the secrets themselves the rules only see how long they are, and of the password also whether it
is complex. So sources whose secrets measure the same may be refused by the same errors
(`Source.AreAlike.mayFail_iff`), and are refused by the same error if their settings come in one
order, or no two of them are of wrong types (`Source.AreAlike.error_eq`).
-/

namespace Gatehouse

/-! ## Sources -/

namespace Source

variable {s t : Source} {key : String}

/-- Two sources give the same for a secret, or each of them gives a text. -/
def GiveAlike (s t : Source) (key : String) : Prop :=
  s.get? key = t.get? key ∨
    ∃ a b, s.textOrNone key = .ok (some a) ∧ t.textOrNone key = .ok (some b)

/-- Two sources that are equal but for the texts of their secrets. -/
structure AreAlike (s t : Source) : Prop where
  others : ∀ key, key ≠ "jwt_secret" → key ≠ "admin_password" → s.get? key = t.get? key
  secret : s.GiveAlike t "jwt_secret"
  password : s.GiveAlike t "admin_password"

end Source

/-- A secret that is given, without its text. -/
def redact (secret : Option String) : Option String :=
  secret.map fun _ => ""

/-- Of equal settings or of two texts the same is read, up to what is hidden. -/
theorem Source.GiveAlike.textOrNone {s t : Source} {key : String} (h : s.GiveAlike t key) :
    GoAlike (fun a b => redact a = redact b) (s.textOrNone key) (t.textOrNone key) := by
  rcases h with h | ⟨a, b, ha, hb⟩
  · rw [textOrNone_congr h]
    cases t.textOrNone key with
    | error e => exact Or.inl ⟨e, rfl, rfl⟩
    | ok a => exact GoAlike.ok rfl
  · rw [ha, hb]
    exact GoAlike.ok rfl

namespace ConfigDraft

/-- Settings without the texts of their secrets. -/
def redacted (d : ConfigDraft) : ConfigDraft :=
  { d with secret := redact d.secret, adminPassword := redact d.adminPassword }

/-- Whatever is read of two sources that are alike is the same but for the texts of the secrets. -/
theorem gather_goAlike {s t : Source} (h : s.AreAlike t) :
    GoAlike (fun d d' => d.redacted = d'.redacted) (gather s) (gather t) := by
  have htext : ∀ key, key ≠ "jwt_secret" → key ≠ "admin_password" → s.text key = t.text key :=
    fun key hsecret hpassword => Source.text_congr (h.others key hsecret hpassword)
  have hint : ∀ key, key ≠ "jwt_secret" → key ≠ "admin_password" → s.int key = t.int key :=
    fun key hsecret hpassword => Source.int_congr (h.others key hsecret hpassword)
  refine .bind_same (htext _ (by decide) (by decide)) fun appName => ?_
  refine .bind_same (htext _ (by decide) (by decide)) fun serverIp => ?_
  refine .bind_same (hint _ (by decide) (by decide)) fun port => ?_
  refine .bind h.secret.textOrNone fun secret secret' hsecret => ?_
  refine .bind_same (Source.textOrNone_congr (h.others _ (by decide) (by decide))) fun issuer => ?_
  refine .bind_same (hint _ (by decide) (by decide)) fun durationMinutes => ?_
  refine .bind_same (htext _ (by decide) (by decide)) fun adminUser => ?_
  refine .bind h.password.textOrNone fun password password' hpassword => ?_
  refine .bind_same (htext _ (by decide) (by decide)) fun adminEmail => ?_
  refine .bind_same (hint _ (by decide) (by decide)) fun adminId => ?_
  refine .bind_same (hint _ (by decide) (by decide)) fun shutdownSeconds => ?_
  refine .bind_same (htext _ (by decide) (by decide)) fun logLevel => ?_
  refine .bind_same (htext _ (by decide) (by decide)) fun logFormat => ?_
  refine .bind_same (htext _ (by decide) (by decide)) fun logFile => .ok ?_
  rw [redacted, redacted, hsecret, hpassword]

end ConfigDraft

/-! ## Configurations -/

/-- A configuration without its secrets. -/
def ServiceSettings.redacted (c : ServiceSettings) : ServiceSettings :=
  { c with token := { c.token with secret := "" }, admin := { c.admin with password := "" } }

/-- Diagnostics show nothing more. -/
theorem ServiceSettings.debug_redacted (c : ServiceSettings) : c.redacted.debug = c.debug := rfl

/-- Formats have different names, whatever the case of the letters. -/
theorem LogFormat.eq_of_name {f g : LogFormat}
    (h : f.name.toList.map Char.toLower = g.name.toList.map Char.toLower) : f = g := by
  revert h
  cases f <;> cases g <;> decide

attribute [ext] ServiceSettings ListenSettings TokenSettings AccountSettings LogSettings Span

namespace ConfigDraft

variable {d d' : ConfigDraft}

/-- What settings make is determined by them, and the secrets go into nothing but the secrets. -/
theorem Makes.redacted_eq {c c' : ServiceSettings} (h : d.Makes c) (h' : d'.Makes c')
    (hd : d.redacted = d'.redacted) : c.redacted = c'.redacted := by
  obtain ⟨happName, hserverIp, hport, -, hissuer, hminutes, huser, -, hemail, hid, hseconds, hlevel,
    hformat, hfile⟩ := ConfigDraft.mk.inj hd
  have hspan : (c.shutdownTimeout.nanos : Int) = c'.shutdownTimeout.nanos := by
    rw [h.shutdown, h'.shutdown, hseconds]
  have hformats : c.logging.format = c'.logging.format := LogFormat.eq_of_name (by
    rw [h.format, h'.format, hformat])
  obtain ⟨hevents, hline, hthreads, htarget⟩ := h.others
  obtain ⟨hevents', hline', hthreads', htarget'⟩ := h'.others
  refine ServiceSettings.ext ?_ (ListenSettings.ext ?_ ?_) (TokenSettings.ext rfl ?_ ?_)
    (AccountSettings.ext ?_ rfl ?_ ?_) (Span.ext (Int.ofNat.inj hspan))
    (LogSettings.ext ?_ hformats ?_ (hevents.trans hevents'.symm) (hline.trans hline'.symm)
      (hthreads.trans hthreads'.symm) (htarget.trans htarget'.symm))
  · exact h.appName.trans (happName ▸ h'.appName.symm)
  · exact Option.some.inj (h.ip.symm.trans (hserverIp ▸ h'.ip))
  · exact UInt16.toNat_inj.mp (Int.ofNat.inj (h.port.trans (hport.trans h'.port.symm)))
  · exact Option.some.inj (h.issuer.symm.trans (hissuer ▸ h'.issuer))
  · exact h.duration.trans (hminutes.trans h'.duration.symm)
  · exact h.login.trans (huser.trans h'.login.symm)
  · exact h.email.trans (hemail.trans h'.email.symm)
  · exact h.id.trans (hid.trans h'.id.symm)
  · exact h.level.trans (hlevel.trans h'.level.symm)
  · exact h.target.trans (hfile ▸ h'.target.symm)

end ConfigDraft

/-- Sources that differ in the texts of their secrets make configurations that differ in them alone.
-/
theorem Source.AreAlike.redacted_eq {s t : Source} {c c' : ServiceSettings} (h : s.AreAlike t)
    (hc : s.service = .ok c) (hc' : t.service = .ok c') : c.redacted = c'.redacted := by
  obtain ⟨d, hs, hd⟩ := bind_eq_ok_iff.mp hc
  obtain ⟨d', ht, hd'⟩ := bind_eq_ok_iff.mp hc'
  obtain ⟨-, -, hs⟩ := bind_eq_ok_iff.mp hs
  obtain ⟨-, -, ht⟩ := bind_eq_ok_iff.mp ht
  have hredacted : d.redacted = d'.redacted := (ConfigDraft.gather_goAlike h).of_ok hs ht
  exact (ConfigDraft.makes_of_check hd).redacted_eq (ConfigDraft.makes_of_check hd') hredacted

/-! ## Errors -/

namespace Rule

variable {o o' : Option String}

/-- The rule for secrets only sees how long one is. -/
theorem fault_secret_congr (h : o.map (·.toList.length) = o'.map (·.toList.length)) :
    fault (Rule.secret o) = fault (Rule.secret o') := by
  have hempty : ∀ s : String, s = "" ↔ s.toList.length = 0 := fun s => by
    rw [List.length_eq_zero_iff, String.toList_eq_nil_iff]
  cases o with
  | none =>
    obtain rfl := Option.map_eq_none_iff.mp h.symm
    rfl
  | some s =>
    obtain ⟨s', rfl, hlength⟩ := Option.map_eq_some_iff.mp h.symm
    simp only [Rule.secret, hempty, hlength]
    split_ifs <;> rfl

/-- The rule for passwords asks for their length and complexity alone. -/
theorem fault_password_congr (h : o.map (·.toList.length) = o'.map (·.toList.length))
    (hcomplex : o.map Password.isComplex = o'.map Password.isComplex) :
    fault (Rule.password o) = fault (Rule.password o') := by
  cases o with
  | none =>
    obtain rfl := Option.map_eq_none_iff.mp h.symm
    rfl
  | some s =>
    obtain ⟨s', rfl, hlength⟩ := Option.map_eq_some_iff.mp h.symm
    have hs' : Password.isComplex s' = Password.isComplex s := (Option.some.inj hcomplex).symm
    simp only [Rule.password, fault_map, Password.check, hlength, hs']

end Rule

/-- Two sources whose secrets are as long as each other, and whose passwords are as complex. -/
structure Source.MeasureAlike (s t : Source) : Prop where
  secret : ∀ a b, s.textOrNone "jwt_secret" = .ok (some a) →
    t.textOrNone "jwt_secret" = .ok (some b) → a.toList.length = b.toList.length
  password : ∀ a b, s.textOrNone "admin_password" = .ok (some a) →
    t.textOrNone "admin_password" = .ok (some b) →
      a.toList.length = b.toList.length ∧ Password.isComplex a = Password.isComplex b

/-- What is the same of the texts of two secrets is the same of the secrets. -/
theorem map_eq_of_redact {α : Type} {o o' : Option String} (f : String → α)
    (h : redact o = redact o') (hf : ∀ a b, o = some a → o' = some b → f a = f b) :
    o.map f = o'.map f := by
  cases o <;> cases o'
  · rfl
  · cases h
  · cases h
  · exact congrArg some (hf _ _ rfl rfl)

namespace ConfigDraft

variable {s t : Source} {d d' : ConfigDraft}

/-- Drafts that are alike but for secrets that measure the same are accepted or refused alike. -/
theorem fault_check_congr (hs : gather s = .ok d) (ht : gather t = .ok d')
    (hd : d.redacted = d'.redacted) (h : s.MeasureAlike t) :
    fault d.check = fault d'.check := by
  obtain ⟨happName, hserverIp, hport, hsecrets, hissuer, hminutes, huser, hpasswords, hemail, hid,
    hseconds, -, hformat, hfile⟩ := ConfigDraft.mk.inj hd
  have hgives := gives_of_gather hs
  have hgives' := gives_of_gather ht
  have hmeasure : ∀ a b, d.adminPassword = some a → d'.adminPassword = some b →
      a.toList.length = b.toList.length ∧ Password.isComplex a = Password.isComplex b :=
    fun a b ha hb => h.password a b (ha ▸ hgives.adminPassword) (hb ▸ hgives'.adminPassword)
  have hsecretFault : fault (Rule.secret d.secret) = fault (Rule.secret d'.secret) :=
    Rule.fault_secret_congr <| map_eq_of_redact _ hsecrets fun a b ha hb =>
      h.secret a b (ha ▸ hgives.secret) (hb ▸ hgives'.secret)
  have hpasswordFault : fault (Rule.password d.adminPassword) =
      fault (Rule.password d'.adminPassword) :=
    Rule.fault_password_congr
      (map_eq_of_redact _ hpasswords fun a b ha hb => (hmeasure a b ha hb).1)
      (map_eq_of_redact _ hpasswords fun a b ha hb => (hmeasure a b ha hb).2)
  -- The other rules judge settings that are equal.
  rw [fault_check, fault_check, faults, faults, hsecretFault, hpasswordFault, happName, hserverIp,
    hport, hissuer, hminutes, huser, hemail, hid, hseconds, hformat, hfile]

end ConfigDraft

namespace Source

variable {s t : Source}

theorem misfit?_of_textOrNone {key : String} {o : Option String}
    (hkey : fieldTypes.lookup key = some .textOrNone) (h : s.textOrNone key = .ok o) :
    s.misfit? key = none := by
  have hread : s.read key = .ok () := by
    rw [read, hkey]
    simp only [h]
    rfl
  rw [misfit?, hread]
  split_ifs <;> rfl

theorem GiveAlike.misfit?_eq {key : String} (h : s.GiveAlike t key)
    (hkey : fieldTypes.lookup key = some .textOrNone) : s.misfit? key = t.misfit? key := by
  rcases h with h | ⟨a, b, ha, hb⟩
  · exact misfit?_congr h
  · rw [misfit?_of_textOrNone hkey ha, misfit?_of_textOrNone hkey hb]

namespace AreAlike

/-- Sources that are alike have the same settings of wrong types. -/
theorem misfit?_eq (h : s.AreAlike t) (key : String) : s.misfit? key = t.misfit? key := by
  by_cases hsecret : key = "jwt_secret"
  · rw [hsecret]
    exact h.secret.misfit?_eq (by decide)
  by_cases hpassword : key = "admin_password"
  · rw [hpassword]
    exact h.password.misfit?_eq (by decide)
  · exact misfit?_congr (h.others key hsecret hpassword)

/-- If no setting is of a wrong type, the errors that remain are the same. -/
theorem fault_gather_check (h : s.AreAlike t) (hmeasure : s.MeasureAlike t) :
    fault (ConfigDraft.gather s >>= ConfigDraft.check) =
      fault (ConfigDraft.gather t >>= ConfigDraft.check) := by
  rcases ConfigDraft.gather_goAlike h with ⟨e, hs, ht⟩ | ⟨d, d', hs, ht, hd⟩
  · rw [hs, ht]
  · have hok (f : ConfigDraft → Except ConfigError ServiceSettings) (d : ConfigDraft) :
        Except.ok d >>= f = f d := rfl
    rw [hs, ht, hok, hok]
    exact ConfigDraft.fault_check_congr hs ht hd hmeasure

/-- In whatever order their settings come, the errors that there may be are the same. -/
theorem mayFail_iff (h : s.AreAlike t) (hmeasure : s.MeasureAlike t) (hs : s.IsTable)
    (ht : t.IsTable) (e : ConfigError) : s.MayFail e ↔ t.MayFail e := by
  simp only [Source.mayFail_iff hs, Source.mayFail_iff ht, h.misfit?_eq,
    h.fault_gather_check hmeasure]

/-- Whether there is an error hangs on no order. -/
theorem fault_eq_none_iff (h : s.AreAlike t) (hmeasure : s.MeasureAlike t) :
    fault s.service = none ↔ fault t.service = none := by
  simp only [fault_service, Option.or_eq_none_iff, findSome?_misfit?_eq_none_iff, h.misfit?_eq,
    h.fault_gather_check hmeasure]

end AreAlike

/-- A source with one setting of a wrong type, or none. -/
def HasOneMisfit (s : Source) : Prop :=
  ∀ key key', (s.misfit? key).isSome = true → (s.misfit? key').isSome = true → key = key'

/-- Where no two settings are of wrong types all keys that are read fail by one error. -/
theorem HasOneMisfit.findSome?_eq (hone : s.HasOneMisfit) (h : s.AreAlike t) :
    (s.map Prod.fst).findSome? s.misfit? = (t.map Prod.fst).findSome? t.misfit? := by
  cases hfirst : (s.map Prod.fst).findSome? s.misfit? with
  | none =>
    rw [findSome?_misfit?_eq_none_iff] at hfirst
    refine (findSome?_misfit?_eq_none_iff.mpr fun key => ?_).symm
    rw [← h.misfit?_eq, hfirst]
  | some e =>
    obtain ⟨key, -, hkey⟩ := List.exists_of_findSome?_eq_some hfirst
    cases hfirst' : (t.map Prod.fst).findSome? t.misfit? with
    | none =>
      rw [findSome?_misfit?_eq_none_iff] at hfirst'
      rw [h.misfit?_eq, hfirst'] at hkey
      cases hkey
    | some e' =>
      obtain ⟨key', -, hkey'⟩ := List.exists_of_findSome?_eq_some hfirst'
      rw [← h.misfit?_eq] at hkey'
      obtain rfl := hone key key' (Option.isSome_of_eq_some hkey) (Option.isSome_of_eq_some hkey')
      rw [← hkey, hkey']

/-- In one order, and where at most one setting is of a wrong type, two sources report the same
error. -/
theorem AreAlike.error_eq {e e' : ConfigError} (h : s.AreAlike t) (hmeasure : s.MeasureAlike t)
    (horder : s.map Prod.fst = t.map Prod.fst ∨ s.HasOneMisfit) (he : s.service = .error e)
    (he' : t.service = .error e') : e = e' := by
  have hfirst : (s.map Prod.fst).findSome? s.misfit? = (t.map Prod.fst).findSome? t.misfit? := by
    rcases horder with horder | hone
    · rw [horder, funext h.misfit?_eq]
    · exact hone.findSome?_eq h
  have hfault : fault s.service = fault t.service := by
    rw [fault_service, fault_service, hfirst, h.fault_gather_check hmeasure]
  rw [he, he'] at hfault
  exact Option.some.inj hfault

end Source

end Gatehouse
