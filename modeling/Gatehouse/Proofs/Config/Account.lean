import Gatehouse.Auth.Administrator
import Gatehouse.Proofs.Config.Password
import Gatehouse.Proofs.Config.Secret

/-!
# The account of an environment

Values of variables are read back as other texts where they are taken for truth values or numbers
(`Setting.rewritten`). But what such a guess is read back as is a word or consists of figures
(`Setting.rewritten_cases`), so it is neither a strong password nor an address with an at sign. The
rules for these let nothing through that has been changed (`Setting.rewritten_of_isComplex`,
`Setting.rewritten_of_at`), and the account of an environment has the password and the address that
stand there (`ServiceSettings.account_of_ofVariables`).
-/

namespace Gatehouse

/-! ## Texts that are read back -/

namespace Setting

variable {v : String}

/-- What is read back without figures. -/
def words : List String :=
  ["true", "false"] ++ Notation.words

/-- A value is read back as it is, as one of a few words, or in the characters of numbers. -/
theorem rewritten_cases (v : String) :
    rewritten v = v ∨ rewritten v ∈ words ∨ ∀ c ∈ (rewritten v).toList, c ∈ Notation.figures := by
  rcases guess_cases v with ⟨b, hguess⟩ | ⟨n, -, hguess⟩ | ⟨x, -, hguess⟩ | hguess
  · rw [rewritten_of_guess hguess rfl]
    cases b
    · exact Or.inr (Or.inl (by decide))
    · exact Or.inr (Or.inl (by decide))
  · rw [rewritten_of_guess hguess rfl, Notation.toList_toString]
    exact Or.inr (Or.inr fun c => Notation.mem_int)
  · rw [rewritten_of_guess hguess rfl]
    exact Or.inr ((Notation.mem_plain x).imp_left (List.mem_append_right _))
  · exact Or.inl (rewritten_of_guess hguess rfl)

/-- A text with an at sign has not been changed. -/
theorem rewritten_of_at (h : '@' ∈ (rewritten v).toList) : rewritten v = v := by
  rcases rewritten_cases v with hkept | hword | hfigures
  · exact hkept
  · have hwords : ∀ w ∈ words, '@' ∉ w.toList := by decide
    exact absurd h (hwords _ hword)
  · exact absurd (hfigures _ h) (by decide)

/-- Neither has one that keeps the rule for passwords : no word has a number, and no figure is a
letter. -/
theorem rewritten_of_isComplex (h : Password.isComplex (rewritten v) = true) : rewritten v = v := by
  rcases rewritten_cases v with hkept | hword | hfigures
  · exact hkept
  · have hwords : ∀ w ∈ words, Password.isComplex w = false := by decide +kernel
    rw [hwords _ hword] at h
    cases h
  · obtain ⟨c, hc, hcapital⟩ := (Password.isComplex_iff.mp h).upper
    have hnone : Notation.figures.all (fun c => !Password.isCapital c) = true := by decide +kernel
    have hc' := List.all_eq_true.mp hnone c (hfigures c hc)
    rw [hcapital] at hc'
    cases hc'

end Setting

/-! ## The account -/

namespace ServiceSettings

variable {environment : Variables} {file : String} {c : ServiceSettings}

/-- The rules let no password through that has been read as anything but itself. -/
theorem password_of_ofVariables (h : ofVariables environment file = .ok c) :
    (DotEnv.load environment file).valueOf? "admin_password" = some c.admin.password := by
  obtain ⟨d, hd, hc⟩ := bind_eq_ok_iff.mp h
  have hmakes := ConfigDraft.makes_of_check hc
  obtain ⟨s, hs, -, hcomplex⟩ : Demand.adminPassword.IsMet d :=
    ConfigDraft.isMet_of_check hc (by simp [Demand.all])
  obtain rfl := Option.some.inj (hmakes.password.symm.trans hs)
  have hgiven := (ConfigDraft.gives_of_ofSource hd).adminPassword
  rw [hmakes.password] at hgiven
  obtain ⟨v, hv, hpassword⟩ := Variables.exists_of_textOrNone (by decide) (by decide) hgiven
  rw [hpassword] at hcomplex ⊢
  rw [hv, Setting.rewritten_of_isComplex hcomplex]

/-- The rules let no address through that has been read as anything but itself. -/
theorem email_of_ofVariables (h : ofVariables environment file = .ok c) :
    c.admin.email = ((DotEnv.load environment file).valueOf? "admin_email").getD
      "goadmin@yourdomain.org" := by
  obtain ⟨d, hd, hc⟩ := bind_eq_ok_iff.mp h
  have hat : '@' ∈ d.adminEmail.toList :=
    ConfigDraft.isMet_of_check (q := .adminEmail) hc (by simp [Demand.all])
  have hgiven := (ConfigDraft.gives_of_ofSource hd).adminEmail
  rw [← (ConfigDraft.makes_of_check hc).email] at hat hgiven
  have htext := Variables.text_laidOver (by decide) hgiven
  cases hv : (DotEnv.load environment file).valueOf? "admin_email" with
  | some v =>
    simp only [hv] at htext
    rw [htext] at hat ⊢
    exact Setting.rewritten_of_at hat
  | none =>
    simp only [hv] at htext
    have hdefault : Source.defaults.text "admin_email" = .ok "goadmin@yourdomain.org" := by decide
    exact Except.ok.inj (htext.symm.trans hdefault)

/-- Whatever the environment and its file are, the password of the account is what the last variable
of its name says, upper and lower case being the same, character for character, and so is the
address if there is such a variable. Where names are distinct this is the only one. So whoever sends
the digest of what stands there is accepted. -/
theorem account_of_ofVariables (h : ofVariables environment file = .ok c) :
    (DotEnv.load environment file).valueOf? "admin_password" = some c.admin.password ∧
    (∀ v, (DotEnv.load environment file).valueOf? "admin_email" = some v → c.admin.email = v) ∧
    ((DotEnv.load environment file).AreDistinct → ∀ name v,
      (name, v) ∈ DotEnv.load environment file →
        (Variables.key name = "admin_password" → c.admin.password = v) ∧
        (Variables.key name = "admin_email" → c.admin.email = v)) ∧
    ∀ v, (DotEnv.load environment file).valueOf? "admin_password" = some v →
      (Administrator.ofSettings c.admin).accepts c.admin.login (Password.digest v) = true := by
  have hpassword := password_of_ofVariables h
  have hemail := email_of_ofVariables h
  refine ⟨hpassword, fun v hv => ?_,
    fun hdistinct name v hmem => ⟨fun hname => ?_, fun hname => ?_⟩, fun v hv => ?_⟩
  · rw [hemail, hv, Option.getD_some]
  · have hv := Variables.valueOf?_of_mem hdistinct hmem
    rw [hname, hpassword] at hv
    exact Option.some.inj hv
  · have hv := Variables.valueOf?_of_mem hdistinct hmem
    rw [hname] at hv
    rw [hemail, hv, Option.getD_some]
  · obtain rfl := Option.some.inj (hpassword.symm.trans hv)
    simp [Administrator.accepts, Administrator.ofSettings, Administrator.new]

/-- An environment that lacks an account. -/
def accountless : Variables :=
  [("JWT_SECRET", "sixteen or more characters"), ("JWT_ISSUER_ID", "gatehouse")]

/-- A file with an account. -/
def accountFile : String :=
  "ADMIN_PASSWORD='ValidP@ssw0rd'\nADMIN_EMAIL=root@example.org\n"

theorem account_of_ofVariables_file :
    ∃ c, ofVariables accountless accountFile = .ok c ∧ c.admin.password = "ValidP@ssw0rd" ∧
      c.admin.email = "root@example.org" ∧
      (Administrator.ofSettings c.admin).accepts "goadmin" (Password.digest "ValidP@ssw0rd") =
        true := by
  obtain ⟨c, hc, hlogin⟩ : ∃ c, ofVariables accountless accountFile = .ok c ∧
      c.admin.login = "goadmin" := map_toOption_eq_some_iff.mp (by decide +kernel)
  obtain ⟨hpassword, hemail, -, haccepts⟩ := account_of_ofVariables hc
  have hvalue : (DotEnv.load accountless accountFile).valueOf? "admin_password" =
      some "ValidP@ssw0rd" := by decide +kernel
  refine ⟨c, hc, Option.some.inj (hpassword.symm.trans hvalue), hemail _ (by decide +kernel), ?_⟩
  rw [← hlogin]
  exact haccepts _ hvalue

/-- An environment with a password that a file can take the place of, by a name in lower case. -/
def shadowed : Variables :=
  ("ADMIN_PASSWORD", "ValidP@ssw0rd") :: accountless

/-- For the file that name is another one, so its value does not give way to that of the
environment, and for the settings it is the same. -/
theorem account_of_ofVariables_shadowed :
    shadowed.AreDistinct ∧
      (DotEnv.load shadowed "admin_password=Other-P@ssw0rd1\n").lookup "ADMIN_PASSWORD" =
        some "ValidP@ssw0rd" ∧
      ∃ c, ofVariables shadowed "admin_password=Other-P@ssw0rd1\n" = .ok c ∧
        c.admin.password ≠ "ValidP@ssw0rd" := by
  obtain ⟨c, hc, hpassword⟩ : ∃ c, ofVariables shadowed "admin_password=Other-P@ssw0rd1\n" = .ok c ∧
      c.admin.password = "Other-P@ssw0rd1" := map_toOption_eq_some_iff.mp (by decide +kernel)
  refine ⟨by decide, by decide +kernel, c, hc, ?_⟩
  rw [hpassword]
  decide

end ServiceSettings

end Gatehouse
