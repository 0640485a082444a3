import Gatehouse.Proofs.Bytes.Utf8
import Gatehouse.Proofs.Config.Environment
import Gatehouse.Proofs.Config.Rules
import Gatehouse.Proofs.Number.Numeral

/-!
# The signing secret of an environment

The secret is not the value of its variable, but the text that the setting of the variable is read
back as (`Setting.rewritten`). The two differ only if the value is a numeral
(`Setting.rewritten_of_not_isNumeral`) : a whole number of 64 bits comes back as its digits
(`Setting.rewritten_of_int64?`), any other number as the digits of a double. So numerals that are
written differently can make the same secret, and what has to be long enough is the text that is
read back.
-/

namespace Gatehouse

namespace Setting

variable {v : String}

/-- The text that the setting of a value is read back as. -/
def rewritten (v : String) : String :=
  (guess v).text?.getD v

/-- What a guess is for : a truth value, a whole number, a double, or the text itself. -/
theorem guess_cases (v : String) :
    (∃ b, guess v = .bool b) ∨ (∃ n, Notation.int64? v.toList = some n ∧ guess v = .int n) ∨
      (∃ x, Notation.read? v.toList = some x ∧ guess v = .float x) ∨ guess v = .text v := by
  simp only [guess]
  split_ifs
  · exact Or.inl ⟨true, rfl⟩
  · exact Or.inl ⟨false, rfl⟩
  · split
    next n hn => exact Or.inr (Or.inl ⟨n, hn, rfl⟩)
    · split
      next x hx => exact Or.inr (Or.inr (Or.inl ⟨x, hx, rfl⟩))
      · exact Or.inr (Or.inr (Or.inr rfl))

theorem rewritten_of_guess {x : Setting} {t : String} (h : guess v = x) (ht : x.text? = some t) :
    rewritten v = t := by
  rw [rewritten, h, ht, Option.getD_some]

/-- Of what is no numeral only short words are not kept. -/
theorem rewritten_of_not_isNumeral (h : ¬Notation.IsNumeral v.toList)
    (hlong : 5 < (rewritten v).toList.length) : rewritten v = v := by
  rcases guess_cases v with ⟨b, hguess⟩ | ⟨n, hn, -⟩ | ⟨x, hx, hguess⟩ | hguess
  · rw [rewritten_of_guess hguess rfl] at hlong
    cases b
    · exact absurd hlong (by decide)
    · exact absurd hlong (by decide)
  · obtain ⟨hint, -⟩ := Option.filter_eq_some_iff.mp hn
    exact absurd (Notation.isNumeral_of_int? hint) h
  · rw [rewritten_of_guess hguess rfl] at hlong
    rcases Notation.isNumeral_of_read? hx with hnumeral | rfl | ⟨negative, rfl⟩
    · exact absurd hnumeral h
    · exact absurd hlong (by decide)
    · cases negative
      · exact absurd hlong (by decide)
      · exact absurd hlong (by decide)
  · exact rewritten_of_guess hguess rfl

/-- A whole number of 64 bits is read back as its digits. -/
theorem rewritten_of_int64? {n : Int} (h : Notation.int64? v.toList = some n) :
    rewritten v = toString n := by
  obtain ⟨hint, -⟩ := Option.filter_eq_some_iff.mp h
  have hlower := Notation.isNumeral_lower (Notation.isNumeral_of_int? hint)
  have htrue : Notation.lower v.toList ≠ "true".toList := fun heq =>
    absurd (hlower 't' (heq ▸ by decide)) (by decide)
  have hfalse : Notation.lower v.toList ≠ "false".toList := fun heq =>
    absurd (hlower 'f' (heq ▸ by decide)) (by decide)
  have hguess : guess v = .int n := by
    simp only [guess, if_neg htrue, if_neg hfalse, h]
  exact rewritten_of_guess hguess rfl

end Setting

namespace Source

variable {s : Source} {key t : String}

theorem text_eq_ok_iff :
    s.text key = .ok t ↔ ∃ e, s.get? key = some e ∧ e.setting.text? = some t := by
  rw [text]
  cases s.get? key with
  | none => simp
  | some e => cases htext : e.setting.text? <;> simp [htext]

theorem text_of_textOrNone (h : s.textOrNone key = .ok (some t)) : s.text key = .ok t := by
  rw [textOrNone] at h
  split at h
  · cases h
  · split_ifs at h
    · cases h
    · obtain ⟨t', ht', heq⟩ := map_eq_ok_iff.mp h
      rwa [Option.some.inj heq] at ht'

end Source

/-- A text that is given behind variables is what the value of its variable is read back as, or it
was given before. -/
theorem Variables.text_laidOver {vs : Variables} {s : Source} {k t : String}
    (hk : Path.ofString k = .name k) (h : (vs.laidOver s).text k = .ok t) :
    match vs.valueOf? k with
    | some v => t = Setting.rewritten v
    | none => s.text k = .ok t := by
  obtain ⟨e, he, ht⟩ := Source.text_eq_ok_iff.mp h
  have hvalue := get?_laidOver hk (Option.ne_none_iff_exists'.mpr ⟨_, ht⟩) he
  cases hv : vs.valueOf? k with
  | some v =>
    rw [hv] at hvalue
    exact (Setting.rewritten_of_guess hvalue.symm ht).symm
  | none =>
    rw [hv] at hvalue
    exact Source.text_eq_ok_iff.mpr ⟨e, hvalue, ht⟩

/-- A text that is not given by default is given by a variable. -/
theorem Variables.exists_of_textOrNone {vs : Variables} {s : Source} {k t : String}
    (hk : Path.ofString k = .name k) (hs : s.get? k = none)
    (h : (vs.laidOver s).textOrNone k = .ok (some t)) :
    ∃ v, vs.valueOf? k = some v ∧ t = Setting.rewritten v := by
  have htext := text_laidOver hk (Source.text_of_textOrNone h)
  cases hv : vs.valueOf? k with
  | some v =>
    rw [hv] at htext
    exact ⟨v, rfl, htext⟩
  | none =>
    rw [hv] at htext
    obtain ⟨e, he, -⟩ := Source.text_eq_ok_iff.mp htext
    cases hs.symm.trans he

namespace ServiceSettings

variable {environment : Variables} {file : String} {c : ServiceSettings}

/-- The secret is what the value of its variable is read back as. -/
theorem secret_of_ofVariables (h : ofVariables environment file = .ok c) :
    ∃ v, (DotEnv.load environment file).valueOf? "jwt_secret" = some v ∧
      c.token.secret = Setting.rewritten v := by
  obtain ⟨d, hd, hc⟩ := bind_eq_ok_iff.mp h
  have hsecret := (ConfigDraft.gives_of_ofSource hd).secret
  rw [(ConfigDraft.makes_of_check hc).secret] at hsecret
  exact Variables.exists_of_textOrNone (by decide) (by decide) hsecret

/-- The key has sixteen characters or more, as it is read back. -/
theorem length_secret_of_ofVariables (h : ofVariables environment file = .ok c) :
    16 ≤ c.token.secret.toList.length := by
  obtain ⟨d, hd, hc⟩ := bind_eq_ok_iff.mp h
  obtain ⟨s, hs, hlong⟩ : Demand.secret.IsMet d :=
    ConfigDraft.isMet_of_check hc (by simp [Demand.all])
  rw [(ConfigDraft.makes_of_check hc).secret] at hs
  rw [Option.some.inj hs]
  exact hlong

/-- Whatever the environment and its file are, the secret is what the value of its variable is read
back as, and that is long enough. It is the value itself if this is no numeral, and of the numerals
of a whole number of 64 bits, only the one that its digits make is kept. Two environments have the
same secret exactly if their values are read back as the same text. -/
theorem secretBytes_of_ofVariables (h : ofVariables environment file = .ok c) :
    ∃ v, (DotEnv.load environment file).valueOf? "jwt_secret" = some v ∧
      c.token.secretBytes = Utf8.ofString (Setting.rewritten v) ∧
      16 ≤ (Setting.rewritten v).toList.length ∧
      (¬Notation.IsNumeral v.toList → c.token.secretBytes = Utf8.ofString v) ∧
      (∀ n, Notation.int64? v.toList = some n →
        (c.token.secretBytes = Utf8.ofString v ↔ v = toString n)) ∧
      (∀ name w, (DotEnv.load environment file).AreDistinct →
        (name, w) ∈ DotEnv.load environment file → Variables.key name = "jwt_secret" → w = v) ∧
      ∀ environment' file' c' v', ofVariables environment' file' = .ok c' →
        (DotEnv.load environment' file').valueOf? "jwt_secret" = some v' →
        (c'.token.secretBytes = c.token.secretBytes ↔
          Setting.rewritten v' = Setting.rewritten v) := by
  obtain ⟨v, hv, hsecret⟩ := secret_of_ofVariables h
  have hbytes : c.token.secretBytes = Utf8.ofString (Setting.rewritten v) := by
    rw [TokenSettings.secretBytes, hsecret]
  have hlong := length_secret_of_ofVariables h
  rw [hsecret] at hlong
  refine ⟨v, hv, hbytes, hlong, fun hnumeral => ?_, fun n hn => ?_,
    fun name w hdistinct hmem hname => ?_, fun environment' file' c' v' h' hv' => ?_⟩
  · rw [hbytes, Setting.rewritten_of_not_isNumeral hnumeral (by omega)]
  · rw [hbytes, Utf8.ofString_inj, Setting.rewritten_of_int64? hn, eq_comm]
  · have hw := Variables.valueOf?_of_mem hdistinct hmem
    rw [hname, hv] at hw
    exact (Option.some.inj hw).symm
  · obtain ⟨w, hw, hsecret'⟩ := secret_of_ofVariables h'
    obtain rfl := Option.some.inj (hv'.symm.trans hw)
    rw [hbytes, TokenSettings.secretBytes, hsecret', Utf8.ofString_inj]

/-- The other variables that an environment has to have. -/
def unsigned : Variables :=
  [("JWT_ISSUER_ID", "gatehouse"), ("ADMIN_PASSWORD", "ValidP@ssw0rd")]

/-- An environment with a secret. -/
def signed (secret : String) : Variables :=
  ("JWT_SECRET", secret) :: unsigned

theorem exists_of_toOption {secret : String}
    (h : (ofVariables environment file).toOption.map (fun c => c.token.secret) = some secret) :
    ∃ c, ofVariables environment file = .ok c ∧ c.token.secretBytes = Utf8.ofString secret := by
  obtain ⟨c, hc, hsecret⟩ := map_toOption_eq_some_iff.mp h
  exact ⟨c, hc, congrArg Utf8.ofString hsecret⟩

/-- A secret in quotes, which the file alone has, is the key without its quotes. -/
theorem secretBytes_of_ofVariables_file :
    ∃ c, ofVariables unsigned "export JWT_SECRET='0123456789abcdef'\n" = .ok c ∧
      c.token.secretBytes = Utf8.ofString "0123456789abcdef" := by
  obtain ⟨c, hc, -⟩ : ∃ c, ofVariables unsigned "export JWT_SECRET='0123456789abcdef'\n" = .ok c ∧
      c.token.secretBytes = Utf8.ofString "0123456789abcdef" :=
    exists_of_toOption (by decide +kernel)
  refine ⟨c, hc, ?_⟩
  obtain ⟨v, hv, -, -, hkept, -⟩ := secretBytes_of_ofVariables hc
  have hvalue : (DotEnv.load unsigned "export JWT_SECRET='0123456789abcdef'\n").valueOf?
      "jwt_secret" = some "0123456789abcdef" := by
    decide +kernel
  obtain rfl := Option.some.inj (hvalue.symm.trans hv)
  exact hkept fun hnumeral => absurd (hnumeral 'a' (by decide)) (by decide)

/-- A secret of thirty digits is rounded, and the plus sign in front of another one is lost. -/
theorem secretBytes_of_ofVariables_rounded :
    (signed "123456789012345678901234567890").AreDistinct ∧
      (∃ c, ofVariables (signed "123456789012345678901234567890") "" = .ok c ∧
        c.token.secretBytes = Utf8.ofString "123456789012345680000000000000" ∧
        c.token.secretBytes ≠ Utf8.ofString "123456789012345678901234567890") ∧
      ∃ c c', ofVariables (signed "1234567890123456") "" = .ok c ∧
        ofVariables (signed "+1234567890123456") "" = .ok c' ∧
        c.token.secretBytes = c'.token.secretBytes := by
  obtain ⟨c, hc, hbytes⟩ : ∃ c, ofVariables (signed "123456789012345678901234567890") "" = .ok c ∧
      c.token.secretBytes = Utf8.ofString "123456789012345680000000000000" :=
    exists_of_toOption (by decide +kernel)
  obtain ⟨c₁, hc₁, hbytes₁⟩ : ∃ c, ofVariables (signed "1234567890123456") "" = .ok c ∧
      c.token.secretBytes = Utf8.ofString "1234567890123456" :=
    exists_of_toOption (by decide +kernel)
  obtain ⟨c₂, hc₂, hbytes₂⟩ : ∃ c, ofVariables (signed "+1234567890123456") "" = .ok c ∧
      c.token.secretBytes = Utf8.ofString "1234567890123456" :=
    exists_of_toOption (by decide +kernel)
  refine ⟨by decide, ⟨c, hc, hbytes, ?_⟩, c₁, c₂, hc₁, hc₂, hbytes₁.trans hbytes₂.symm⟩
  rw [hbytes, Ne, Utf8.ofString_inj]
  decide

end ServiceSettings

end Gatehouse
