import Gatehouse.Proofs.Token.Signed
import Gatehouse.Token.Codec

/-!
# The life of a token

A token that is issued at an instant says the same at every instant of its life : who it was
issued to and when, to the second (`Token.answer`). Its life is closed at both ends. It begins with
the second of its issue, whatever fraction of it had passed and even if it was a leap second, and
ends with the second that lies the given number of minutes later; before and after, the token is
expired (`Token.verify_issue`).

A codec issues and verifies so at what clocks read. What a manual clock reads is always in range
(`ManualClock.inRange_now`); of the system's clock it has to be assumed.
-/

namespace Gatehouse

namespace Token

/-! ## Issuing -/

/-- The claims that a token issued in a second says. -/
def issuedClaims (user : User) (issuer : String) (minutes : Int) (second : Int)
    (tokenId : String) : Claims where
  tokenId := tokenId
  issuer := issuer
  issuedAt := ⟨second, 0⟩
  notBefore := some ⟨second, 0⟩
  expiresAt := ⟨second + 60 * minutes, 0⟩
  user := user

/-- What a token issued in a second for a number of minutes says at an instant. -/
def answer (user : User) (issuer : String) (minutes : Int) (second : Int) (tokenId : String)
    (t : Instant) : Except TokenError Claims :=
  if second ≤ t.seconds ∧ t.seconds ≤ second + 60 * minutes then
    .ok (issuedClaims user issuer minutes second tokenId)
  else .error .expired

variable {user : User} {issuer : String} {minutes : Int} {now : Instant} {tokenId : String}

/-- The end of a life lies at the start of a second, also when it begins in a leap second. -/
theorem addSeconds?_truncate (n : Int) :
    now.truncate.addSeconds? n =
      if Instant.inRange (now.seconds + n) then some ⟨now.seconds + n, 0⟩ else none := by
  have hnanos : (if now.truncate.nanos < Span.perSecond then now.truncate.nanos
      else now.truncate.nanos - Span.perSecond) = 0 := by
    simp only [Instant.truncate]
    split_ifs <;> omega
  simp only [Instant.addSeconds?, hnanos]
  rfl

/-- A life ends exactly if it is a minute or more, and its end is in range. -/
theorem expiry_eq_ok_iff {t : Instant} :
    expiry now.truncate minutes = .ok t ↔
      1 ≤ minutes ∧ Instant.inRange (now.seconds + 60 * minutes) = true ∧
        t = ⟨now.seconds + 60 * minutes, 0⟩ := by
  rw [expiry, addSeconds?_truncate]
  by_cases hminutes : minutes < 1
  · rw [if_pos hminutes]
    constructor
    · rintro ⟨⟩
    · rintro ⟨h, -⟩
      omega
  · rw [if_neg hminutes]
    by_cases hrange : Instant.inRange (now.seconds + 60 * minutes) = true
    · simp only [hrange, if_true, Except.ok.injEq, true_and, eq_comm]
      exact ⟨fun h => ⟨by omega, h⟩, And.right⟩
    · simp [hrange]

/-- Claims are made for a life of at least a minute that ends in range. Their instants are whole
seconds but for a leap second, which stays one. -/
theorem claims_eq_ok_iff {c : Claims} :
    claims user issuer minutes now tokenId = .ok c ↔
      1 ≤ minutes ∧ Instant.inRange (now.seconds + 60 * minutes) = true ∧
        c = { issuedClaims user issuer minutes now.seconds tokenId with
              issuedAt := now.truncate
              notBefore := some now.truncate } := by
  rw [claims, bind_eq_ok_iff]
  constructor
  · rintro ⟨t, ht, hc⟩
    obtain ⟨hminutes, hrange, rfl⟩ := expiry_eq_ok_iff.mp ht
    exact ⟨hminutes, hrange, (Except.ok.inj hc).symm⟩
  · rintro ⟨hminutes, hrange, rfl⟩
    exact ⟨_, expiry_eq_ok_iff.mpr ⟨hminutes, hrange, rfl⟩, rfl⟩

/-- A token is issued exactly if there is a secret and there are claims. -/
theorem issue_eq_ok_iff {secret : Bytes} {token : List Char} :
    issue user issuer minutes secret now tokenId = .ok token ↔ secret ≠ [] ∧
      ∃ c, claims user issuer minutes now tokenId = .ok c ∧ sign c secret = token := by
  rw [issue]
  cases secret with
  | nil => simp
  | cons b secret => simp [map_eq_ok_iff]

/-! ## Verifying -/

/-- The token of claims that were made says what is expected of it, at every instant. -/
theorem verify_claims (hid : Width.fitsSigned user.id = true)
    (hnow : Instant.inRange now.seconds = true) {c : Claims}
    (hc : claims user issuer minutes now tokenId = .ok c) (secret : Bytes) (t : Instant) :
    verify (sign c secret) secret t = answer user issuer minutes now.seconds tokenId t := by
  obtain ⟨-, hrange, rfl⟩ := claims_eq_ok_iff.mp hc
  rw [verify_sign, answer]
  · have hfloor : now.truncate.floor = ⟨now.seconds, 0⟩ := rfl
    have hcontains : ∀ (a b : Int), (Validity.contains ⟨some a, b⟩ t = true) ↔
        a ≤ t.seconds ∧ t.seconds ≤ b := fun a b => by
      rw [Validity.contains, Bool.and_eq_true, decide_eq_true_eq, decide_eq_true_eq]
    simp only [Claims.validity, Claims.floor, Option.map_some, hcontains]
    rfl
  · refine ⟨hid, hnow, ?_, hrange⟩
    rintro t' ht'
    obtain rfl := Option.some.inj ht'
    exact hnow

end Token

/-! ## By a clock -/

theorem ManualClock.inRange_now (c : ManualClock) : Instant.inRange c.now.seconds = true := by
  rw [now, Instant.ofSeconds?]
  split_ifs with h
  · exact h
  · decide

/-- Every clock reads a time in range, if the system does. -/
theorem Clock.inRange_now (clock : Clock) {systemNow : Instant}
    (h : Instant.inRange systemNow.seconds = true) :
    Instant.inRange (clock.now systemNow).seconds = true := by
  cases clock with
  | system => exact h
  | manual c => exact c.inRange_now

/-- Whenever a token is issued, verifying it undoes the issue, over all of time. The same holds of
two codecs with one secret, at what their clocks read when one issues and the other verifies. -/
theorem Token.verify_issue {user : User} (hid : Width.fitsSigned user.id = true)
    (tokenId : String) :
    (∀ (issuer : String) (minutes : Int) (secret : Bytes) (now : Instant) (token : List Char),
      Instant.inRange now.seconds = true →
        issue user issuer minutes secret now tokenId = .ok token →
          ∀ t, verify token secret t = answer user issuer minutes now.seconds tokenId t) ∧
    ∀ (codec reader : TokenCodec) (systemNow : Instant) (token : List Char),
      Instant.inRange systemNow.seconds = true → reader.secret = codec.secret →
        codec.issue user systemNow tokenId = .ok token →
          ∀ later, reader.verify token later =
            answer user codec.issuer codec.minutes (codec.clock.now systemNow).seconds tokenId
              (reader.clock.now later) := by
  constructor
  · intro issuer minutes secret now token hnow h t
    obtain ⟨-, c, hc, rfl⟩ := issue_eq_ok_iff.mp h
    exact verify_claims hid hnow hc secret t
  · intro codec reader systemNow token hnow hsecret h later
    obtain ⟨c, hc, rfl⟩ := map_eq_ok_iff.mp h
    rw [TokenCodec.verify, TokenCodec.sign, hsecret]
    exact verify_claims hid (codec.clock.inRange_now hnow) hc codec.secret _

/-- A token issued in the middle of a leap second, and one issued and verified by manual clocks. -/
theorem Token.verify_issue_leapSecond :
    (∃ token, issue visit.user "gatehouse" 1 [7] ⟨1483228799, 1500000000⟩ "visit-2" = .ok token ∧
      verify token [7] ⟨1483228859, 999999999⟩ =
        .ok (issuedClaims visit.user "gatehouse" 1 1483228799 "visit-2") ∧
      verify token [7] ⟨1483228860, 0⟩ = .error .expired) ∧
    ∃ token, TokenCodec.issue ⟨[7], "gatehouse", 1, .manual ⟨0⟩⟩ visit.user ⟨5, 0⟩ "visit-2" =
        .ok token ∧
      TokenCodec.verify ⟨[7], "gatehouse", 1, .manual ⟨60⟩⟩ token ⟨5, 0⟩ =
        .ok (issuedClaims visit.user "gatehouse" 1 0 "visit-2") := by
  have hid : Width.fitsSigned visit.user.id = true := by decide
  have h := Token.verify_issue hid "visit-2"
  constructor
  · obtain ⟨c, hc⟩ : ∃ c, claims visit.user "gatehouse" 1 ⟨1483228799, 1500000000⟩ "visit-2" =
        .ok c := ⟨_, claims_eq_ok_iff.mpr ⟨by decide, by decide, rfl⟩⟩
    have htoken := issue_eq_ok_iff.mpr ⟨List.cons_ne_nil 7 [], c, hc, rfl⟩
    have hverify := h.1 "gatehouse" 1 [7] _ _ (by decide) htoken
    exact ⟨_, htoken, hverify _, hverify _⟩
  · obtain ⟨c, hc⟩ : ∃ c, claims visit.user "gatehouse" 1 (Clock.now (.manual ⟨0⟩) ⟨5, 0⟩)
        "visit-2" = .ok c := ⟨_, claims_eq_ok_iff.mpr ⟨by decide, by decide, rfl⟩⟩
    have htoken : TokenCodec.issue ⟨[7], "gatehouse", 1, .manual ⟨0⟩⟩ visit.user ⟨5, 0⟩
        "visit-2" = .ok (sign c [7]) := map_eq_ok_iff.mpr ⟨c, hc, rfl⟩
    have hverify := h.2 ⟨[7], "gatehouse", 1, .manual ⟨0⟩⟩ ⟨[7], "gatehouse", 1, .manual ⟨60⟩⟩
      ⟨5, 0⟩ (sign c [7]) (by decide) rfl htoken ⟨5, 0⟩
    refine ⟨_, htoken, hverify.trans ?_⟩
    rw [answer, if_pos (by decide)]
    rfl

end Gatehouse
