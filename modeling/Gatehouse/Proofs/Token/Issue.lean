import Gatehouse.Proofs.Number.Word
import Gatehouse.Proofs.Token.Lifetime

/-!
# The arithmetic of lives

A token is issued exactly if its life lasts a minute at least and ends in range, both counted
without bounds. Its payload then gives the second of the issue twice and the last second of the life
once; otherwise issuing fails as such (`Token.IssuesExactly`). What a codec issues follows the same
law at what its clock reads, whenever the codec was built (`Token.issue_exactly`).

On the way the life is computed by words of 64 bits, and three limits are met one after the other :
of a product of words, of a duration, and of an instant (`Token.expiryInWords`). Each step refuses
or is exact, so that together they are the sum that `Token.expiry` says
(`Token.expiryInWords_eq`).
-/

namespace Gatehouse

/-! ## By words -/

namespace Word

/-- The longest duration in seconds. The milliseconds of a duration are a word. -/
def longest : Int64 := 9223372036854775

/-- A number of minutes as a duration. -/
def duration? (minutes : Int64) : Option Int64 :=
  (checkedMul? minutes 60).filter fun seconds => -longest ≤ seconds ∧ seconds ≤ longest

/-- A life has a duration exactly if its milliseconds fit a word. -/
theorem duration?_eq_some_iff {minutes seconds : Int64} :
    duration? minutes = some seconds ↔ seconds.toInt = 60 * minutes.toInt ∧
      -9223372036854775 ≤ seconds.toInt ∧ seconds.toInt ≤ 9223372036854775 := by
  have hsixty : (60 : Int64).toInt = 60 := rfl
  have hlongest : longest.toInt = 9223372036854775 := rfl
  have hshortest : (-longest).toInt = -9223372036854775 := rfl
  rw [duration?, Option.filter_eq_some_iff, checkedMul?_eq_some_iff, decide_eq_true_eq,
    Int64.le_iff_toInt_le, Int64.le_iff_toInt_le, hsixty, hlongest, hshortest, Int.mul_comm]

end Word

/-- The instant a duration later. Its second is a sum of words. -/
def Instant.later? (t : Instant) (duration : Int64) : Option Instant :=
  let second := (Int64.ofInt t.seconds + duration).toInt
  let nanos := if t.nanos < Span.perSecond then t.nanos else t.nanos - Span.perSecond
  if inRange second then some ⟨second, nanos⟩ else none

/-- Instants and durations are so far from the bounds of a word that their sum does not wrap. -/
theorem Instant.later?_eq {t : Instant} (ht : inRange t.seconds = true) {duration : Int64}
    (hlow : -9223372036854775 ≤ duration.toInt) (hhigh : duration.toInt ≤ 9223372036854775) :
    t.later? duration = t.addSeconds? duration.toInt := by
  have hsecond : (Int64.ofInt t.seconds).toInt = t.seconds :=
    Word.toInt_ofInt (fitsSigned_of_inRange ht)
  have hsum : (Int64.ofInt t.seconds + duration).toInt = t.seconds + duration.toInt := by
    rw [Word.toInt_add, hsecond]
    rw [inRange_iff] at ht
    rw [hsecond, Width.fitsSigned_iff]
    omega
  rw [later?, addSeconds?, hsum]

namespace Token

/-- The instant at which a token issued at `now` expires, computed by words. -/
def expiryInWords (now : Instant) (minutes : Int64) : Except TokenError Instant :=
  if minutes < 1 then .error (TokenError.tooShortLived minutes.toInt)
  else
    match (Word.duration? minutes).bind now.later? with
    | some t => .ok t
    | none => .error (TokenError.tooLongLived minutes.toInt)

/-- A life that is no duration, or whose seconds are no word, ends past the last instant. -/
theorem bind_later?_eq {now : Instant} (hnow : Instant.inRange now.seconds = true)
    {minutes : Int64} (hminutes : 1 ≤ minutes.toInt) :
    (Word.duration? minutes).bind now.later? = now.addSeconds? (60 * minutes.toInt) := by
  cases hduration : Word.duration? minutes with
  | some seconds =>
    obtain ⟨hseconds, hlow, hhigh⟩ := Word.duration?_eq_some_iff.mp hduration
    rw [Option.bind_some, Instant.later?_eq hnow hlow hhigh, hseconds]
  | none =>
    have hlong : 9223372036854775 < 60 * minutes.toInt := by
      by_contra hshort
      have hseconds : (Int64.ofInt (60 * minutes.toInt)).toInt = 60 * minutes.toInt :=
        Word.toInt_ofInt (Width.fitsSigned_iff.mpr ⟨by omega, by omega⟩)
      have hsome := Word.duration?_eq_some_iff.mpr ⟨hseconds, by omega, by omega⟩
      rw [hduration] at hsome
      cases hsome
    have hrange : ¬Instant.inRange (now.seconds + 60 * minutes.toInt) = true := by
      rw [Instant.inRange_iff] at hnow ⊢
      omega
    rw [Option.bind_none, Instant.addSeconds?, if_neg hrange]

/-- From a time in range the checked words find the end that the numbers have. -/
theorem expiryInWords_eq {now : Instant} (hnow : Instant.inRange now.seconds = true)
    (minutes : Int64) : expiryInWords now minutes = expiry now minutes.toInt := by
  have hlt : minutes < 1 ↔ minutes.toInt < 1 := Int64.lt_iff_toInt_lt
  rw [expiryInWords, expiry]
  by_cases hminutes : minutes.toInt < 1
  · rw [if_pos (hlt.mpr hminutes), if_pos hminutes]
  · have hend := bind_later?_eq hnow (by omega : 1 ≤ minutes.toInt)
    rw [if_neg fun h => hminutes (hlt.mp h), if_neg hminutes]
    cases hsum : now.addSeconds? (60 * minutes.toInt) with
    | some t => rw [hend, hsum]
    | none => rw [hend, hsum]

/-! ## What is issued -/

/-- The instants that a payload gives, in seconds. -/
structure Dates where
  issuedAt : Int
  notBefore : Int
  expiresAt : Int

/-- Dates that the payload of a token gives under their keys. -/
def Dates.AreIn (d : Dates) (token : List Char) : Prop :=
  ∃ s ms, segments? token = some s ∧ payload? s.payload = .ok (.object ms) ∧
    Json.lookup "iat" ms = some (.int d.issuedAt) ∧
      Json.lookup "nbf" ms = some (.int d.notBefore) ∧
        Json.lookup "exp" ms = some (.int d.expiresAt)

/-- What comes of issuing a token in a second for a number of minutes. -/
structure IssuesExactly (issued : Except TokenError (List Char)) (second minutes : Int) :
    Prop where
  succeeds_iff : (∃ token, issued = .ok token) ↔
    1 ≤ minutes ∧ second + 60 * minutes ≤ 8210266876799
  dates : ∀ token, issued = .ok token → ∃ d : Dates, d.AreIn token ∧
    d = ⟨second, second, second + 60 * minutes⟩ ∧
      d.issuedAt ≤ d.notBefore ∧ d.notBefore < d.expiresAt
  fails : ¬(1 ≤ minutes ∧ second + 60 * minutes ≤ 8210266876799) →
    ∃ detail, issued = .error (.signing detail)

variable {user : User} {issuer : String} {minutes : Int} {now : Instant} {tokenId : String}

/-- A life that begins in range ends in range unless it ends too late. -/
theorem claims_succeeds_iff (hnow : Instant.inRange now.seconds = true) :
    (∃ c, claims user issuer minutes now tokenId = .ok c) ↔
      1 ≤ minutes ∧ now.seconds + 60 * minutes ≤ 8210266876799 := by
  simp only [claims_eq_ok_iff, exists_and_left, exists_eq, and_true]
  rw [Instant.inRange_iff] at hnow ⊢
  omega

theorem signing_of_claims {e : TokenError}
    (h : claims user issuer minutes now tokenId = .error e) : ∃ detail, e = .signing detail := by
  rw [claims, expiry] at h
  split_ifs at h with hminutes
  · exact ⟨_, (Except.error.inj h).symm⟩
  · cases hend : now.truncate.addSeconds? (60 * minutes) with
    | some t =>
      rw [hend] at h
      cases h
    | none =>
      rw [hend] at h
      exact ⟨_, (Except.error.inj h).symm⟩

/-- The dates of claims are in the token that is signed for them. -/
theorem areIn_sign {c : Claims} (h : c.InRange) {t : Instant} (ht : c.notBefore = some t)
    (secret : Bytes) :
    (⟨c.issuedAt.seconds, t.seconds, c.expiresAt.seconds⟩ : Dates).AreIn (sign c secret) := by
  refine ⟨signed c secret, _, (open?_eq_ok_iff.mp (open?_sign c secret)).1, payload?_toJson h, ?_⟩
  simp only [Json.lookup_sortedMembers, ht]
  simp [Json.lookup_cons, Json.lookup_nil, Json.Value.sorted]

/-- Claims that are made and then signed, by whatever secret, obey the law. -/
theorem issuesExactly_map_sign (hid : Width.fitsSigned user.id = true)
    (hnow : Instant.inRange now.seconds = true) (secret : Bytes) :
    IssuesExactly ((claims user issuer minutes now tokenId).map (sign · secret)) now.seconds
      minutes where
  succeeds_iff := by
    rw [← claims_succeeds_iff hnow]
    simp only [map_eq_ok_iff]
    exact ⟨fun ⟨_, c, hc, _⟩ => ⟨c, hc⟩, fun ⟨c, hc⟩ => ⟨_, c, hc, rfl⟩⟩
  dates := by
    intro token h
    obtain ⟨c, hc, rfl⟩ := map_eq_ok_iff.mp h
    obtain ⟨hminutes, hrange, rfl⟩ := claims_eq_ok_iff.mp hc
    have hbegin : ∀ t, some now.truncate = some t → Instant.inRange t.seconds = true := by
      rintro t ht
      obtain rfl := Option.some.inj ht
      exact hnow
    refine ⟨_, areIn_sign ⟨hid, hnow, hbegin, hrange⟩ (t := now.truncate) rfl secret, rfl,
      le_refl now.seconds, ?_⟩
    change now.seconds < now.seconds + 60 * minutes
    omega
  fails := by
    intro h
    cases hclaims : claims user issuer minutes now tokenId with
    | ok c => exact absurd ((claims_succeeds_iff hnow).mp ⟨c, hclaims⟩) h
    | error e =>
      obtain ⟨detail, rfl⟩ := signing_of_claims hclaims
      exact ⟨detail, rfl⟩

/-- Issuing obeys the law for every secret that is not empty, and fails for the empty one. So does a
codec that was built at any instant, whichever clock it has been given since. Computed by words,
the end of a life is what it is without bounds. -/
theorem issue_exactly {user : User} (hid : Width.fitsSigned user.id = true) (tokenId : String) :
    (∀ (issuer : String) (minutes : Int) (secret : Bytes) (now : Instant),
      Instant.inRange now.seconds = true → secret ≠ [] →
        IssuesExactly (issue user issuer minutes secret now tokenId) now.seconds minutes) ∧
    (∀ (issuer : String) (minutes : Int) (now : Instant),
      ∃ detail, issue user issuer minutes [] now tokenId = .error (.signing detail)) ∧
    (∀ (secret : Bytes) (issuer : String) (minutes : Int) (builtAt : Instant) (codec : TokenCodec),
      TokenCodec.new secret issuer minutes builtAt = .ok codec →
        ∀ (clock : Clock) (systemNow : Instant), Instant.inRange systemNow.seconds = true →
          IssuesExactly ({ codec with clock := clock }.issue user systemNow tokenId)
            (clock.now systemNow).seconds minutes) ∧
    ∀ (now : Instant) (minutes : Int64), Instant.inRange now.seconds = true →
      expiryInWords now minutes = expiry now minutes.toInt := by
  refine ⟨fun issuer minutes secret now hnow hsecret => ?_, fun _ _ _ => ⟨_, rfl⟩, ?_,
    fun now minutes hnow => expiryInWords_eq hnow minutes⟩
  · rw [issue, if_neg (by simpa using hsecret)]
    exact issuesExactly_map_sign hid hnow secret
  · intro secret issuer minutes builtAt codec hnew clock systemNow hnow
    have hminutes : codec.minutes = minutes := by
      rw [TokenCodec.new] at hnew
      split_ifs at hnew
      obtain ⟨-, -, rfl⟩ := map_eq_ok_iff.mp hnew
      rfl
    subst hminutes
    exact issuesExactly_map_sign hid (clock.inRange_now hnow) codec.secret

/-- The latest minute that a token can live through, issued in a leap second, and a second after
that by a codec that was built in 1970 : its life is a minute too long by then. -/
theorem issue_exactly_lastMinute :
    (∃ token, issue visit.user "gatehouse" 1 [7] ⟨8210266876739, 1500000000⟩ "visit-3" = .ok token ∧
      Dates.AreIn ⟨8210266876739, 8210266876739, 8210266876799⟩ token) ∧
    (∃ codec, TokenCodec.new [7] "gatehouse" 1 Instant.epoch = .ok codec ∧
      ∃ detail, (codec.withClock ⟨8210266876740⟩).issue visit.user Instant.epoch "visit-3" =
        .error (.signing detail)) ∧
    expiryInWords Instant.epoch 9223372036854775807 =
      .error (TokenError.tooLongLived 9223372036854775807) := by
  obtain ⟨hissue, -, hcodec, hwords⟩ := @issue_exactly visit.user (by decide) "visit-3"
  refine ⟨?_, ?_, ?_⟩
  · have h := hissue "gatehouse" 1 [7] ⟨8210266876739, 1500000000⟩ (by decide) (by decide)
    obtain ⟨token, htoken⟩ := h.succeeds_iff.mpr (by decide)
    obtain ⟨d, hd, rfl, -⟩ := h.dates token htoken
    exact ⟨token, htoken, hd⟩
  · have hnew : TokenCodec.new [7] "gatehouse" 1 Instant.epoch =
        .ok ⟨[7], "gatehouse", 1, .system⟩ := rfl
    have h := hcodec _ _ _ _ _ hnew (.manual ⟨8210266876740⟩) Instant.epoch (by decide)
    exact ⟨_, hnew, h.fails (by decide)⟩
  · rw [hwords _ _ (by decide)]
    rfl

end Token

end Gatehouse
