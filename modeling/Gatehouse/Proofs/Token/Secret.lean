import Gatehouse.Proofs.Digest.Key
import Gatehouse.Proofs.Token.Authentic
import Gatehouse.Proofs.Token.Lifetime

/-!
# Tokens under another secret

A secret is passed on to the signature as it is, so a token knows it only as a key. Under another
secret an issued token says what it says under its own if the two are the same key, and else it is
refused for its signature, unless its message shows two texts with one digest
(`Token.verify_of_another_secret`). Secrets that fit in a block and do not end with a zero are
different keys whenever they are different. Of the others that is not true : a secret with a zero
behind it, or the digest of a long one, opens the tokens of the secret
(`Token.verify_under_another_secret`).
-/

namespace Gatehouse.Token

/-- Two secrets that sign a message alike : they are the same key, or the texts whose digests the
signatures are collide. -/
def SignAlike (secret other : Bytes) (message : List Char) : Prop :=
  Hmac.SameKey secret other ∨
    Sha512.Collision (Hmac.outer secret (Utf8.encode message))
      (Hmac.outer other (Utf8.encode message))

variable {secret other : Bytes}

/-- Codes are equal exactly if the secrets sign the message alike, since all of a code is written.
-/
theorem mac_eq_mac_iff (message : List Char) :
    mac secret message = mac other message ↔ SignAlike secret other message := by
  rw [SignAlike, ← Hmac.sign_eq_sign_iff, mac, mac]
  constructor
  · intro h
    have hdecoded := congrArg Base64Url.decode? h
    rw [Base64Url.decode?_encode, Base64Url.decode?_encode] at hdecoded
    exact Option.some.inj hdecoded
  · intro h
    rw [h]

/-! ## The segments of an issued token -/

section Issued

variable {user : User} {issuer : String} {minutes : Int} {now : Instant} {tokenId : String}
  {token : List Char} {s : Segments}

/-- A token that is issued is signed claims, and comes apart as they do. -/
theorem exists_signed_of_issue (h : issue user issuer minutes secret now tokenId = .ok token) :
    ∃ c, claims user issuer minutes now tokenId = .ok c ∧ token = sign c secret ∧
      segments? token = some (signed c secret) := by
  obtain ⟨-, c, hc, rfl⟩ := issue_eq_ok_iff.mp h
  exact ⟨c, hc, rfl, (open?_eq_ok_iff.mp (open?_sign c secret)).1⟩

theorem algorithm?_signed (c : Claims) (secret : Bytes) :
    (signed c secret).algorithm? = some .hs512 := by
  obtain ⟨-, bytes, hbytes, halgorithm⟩ := open?_eq_ok_iff.mp (open?_sign c secret)
  rw [Segments.algorithm?, hbytes, Option.bind_some, halgorithm]

/-- What is signed is authentic under the secrets that sign it alike. -/
theorem isAuthentic_signed_iff {c : Claims} :
    (signed c secret).IsAuthentic other ↔
      SignAlike secret other (signed c secret).message := by
  rw [← mac_eq_mac_iff]
  constructor
  · intro h
    rw [← signature_signed, h.signature]
  · intro h
    exact ⟨algorithm?_signed c secret, by rw [signature_signed, h]⟩

/-- The issued token says the same under every secret that signs its message alike. -/
theorem verify_of_signAlike (hid : Width.fitsSigned user.id = true)
    (hnow : Instant.inRange now.seconds = true)
    (h : issue user issuer minutes secret now tokenId = .ok token)
    (hs : segments? token = some s) (halike : SignAlike secret other s.message) (t : Instant) :
    verify token other t = answer user issuer minutes now.seconds tokenId t := by
  obtain ⟨c, hc, rfl, hsigned⟩ := exists_signed_of_issue h
  obtain rfl := Option.some.inj (hsigned.symm.trans hs)
  have hown : (signed c secret).IsAuthentic secret :=
    ⟨algorithm?_signed c secret, signature_signed c secret⟩
  rw [verify_of_isAuthentic hs (isAuthentic_signed_iff.mpr halike), ← verify_of_isAuthentic hs hown]
  exact verify_claims hid hnow hc secret t

/-- Under a secret that signs its message otherwise an issued token fails by its signature. -/
theorem verify_of_not_signAlike (h : issue user issuer minutes secret now tokenId = .ok token)
    (hs : segments? token = some s) (halike : ¬SignAlike secret other s.message) (t : Instant) :
    verify token other t = .error .signature := by
  obtain ⟨c, -, rfl, hsigned⟩ := exists_signed_of_issue h
  obtain rfl := Option.some.inj (hsigned.symm.trans hs)
  have hnot : ¬(signed c secret).IsAuthentic other := fun hauthentic =>
    halike (isAuthentic_signed_iff.mp hauthentic)
  rw [verify_of_not_isAuthentic hs hnot,
    Segments.refusal_of_algorithm? (algorithm?_signed c secret)]

end Issued

/-! ## Another secret -/

/-- An issued token is refused, at every instant, under every secret that does not sign its message
alike, and says what it says under its own secret under every one that does. Two different secrets
that are plain are of the first kind, unless two texts with one digest are shown. -/
theorem verify_of_another_secret {user : User} {issuer : String} {minutes : Int} {secret : Bytes}
    {now : Instant} {tokenId : String} {token : List Char}
    (hid : Width.fitsSigned user.id = true) (hnow : Instant.inRange now.seconds = true)
    (h : issue user issuer minutes secret now tokenId = .ok token) :
    ∃ s, segments? token = some s ∧ ∀ other,
      (¬SignAlike secret other s.message → ∀ t, verify token other t = .error .signature) ∧
      (SignAlike secret other s.message → ∀ t,
        verify token other t = answer user issuer minutes now.seconds tokenId t) ∧
      (secret ≠ other → Hmac.IsPlain secret → Hmac.IsPlain other →
        (∀ t, verify token other t = .error .signature) ∨
          Sha512.Collision (Hmac.outer secret (Utf8.encode s.message))
            (Hmac.outer other (Utf8.encode s.message))) := by
  obtain ⟨c, -, -, hs⟩ := exists_signed_of_issue h
  -- The message is that of the token, so one division of it serves for every other secret.
  refine ⟨_, hs, fun other => ⟨verify_of_not_signAlike h hs, verify_of_signAlike hid hnow h hs, ?_⟩⟩
  intro hne hsecret hother
  by_cases halike : SignAlike secret other (signed c secret).message
  · rcases halike with hsame | hcollision
    · exact absurd ((Hmac.sameKey_iff_eq hsecret hother).mp hsame) hne
    · exact Or.inr hcollision
  · exact Or.inl (verify_of_not_signAlike h hs halike)

/-- The id of the token of a visit. -/
def visitId : String :=
  "3f2504e0-4f89-41d3-9a0c-0305e82c3301"

theorem exists_claims_visit :
    ∃ c, claims visit.user "gatehouse" 1 Instant.epoch visitId = .ok c :=
  ⟨_, claims_eq_ok_iff.mpr ⟨by decide, by decide, rfl⟩⟩

/-- What the token of a visit is worth under the secret with a zero behind it and under a secret of
another byte. -/
theorem verify_of_another_secret_visit :
    ∃ token s, issue visit.user "gatehouse" 1 [7] Instant.epoch visitId = .ok token ∧
      segments? token = some s ∧
      verify token [7, 0] Instant.epoch = .ok (issuedClaims visit.user "gatehouse" 1 0 visitId) ∧
      (verify token [8] Instant.epoch = .error .signature ∨
        Sha512.Collision (Hmac.outer [7] (Utf8.encode s.message))
          (Hmac.outer [8] (Utf8.encode s.message))) := by
  obtain ⟨c, hc⟩ := exists_claims_visit
  have htoken := issue_eq_ok_iff.mpr ⟨List.cons_ne_nil 7 [], c, hc, rfl⟩
  obtain ⟨s, hs, hothers⟩ := verify_of_another_secret (by decide) (by decide) htoken
  obtain ⟨-, hzero, -⟩ := hothers [7, 0]
  obtain ⟨-, -, hplain⟩ := hothers [8]
  refine ⟨_, s, htoken, hs, hzero (Or.inl (Hmac.sameKey_append_zeros 1 (by decide))) _, ?_⟩
  exact (hplain (by decide) ⟨by decide, by decide⟩ ⟨by decide, by decide⟩).imp_left fun h => h _

/-- The token of a visit is accepted under other secrets than the one it is signed with : if that
is short, under the secret with a zero behind it, and if it is longer than a block, under its
digest. -/
theorem verify_under_another_secret :
    (∃ token, issue visit.user "gatehouse" 1 [7] Instant.epoch visitId = .ok token ∧
      verify token [7, 0] Instant.epoch =
        .ok (issuedClaims visit.user "gatehouse" 1 0 visitId) ∧
      verify token [7, 0] Instant.epoch ≠ .error .signature) ∧
    ∃ token, issue visit.user "gatehouse" 1 (List.replicate 129 7) Instant.epoch visitId =
        .ok token ∧
      List.replicate 129 7 ≠ Sha512.digest (List.replicate 129 7) ∧
      verify token (Sha512.digest (List.replicate 129 7)) Instant.epoch =
        .ok (issuedClaims visit.user "gatehouse" 1 0 visitId) := by
  obtain ⟨c, hc⟩ := exists_claims_visit
  have haccepted : ∀ secret other, secret ≠ [] → Hmac.SameKey secret other →
      ∃ token, issue visit.user "gatehouse" 1 secret Instant.epoch visitId = .ok token ∧
        verify token other Instant.epoch =
          .ok (issuedClaims visit.user "gatehouse" 1 0 visitId) := by
    intro secret other hsecret hsame
    have htoken := issue_eq_ok_iff.mpr ⟨hsecret, c, hc, rfl⟩
    obtain ⟨_, -, -, hs⟩ := exists_signed_of_issue htoken
    exact ⟨_, htoken, verify_of_signAlike (by decide) (by decide) htoken hs (Or.inl hsame) _⟩
  constructor
  · obtain ⟨token, htoken, hverify⟩ := haccepted [7] [7, 0] (List.cons_ne_nil 7 [])
      (Hmac.sameKey_append_zeros 1 (by decide))
    exact ⟨token, htoken, hverify, by rw [hverify]; rintro ⟨⟩⟩
  · obtain ⟨token, htoken, hverify⟩ := haccepted (List.replicate 129 7)
      (Sha512.digest (List.replicate 129 7)) (List.cons_ne_nil 7 _)
      (Hmac.sameKey_digest (by rw [List.length_replicate]; omega))
    refine ⟨token, htoken, fun heq => ?_, hverify⟩
    have hlength := congrArg List.length heq
    rw [Sha512.length_digest, List.length_replicate] at hlength
    omega

end Gatehouse.Token
