import Gatehouse.Proofs.Token.Lifetime
import Gatehouse.Proofs.Token.Validity

/-!
# The order of claims

Claims are in order if they are issued before they begin, and begin before they end
(`Claims.IsOrdered`). Those of a token that is issued are (`Token.isOrdered_of_claims`). When a text
is verified, its bounds are compared with the time, and so with each other; when it was issued is
read and not looked at. So the text is accepted whatever it says of that
(`Token.exists_verify_iff`), and its claims are out of order if their signer has made them so
(`Token.orders_of_verify`).
-/

namespace Gatehouse

open Json (Value)

/-! ## Instants -/

namespace Instant

protected theorem le_trans {a b c : Instant} (hab : a ≤ b) (hbc : b ≤ c) : a ≤ c := by
  change a.seconds < b.seconds ∨ (a.seconds = b.seconds ∧ a.nanos ≤ b.nanos) at hab
  change b.seconds < c.seconds ∨ (b.seconds = c.seconds ∧ b.nanos ≤ c.nanos) at hbc
  change a.seconds < c.seconds ∨ (a.seconds = c.seconds ∧ a.nanos ≤ c.nanos)
  omega

protected theorem le_refl (a : Instant) : a ≤ a :=
  Or.inr ⟨rfl, Nat.le_refl _⟩

/-- Times keep their order without their fractions. -/
theorem floor_le_floor {a b : Instant} (h : a ≤ b) : a.floor ≤ b.floor := by
  rcases h with hlt | ⟨heq, -⟩
  · exact Or.inl hlt
  · exact Or.inr ⟨heq, Nat.le_refl _⟩

end Instant

/-! ## Claims -/

namespace Claims

/-- Claims are issued before they begin and before they end, and begin before they end. -/
structure IsOrdered (c : Claims) : Prop where
  expiresAt : c.issuedAt ≤ c.expiresAt
  notBefore : ∀ t ∈ c.notBefore, c.issuedAt ≤ t ∧ t ≤ c.expiresAt

variable {c : Claims}

theorem IsOrdered.floor (h : c.IsOrdered) : c.floor.IsOrdered := by
  refine ⟨Instant.floor_le_floor h.expiresAt, fun t ht => ?_⟩
  obtain ⟨u, hu, rfl⟩ := Option.map_eq_some_iff.mp ht
  obtain ⟨hissued, hexpires⟩ := h.notBefore u hu
  exact ⟨Instant.floor_le_floor hissued, Instant.floor_le_floor hexpires⟩

/-- If claims begin before they end, all that is left is that they are issued before. -/
theorem isOrdered_iff (h : ∀ t ∈ c.notBefore, t ≤ c.expiresAt) :
    c.IsOrdered ↔ c.issuedAt ≤ c.notBefore.getD c.expiresAt := by
  refine ⟨fun hc => ?_, fun hle => ?_⟩
  · cases ht : c.notBefore with
    | none => exact hc.expiresAt
    | some t => exact (hc.notBefore t ht).1
  · cases ht : c.notBefore with
    | none =>
      rw [ht] at hle
      refine ⟨hle, fun t ht' => ?_⟩
      rw [ht] at ht'
      cases ht'
    | some t =>
      rw [ht] at hle
      refine ⟨Instant.le_trans hle (h t ht), fun t' ht' => ?_⟩
      obtain rfl := Option.some.inj (ht.symm.trans ht')
      exact ⟨hle, h t ht⟩

theorem inRange_of_optional_timestamp {v : Value} {o : Option Instant}
    (h : Json.Decode.optional timestamp v = .ok o) : ∀ t ∈ o, Instant.inRange t.seconds = true := by
  rcases optional_timestamp_eq_ok_iff.mp h with ⟨-, rfl⟩ | ⟨t, rfl, ht⟩
  · exact nofun
  · intro t' ht'
    obtain rfl := Option.some.inj ht'
    exact (timestamp_eq_ok_iff.mp ht).2.1

theorem fitsSigned_of_user {v : Value} {u : User} (h : User.ofJson v = .ok u) :
    Width.fitsSigned u.id = true := by
  obtain ⟨ms, -, h⟩ := bind_eq_ok_iff.mp h
  obtain ⟨id, hid, h⟩ := bind_eq_ok_iff.mp h
  obtain ⟨name, -, h⟩ := bind_eq_ok_iff.mp h
  obtain ⟨email, -, h⟩ := bind_eq_ok_iff.mp h
  obtain ⟨login, -, h⟩ := bind_eq_ok_iff.mp h
  obtain ⟨isAdmin, -, h⟩ := bind_eq_ok_iff.mp h
  obtain rfl := Except.ok.inj h
  exact (Json.Decode.int_eq_ok_iff.mp hid).2

/-- Claims that are read are in range. -/
theorem inRange_of_ofJson {v : Value} (h : ofJson v = .ok c) : c.InRange := by
  obtain ⟨iat, nbf, exp, user, hiat, hnbf, hexp, huser⟩ := exists_of_ofJson h
  obtain ⟨-, hissued, -⟩ := timestamp_eq_ok_iff.mp hiat
  obtain ⟨-, hexpires, -⟩ := timestamp_eq_ok_iff.mp hexp
  exact ⟨fitsSigned_of_user huser, hissued, inRange_of_optional_timestamp hnbf, hexpires⟩

end Claims

/-! ## Accepted texts -/

namespace Token

variable {text : List Char} {secret : Bytes} {now : Instant} {c : Claims}

/-- Claims that are made are in order. -/
theorem isOrdered_of_claims {user : User} {issuer : String} {minutes : Int} {tokenId : String}
    (h : claims user issuer minutes now tokenId = .ok c) : c.IsOrdered := by
  obtain ⟨hminutes, -, rfl⟩ := claims_eq_ok_iff.mp h
  have hlater : now.truncate ≤ ⟨now.seconds + 60 * minutes, 0⟩ := by
    refine Or.inl ?_
    change now.seconds < now.seconds + 60 * minutes
    omega
  refine ⟨hlater, fun t ht => ?_⟩
  obtain rfl := Option.some.inj ht
  exact ⟨Instant.le_refl _, hlater⟩

/-- A signed token says its own claims or nothing, whatever key it is verified with. -/
theorem eq_floor_of_verify_sign {key : Bytes} {c' : Claims} (hc : c.InRange)
    (h : verify (sign c key) secret now = .ok c') : c' = c.floor := by
  obtain ⟨s, hopen, -, v, hpayload, hclaims⟩ := verify_eq_ok_iff.mp h
  obtain ⟨rfl, -⟩ := Prod.mk.inj (Except.ok.inj ((open?_sign c key).symm.trans hopen))
  obtain rfl := Except.ok.inj ((payload?_toJson hc).symm.trans hpayload)
  rw [claimsAt_sorted hc] at hclaims
  split_ifs at hclaims
  exact (Except.ok.inj hclaims).symm

theorem contains_of_verify (h : verify text secret now = .ok c) :
    c.validity.contains now = true := by
  have hverify := verify_of_verify h now
  rw [h] at hverify
  by_contra hcontains
  rw [if_neg hcontains] at hverify
  cases hverify

/-- What is accepted has a window that is not empty. -/
theorem le_expiresAt_of_verify (h : verify text secret now = .ok c) :
    ∀ t ∈ c.notBefore, t ≤ c.expiresAt := by
  intro t ht
  have hfloor : c.notBefore.map Instant.floor = c.notBefore :=
    congrArg Claims.notBefore (floor_of_verify h)
  rw [ht, Option.map_some, Option.some.injEq] at hfloor
  obtain ⟨hbegun, hlasts⟩ := contains_iff.mp (contains_of_verify h)
  rw [Claims.le_iff_of_floor hfloor]
  exact (hbegun t.seconds (Option.mem_map_of_mem Instant.seconds ht)).trans hlasts

/-- The claims that texts are accepted with are those in range, of whole seconds, whose validity the
time lies in. Nothing else is asked of them. -/
theorem exists_verify_iff : (∃ text, verify text secret now = .ok c) ↔
    c.InRange ∧ c.floor = c ∧ c.validity.contains now = true := by
  constructor
  · rintro ⟨text, h⟩
    obtain ⟨s, -, -, v, -, hclaims⟩ := verify_eq_ok_iff.mp h
    obtain ⟨w, -, -, hread⟩ := claimsAt_eq_ok_iff.mp hclaims
    exact ⟨Claims.inRange_of_ofJson hread, floor_of_verify h, contains_of_verify h⟩
  · rintro ⟨hrange, hfloor, hcontains⟩
    refine ⟨sign c secret, ?_⟩
    rw [verify_sign hrange, if_pos hcontains, hfloor]

/-- How the instants of claims that a text is accepted with are ordered. -/
structure Orders (text : List Char) (secret : Bytes) (now : Instant) (c : Claims) : Prop where
  /-- They begin before they end. -/
  window : ∀ t ∈ c.notBefore, t ≤ c.expiresAt
  /-- They are in order exactly if they are issued before they begin, or before they end if they
  have no beginning. -/
  ordered : c.IsOrdered ↔ c.issuedAt ≤ c.notBefore.getD c.expiresAt
  /-- They are in order if the text is a token that has been issued, with whatever secret. -/
  issued : ∀ user issuer minutes key start tokenId, Width.fitsSigned user.id = true →
    Instant.inRange start.seconds = true →
      issue user issuer minutes key start tokenId = .ok text → c.IsOrdered
  /-- Another text is accepted with the same claims and any other time of issue. -/
  unchecked : ∀ second, Instant.inRange second = true →
    ∃ text', verify text' secret now = .ok { c with issuedAt := ⟨second, 0⟩ }

/-- Whatever is accepted begins before it ends, and only a token that was issued need be issued
before. -/
theorem orders_of_verify (h : verify text secret now = .ok c) : Orders text secret now c := by
  have hwindow := le_expiresAt_of_verify h
  obtain ⟨hrange, hfloor, hcontains⟩ := exists_verify_iff.mp ⟨text, h⟩
  refine ⟨hwindow, Claims.isOrdered_iff hwindow, ?_, fun second hsecond => ?_⟩
  · intro user issuer minutes key start tokenId hid hstart hissue
    obtain ⟨-, made, hmade, rfl⟩ := issue_eq_ok_iff.mp hissue
    have hordered := isOrdered_of_claims hmade
    obtain ⟨-, hend, rfl⟩ := claims_eq_ok_iff.mp hmade
    rw [eq_floor_of_verify_sign ⟨hid, hstart, ?_, hend⟩ h]
    · exact hordered.floor
    · rintro t ht
      obtain rfl := Option.some.inj ht
      exact hstart
  · have hnbf : c.notBefore.map Instant.floor = c.notBefore := congrArg Claims.notBefore hfloor
    have hexp : c.expiresAt.floor = c.expiresAt := congrArg Claims.expiresAt hfloor
    refine exists_verify_iff.mpr ⟨⟨hrange.id, hsecond, hrange.notBefore, hrange.expiresAt⟩, ?_,
      hcontains⟩
    rw [Claims.floor, hnbf, hexp]
    rfl

/-! ## Claims from the future -/

/-- The claims of a visitor which say that they are issued after they have ended. -/
def lateVisit : Claims :=
  { visit with issuedAt := ⟨100, 0⟩ }

/-- A text that is accepted with claims that are not in order. -/
theorem verify_lateVisit :
    verify (sign lateVisit [7]) [7] ⟨30, 0⟩ = .ok lateVisit ∧ ¬lateVisit.IsOrdered := by
  have hrange : lateVisit.InRange :=
    ⟨inRange_visit.id, by decide, inRange_visit.notBefore, inRange_visit.expiresAt⟩
  refine ⟨?_, fun hordered => absurd hordered.expiresAt (by decide)⟩
  rw [verify_sign hrange, if_pos (by decide)]
  rfl

end Token

end Gatehouse
