import Gatehouse.Proofs.Token.Timeline

/-!
# Two readings of one validity

Whether a token is valid at an instant is settled twice : before its claims are read, by the second
of the instant (`Validity.contains`), and of the claims, by the instant itself
(`Claims.isValidAt`). The instants of claims that are read lie at the starts of seconds
(`Claims.floor_of_ofJson`). So the readings agree on when the validity begins, and on its end if the
instant is a whole second : a text is accepted exactly while its claims are valid at the start of
the second (`verify_isValidAt`). Between the last second and the next the text is still accepted,
and its claims are valid no longer (`verify_isValidAt_lastSecond`).
-/

namespace Gatehouse

open Json (Value)

/-! ## Whole seconds -/

namespace Claims

/-- Times that are read have no fractions. -/
theorem floor_of_optional_timestamp {v : Value} {o : Option Instant}
    (h : Json.Decode.optional timestamp v = .ok o) : o.map Instant.floor = o := by
  rcases optional_timestamp_eq_ok_iff.mp h with ⟨-, rfl⟩ | ⟨t, rfl, ht⟩
  · rfl
  · rw [Option.map_some, (timestamp_eq_ok_iff.mp ht).2.2]

/-- What the fields of claims are read from. -/
theorem exists_of_ofJson {v : Value} {c : Claims} (h : ofJson v = .ok c) :
    ∃ iat nbf exp user, timestamp iat = .ok c.issuedAt ∧
      Json.Decode.optional timestamp nbf = .ok c.notBefore ∧ timestamp exp = .ok c.expiresAt ∧
        User.ofJson user = .ok c.user := by
  obtain ⟨ms, -, h⟩ := bind_eq_ok_iff.mp h
  obtain ⟨tokenId, -, h⟩ := bind_eq_ok_iff.mp h
  obtain ⟨issuer, -, h⟩ := bind_eq_ok_iff.mp h
  obtain ⟨issuedAt, hiat, h⟩ := bind_eq_ok_iff.mp h
  obtain ⟨notBefore, hnbf, h⟩ := bind_eq_ok_iff.mp h
  obtain ⟨expiresAt, hexp, h⟩ := bind_eq_ok_iff.mp h
  obtain ⟨user, huser, h⟩ := bind_eq_ok_iff.mp h
  obtain rfl := Except.ok.inj h
  exact ⟨_, _, _, _, hiat, hnbf, hexp, huser⟩

/-- The instants of claims that are read lie at the starts of seconds. -/
theorem floor_of_ofJson {v : Value} {c : Claims} (h : ofJson v = .ok c) : c.floor = c := by
  obtain ⟨iat, nbf, exp, -, hiat, hnbf, hexp, -⟩ := exists_of_ofJson h
  obtain ⟨-, -, hissued⟩ := timestamp_eq_ok_iff.mp hiat
  obtain ⟨-, -, hexpires⟩ := timestamp_eq_ok_iff.mp hexp
  rw [floor, hissued, floor_of_optional_timestamp hnbf, hexpires]

/-! ## The two readings -/

theorem le_iff_of_floor {t now : Instant} (ht : t.floor = t) :
    t ≤ now ↔ t.seconds ≤ now.seconds := by
  have hnanos : t.nanos = 0 := by rw [← ht]; rfl
  change t.seconds < now.seconds ∨ (t.seconds = now.seconds ∧ t.nanos ≤ now.nanos) ↔ _
  omega

/-- Of its own second only the beginning is not after a time without a fraction. -/
theorem ge_iff_of_floor {t now : Instant} (ht : t.floor = t) :
    now ≤ t ↔ now.seconds ≤ t.seconds ∧ (now.seconds < t.seconds ∨ now.nanos = 0) := by
  have hnanos : t.nanos = 0 := by rw [← ht]; rfl
  change now.seconds < t.seconds ∨ (now.seconds = t.seconds ∧ now.nanos ≤ t.nanos) ↔ _
  omega

/-- Claims of whole seconds are valid where their bounds in seconds say so, but for the fraction
behind the last second. -/
theorem isValidAt_iff {c : Claims} (hc : c.floor = c) (now : Instant) :
    c.isValidAt now = true ↔
      c.validity.contains now = true ∧ (now.seconds < c.expiresAt.seconds ∨ now.nanos = 0) := by
  have hexp : c.expiresAt.floor = c.expiresAt := congrArg expiresAt hc
  have hnbf : c.notBefore.map Instant.floor = c.notBefore := congrArg notBefore hc
  rw [isValidAt, Bool.and_eq_true, decide_eq_true_eq, ge_iff_of_floor hexp, Validity.contains,
    validity, Bool.and_eq_true, decide_eq_true_eq]
  cases ht : c.notBefore with
  | none => simp
  | some t =>
    rw [ht, Option.map_some, Option.some.injEq] at hnbf
    simp [le_iff_of_floor hnbf, and_assoc]

end Claims

/-! ## Accepted texts -/

namespace Token

variable {text : List Char} {secret : Bytes}

theorem floor_of_verify {now : Instant} {c : Claims} (h : verify text secret now = .ok c) :
    c.floor = c := by
  obtain ⟨-, -, -, v, -, hc⟩ := verify_eq_ok_iff.mp h
  obtain ⟨-, -, -, hclaims⟩ := claimsAt_eq_ok_iff.mp hc
  exact Claims.floor_of_ofJson hclaims

/-- A text that is accepted at some instant is accepted at every instant at the start of whose
second its claims are valid. Where it is expired its claims are not valid; where it is accepted
they are, but for the fraction behind the last second. -/
theorem verify_isValidAt {now : Instant} {c : Claims} (h : verify text secret now = .ok c)
    (t : Instant) :
    (verify text secret t = .ok c ↔ c.isValidAt t.floor = true) ∧
      (verify text secret t = .error .expired → c.isValidAt t = false) ∧
      (verify text secret t = .ok c →
        (c.isValidAt t = true ↔ t.seconds < c.expiresAt.seconds ∨ t.nanos = 0)) := by
  have hvalid := Claims.isValidAt_iff (floor_of_verify h)
  have hverify := verify_of_verify h t
  cases hcontains : c.validity.contains t with
  | true =>
    rw [if_pos hcontains] at hverify
    refine ⟨iff_of_true hverify ((hvalid _).mpr ⟨hcontains, Or.inr rfl⟩), fun hexpired => ?_,
      fun _ => ?_⟩
    · rw [hverify] at hexpired
      cases hexpired
    · rw [hvalid, hcontains]
      exact and_iff_right rfl
  | false =>
    rw [hcontains, if_neg Bool.false_ne_true] at hverify
    have hnot : c.isValidAt t = false := Bool.eq_false_iff.mpr fun hv => by
      rw [((hvalid t).mp hv).1] at hcontains
      cases hcontains
    have hnotFloor : ¬c.isValidAt t.floor = true := fun hv => by
      have hfloor : c.validity.contains t = true := ((hvalid _).mp hv).1
      rw [hfloor] at hcontains
      cases hcontains
    rw [hverify]
    refine ⟨iff_of_false (fun hok => ?_) hnotFloor, fun _ => hnot, fun hok => ?_⟩
    · cases hok
    · cases hok

/-- A token in the middle of its life, at its end, and a second later. -/
theorem verify_isValidAt_visit :
    verify (sign visit [7]) [7] ⟨30, 0⟩ = .ok visit ∧
      (verify (sign visit [7]) [7] ⟨60, 0⟩ = .ok visit ∧ visit.isValidAt ⟨60, 0⟩ = true) ∧
      verify (sign visit [7]) [7] ⟨61, 0⟩ = .error .expired ∧ visit.isValidAt ⟨61, 0⟩ = false := by
  have hlast := (verify_isValidAt verify_visit ⟨60, 0⟩).1.mpr (by decide)
  have hexpired : verify (sign visit [7]) [7] ⟨61, 0⟩ = .error .expired :=
    (verify_of_verify verify_visit ⟨61, 0⟩).trans (if_neg (by decide))
  exact ⟨verify_visit,
    ⟨hlast, ((verify_isValidAt verify_visit ⟨60, 0⟩).2.2 hlast).mpr (Or.inr rfl)⟩,
    hexpired, (verify_isValidAt verify_visit ⟨61, 0⟩).2.1 hexpired⟩

/-- Half a second behind its end a token is accepted, with claims that are not valid. -/
theorem verify_isValidAt_lastSecond :
    verify (sign visit [7]) [7] ⟨60, 500000000⟩ = .ok visit ∧
      visit.isValidAt ⟨60, 500000000⟩ = false := by
  have haccepted : verify (sign visit [7]) [7] ⟨60, 500000000⟩ = .ok visit :=
    (verify_of_verify verify_visit _).trans (if_pos (by decide))
  exact ⟨haccepted, by decide⟩

end Token

end Gatehouse
