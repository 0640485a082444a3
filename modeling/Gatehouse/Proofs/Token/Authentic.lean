import Gatehouse.Proofs.Token.Signed

/-!
# Authentic tokens

A token is authentic under a secret if its header names the algorithm of this library and its
last segment is the signature of what stands before (`Segments.IsAuthentic`). Only then is the
payload looked at : an authentic token is read by its payload alone (`verify_of_isAuthentic`), and
any other is refused for a reason that its header tells (`verify_of_not_isAuthentic`). So whoever
does not know the secret learns nothing by changing a payload, at whatever time
(`verify_of_unauthentic_payload`).
-/

namespace Gatehouse.Token

/-! ## What the header tells -/

namespace Segments

/-- The algorithm that the header names, if it is a header. -/
def algorithm? (s : Segments) : Option Algorithm :=
  (Base64Url.decode? s.header).bind Header.read?

/-- Why a token with this header is refused if it is not authentic. -/
def refusal (s : Segments) : TokenError :=
  match Base64Url.decode? s.header with
  | none => TokenError.badBase64
  | some bytes =>
    match Header.read? bytes with
    | none => TokenError.badHeader
    | some _ => .signature

/-- The header names the algorithm and the last segment is the signature under the secret. -/
structure IsAuthentic (s : Segments) (secret : Bytes) : Prop where
  algorithm : s.algorithm? = some .hs512
  signature : s.signature = mac secret s.message

variable {s : Segments}

theorem refusal_of_algorithm? {algorithm : Algorithm} (h : s.algorithm? = some algorithm) :
    s.refusal = .signature := by
  obtain ⟨bytes, hbytes, halgorithm⟩ := Option.bind_eq_some_iff.mp h
  rw [refusal, hbytes]
  simp only [halgorithm]

/-- A token without a header fails by one of two errors. -/
theorem refusal_of_no_algorithm (h : s.algorithm? = none) :
    s.refusal = TokenError.badBase64 ∨ s.refusal = TokenError.badHeader := by
  rw [refusal]
  cases hbytes : Base64Url.decode? s.header with
  | none => exact Or.inl rfl
  | some bytes =>
    rw [algorithm?, hbytes, Option.bind_some] at h
    refine Or.inr ?_
    simp only [h]

end Segments

variable {text : List Char} {secret : Bytes} {now : Instant} {s : Segments}

theorem open?_of_algorithm? (hs : segments? text = some s) {algorithm : Algorithm}
    (h : s.algorithm? = some algorithm) : open? text = .ok (s, algorithm) := by
  obtain ⟨bytes, hbytes, halgorithm⟩ := Option.bind_eq_some_iff.mp h
  exact open?_eq_ok_iff.mpr ⟨hs, bytes, hbytes, halgorithm⟩

theorem open?_of_no_algorithm (hs : segments? text = some s) (h : s.algorithm? = none) :
    open? text = .error s.refusal := by
  rw [open?, hs, Segments.refusal]
  cases hbytes : Base64Url.decode? s.header with
  | none => simp only [hbytes]
  | some bytes =>
    rw [Segments.algorithm?, hbytes, Option.bind_some] at h
    simp only [hbytes, h]

/-! ## What is looked at -/

/-- What becomes of an authentic token its payload decides. -/
theorem verify_of_isAuthentic (hs : segments? text = some s) (h : s.IsAuthentic secret) :
    verify text secret now = payload? s.payload >>= fun v => claimsAt v now :=
  verify_of_signature (open?_of_algorithm? hs h.algorithm) h.signature

/-- The reason depends on neither the payload nor the time. -/
theorem verify_of_not_isAuthentic (hs : segments? text = some s) (h : ¬s.IsAuthentic secret) :
    verify text secret now = .error s.refusal := by
  cases halgorithm : s.algorithm? with
  | none =>
    rw [verify, open?_of_no_algorithm hs halgorithm]
    rfl
  | some algorithm =>
    rw [verify, open?_of_algorithm? hs halgorithm, Segments.refusal_of_algorithm? halgorithm]
    by_cases hhs : algorithm = .hs512
    · have hmac : s.signature ≠ mac secret s.message := fun hmac =>
        h ⟨by rw [halgorithm, hhs], hmac⟩
      simp [hhs, hmac, bind, Except.bind, throw, throwThe, MonadExceptOf.throw]
    · simp [hhs, bind, Except.bind, throw, throwThe, MonadExceptOf.throw]

/-- An error that is neither about the header nor about the signature is one of an authentic
token. -/
theorem isAuthentic_of_error {e : TokenError} (hs : segments? text = some s)
    (h : verify text secret now = .error e)
    (he : e = .expired ∨ (∃ detail, e = .claimsDecode detail) ∨
      s.algorithm?.isSome = true ∧ e ≠ .signature) : s.IsAuthentic secret := by
  by_contra hnot
  rw [verify_of_not_isAuthentic hs hnot] at h
  obtain rfl := Except.error.inj h
  cases halgorithm : s.algorithm? with
  | none =>
    rw [halgorithm] at he
    rcases Segments.refusal_of_no_algorithm halgorithm with hrefusal | hrefusal <;>
      rw [hrefusal] at he <;> simp [TokenError.badBase64, TokenError.badHeader] at he
  | some algorithm =>
    rw [Segments.refusal_of_algorithm? halgorithm] at he
    simp at he

/-- As long as a token is not authentic its payload influences nothing : at every time and with
every other payload that does not make it authentic it is refused for the same reason. What is
wrong with a payload, its bounds or its claims is told of authentic tokens only, which are read by
their payload alone, and another algorithm is always told as a wrong signature. -/
theorem verify_of_unauthentic_payload {text : List Char} (h : 2 ≤ text.count '.')
    (secret : Bytes) :
    ∃ s : Segments, text = s.text ∧ '.' ∉ s.payload ∧ '.' ∉ s.signature ∧
      (¬s.IsAuthentic secret → ∃ e, (∀ now, verify text secret now = .error e) ∧
        ∀ payload, '.' ∉ payload → ¬({ s with payload } : Segments).IsAuthentic secret →
          ∀ now, verify ({ s with payload } : Segments).text secret now = .error e) ∧
      (s.IsAuthentic secret → ∀ now,
        verify text secret now = payload? s.payload >>= fun v => claimsAt v now) ∧
      (∀ now e, verify text secret now = .error e →
        (e = .expired ∨ (∃ detail, e = .claimsDecode detail) ∨
          s.algorithm?.isSome = true ∧ e ≠ .signature) → s.IsAuthentic secret) ∧
      ∀ algorithm, s.algorithm? = some algorithm → algorithm ≠ .hs512 →
        ∀ now, verify text secret now = .error .signature := by
  obtain ⟨s, hs⟩ := exists_segments_of_count h
  obtain ⟨htext, hpayload, hsignature⟩ := segments?_eq_some_iff.mp hs
  refine ⟨s, htext, hpayload, hsignature, fun hnot => ?_, fun hauthentic now =>
    verify_of_isAuthentic hs hauthentic, fun now e => isAuthentic_of_error hs, ?_⟩
  · refine ⟨s.refusal, fun now => verify_of_not_isAuthentic hs hnot, ?_⟩
    intro payload hdot hnot' now
    have hs' : segments? ({ s with payload } : Segments).text = some { s with payload } :=
      segments?_eq_some_iff.mpr ⟨rfl, hdot, hsignature⟩
    have hrefused : verify ({ s with payload } : Segments).text secret now =
        .error ({ s with payload } : Segments).refusal := verify_of_not_isAuthentic hs' hnot'
    exact hrefused
  · intro algorithm halgorithm hother now
    have hnot : ¬s.IsAuthentic secret := fun hauthentic =>
      hother (Option.some.inj (halgorithm.symm.trans hauthentic.algorithm))
    rw [verify_of_not_isAuthentic hs hnot, Segments.refusal_of_algorithm? halgorithm]

/-- The segments of a token whose header names another algorithm. -/
def foreign : Segments := ⟨"eyJhbGciOiJIUzI1NiJ9".toList, "e30".toList, "c2ln".toList⟩

theorem verify_of_unauthentic_payload_foreign : 2 ≤ foreign.text.count '.' ∧
    (∀ now, verify foreign.text [7] now = .error .signature) ∧
      ∀ payload, '.' ∉ payload → ∀ now,
        verify ({ foreign with payload } : Segments).text [7] now = .error .signature := by
  have hdots : 2 ≤ foreign.text.count '.' := by decide
  obtain ⟨s, htext, hpayload, hsignature, hunauthentic, -, -, hother⟩ :=
    verify_of_unauthentic_payload hdots [7]
  obtain rfl : foreign = s := by
    have hs := segments?_eq_some_iff.mpr ⟨htext, hpayload, hsignature⟩
    have hforeign : segments? foreign.text = some foreign := by decide
    exact Option.some.inj (hforeign.symm.trans hs)
  have halgorithm : foreign.algorithm? = some .hs256 := by decide +kernel
  have hnot : ∀ s : Segments, s.header = foreign.header → ¬s.IsAuthentic [7] := by
    rintro s hheader ⟨hs, -⟩
    rw [Segments.algorithm?, hheader] at hs
    exact absurd (halgorithm.symm.trans hs) (by decide)
  have hsignature := hother .hs256 halgorithm (by decide)
  obtain ⟨e, he, hpayloads⟩ := hunauthentic (hnot foreign rfl)
  obtain rfl : .signature = e := Except.error.inj ((hsignature Instant.epoch).symm.trans (he _))
  exact ⟨hdots, hsignature, fun payload hdot => hpayloads payload hdot (hnot _ rfl)⟩

end Gatehouse.Token
