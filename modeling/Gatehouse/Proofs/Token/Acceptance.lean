import Gatehouse.Proofs.Token.Signed

/-!
# What an accepted token is

A text is accepted only if it is signed over its first two segments with the secret, says so in
its header, and carries in its payload an object with the accepted claims, at an instant within
their bounds (`isAccepted_of_verify`). A payload that passes as an array has five elements, more
than the record of the bounds has fields, so no array is ever read as claims
(`eq_object_of_passes`).

The signature is a function of the secret and the other two segments, and it is compared as a
text. So there is one accepted text for every two first segments.
-/

namespace Gatehouse.Token

open Json (Node Value)

/-! ## Payloads -/

theorem length_ofItems {depth : Nat} : ∀ {items : List Node} {vs : List Value},
    Value.ofItems depth items = some vs → vs.length = items.length
  | [], _, h => by
    obtain rfl := Option.some.inj h
    rfl
  | x :: items, vs, h => by
    rw [Value.ofItems] at h
    split at h
    · obtain rfl := Option.some.inj h
      rw [List.length_cons, List.length_cons, length_ofItems ‹_›]
    · cases h

/-- Only objects carry bounds : scalars do not pass, and arrays that do are too long. -/
theorem eq_object_of_passes {node : Node} {v : Value} {w : Validity}
    (hpasses : Payload.passes node = true) (hv : Value.ofNode? node = some v)
    (hw : Validity.ofJson v = .ok w) : ∃ ms, v = .object ms := by
  cases node with
  | object ms =>
    simp only [Value.ofNode?, Value.ofNode, Value.maxDepth] at hv
    obtain ⟨vs, -, rfl⟩ := Option.map_eq_some_iff.mp hv
    exact ⟨vs, rfl⟩
  | array items =>
    simp only [Value.ofNode?, Value.ofNode, Value.maxDepth] at hv
    obtain ⟨vs, hvs, rfl⟩ := Option.map_eq_some_iff.mp hv
    obtain ⟨fs, hfs, -⟩ := bind_eq_ok_iff.mp hw
    have hlong : items.length = 5 := by
      rw [Payload.passes, Bool.and_eq_true, beq_iff_eq] at hpasses
      exact hpasses.1
    cases Json.Decode.lists_of_fields (by decide) hfs with
    | array _ hshort =>
      rw [length_ofItems hvs, hlong] at hshort
      exact absurd hshort (by decide)
  | _ => cases hpasses

/-! ## Accepted texts -/

/-- What the segments of a token are that is accepted under a secret, at an instant and with
claims. -/
structure Segments.IsAccepted (s : Segments) (secret : Bytes) (now : Instant) (c : Claims) :
    Prop where
  header : ∃ bytes, s.header = Base64Url.encode bytes ∧ Header.read? bytes = some .hs512
  signature : s.signature =
    Base64Url.encode (Hmac.sign secret (Utf8.encode (s.header ++ '.' :: s.payload)))
  payload : ∃ bytes members, s.payload = Base64Url.encode bytes ∧
    Value.read? bytes = some (.object members) ∧ Claims.ofJson (.object members) = .ok c
  notBefore : ∀ t ∈ c.notBefore, t.seconds ≤ now.seconds
  notAfter : now.seconds ≤ c.expiresAt.seconds

/-- A token that is opened, bears its signature and holds claims of now is accepted. -/
theorem isAccepted_of_opened {text : List Char} {secret : Bytes} {now : Instant} {c : Claims}
    {s : Segments} (hopen : open? text = .ok (s, .hs512))
    (hmac : s.signature = mac secret s.message) {v : Value} (hv : payload? s.payload = .ok v)
    (hc : claimsAt v now = .ok c) : s.IsAccepted secret now c := by
  obtain ⟨-, header, hheader, halgorithm⟩ := open?_eq_ok_iff.mp hopen
  obtain ⟨payload, node, hpayload, hnode, hvalue, hpasses⟩ := payload?_eq_ok_iff.mp hv
  obtain ⟨w, hw, hcontains, hclaims⟩ := claimsAt_eq_ok_iff.mp hc
  obtain ⟨ms, rfl⟩ := eq_object_of_passes hpasses hvalue hw
  have hbounds : c.validity.contains now = true := by
    rw [Validity.ofJson_of_claims hclaims] at hw
    rw [Except.ok.inj hw]
    exact hcontains
  rw [Validity.contains, Bool.and_eq_true, decide_eq_true_eq] at hbounds
  refine ⟨⟨header, Base64Url.decode?_eq_some_iff.mp hheader, halgorithm⟩, hmac,
    ⟨payload, ms, Base64Url.decode?_eq_some_iff.mp hpayload, ?_, hclaims⟩, ?_, hbounds.2⟩
  · rw [Value.read?, hnode]
    exact hvalue
  · intro t ht
    have hnbf := hbounds.1
    rw [Claims.validity, Option.mem_def.mp ht] at hnbf
    exact of_decide_eq_true hnbf

/-- An accepted text is what its claims, its header and the secret make it : it ends in the
signature of what stands before its last dot, and no other text with the same first two segments
is accepted under the secret, at whatever instant. -/
theorem isAccepted_of_verify {text : List Char} {secret : Bytes} {now : Instant} {c : Claims}
    (h : verify text secret now = .ok c) :
    ∃ s : Segments, text = s.text ∧ '.' ∉ s.payload ∧ '.' ∉ s.signature ∧
      s.IsAccepted secret now c ∧
      ∀ (text' : List Char) (now' : Instant) (c' : Claims) (s' : Segments),
        verify text' secret now' = .ok c' → segments? text' = some s' →
          s'.header = s.header → s'.payload = s.payload → text' = text := by
  obtain ⟨s, hopen, hmac, v, hv, hc⟩ := verify_eq_ok_iff.mp h
  obtain ⟨htext, hpayload, hsignature⟩ := segments?_eq_some_iff.mp (open?_eq_ok_iff.mp hopen).1
  refine ⟨s, htext, hpayload, hsignature, isAccepted_of_opened hopen hmac hv hc, ?_⟩
  intro text' now' c' s' h' hs' hheader' hpayload'
  obtain ⟨s₂, hopen', hmac', -⟩ := verify_eq_ok_iff.mp h'
  have hs₂ := (open?_eq_ok_iff.mp hopen').1
  obtain rfl : s' = s₂ := Option.some.inj (hs'.symm.trans hs₂)
  have hmessage : s'.message = s.message := by
    rw [Segments.message, hheader', hpayload', Segments.message]
  rw [(segments?_eq_some_iff.mp hs₂).1, htext, Segments.text, Segments.text, hmac', hmac, hmessage]

theorem isAccepted_visit : verify (sign visit [7]) [7] ⟨30, 0⟩ = .ok visit ∧
    ∃ s : Segments, sign visit [7] = s.text ∧ s.IsAccepted [7] ⟨30, 0⟩ visit := by
  obtain ⟨s, htext, -, -, hs, -⟩ := isAccepted_of_verify verify_visit
  exact ⟨verify_visit, s, htext, hs⟩

end Gatehouse.Token
