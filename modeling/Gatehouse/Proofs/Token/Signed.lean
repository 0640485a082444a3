import Gatehouse.Proofs.Bytes.Base64Url
import Gatehouse.Proofs.Token.Claims
import Gatehouse.Proofs.Token.Segments

/-!
# What a signed token says

The steps of `verify` one by one : what it takes to open a token (`open?_eq_ok_iff`), to find a
value in its payload (`payload?_eq_ok_iff`) and claims in the value (`claimsAt_eq_ok_iff`), and
that a text is accepted by these and its signature alone (`verify_eq_ok_iff`).

All of them succeed on what `sign` writes. A signed token says its claims, to the second, from the
one bound of their validity to the other, and is expired at every other instant (`verify_sign`).
-/

namespace Gatehouse

open Json (Node Value)

namespace Token

variable {text : List Char} {secret : Bytes} {now : Instant}

/-! ## The steps of reading -/

/-- A token is opened exactly if it has three segments and a header that can be read. -/
theorem open?_eq_ok_iff {s : Segments} {algorithm : Algorithm} :
    open? text = .ok (s, algorithm) ↔ segments? text = some s ∧
      ∃ bytes, Base64Url.decode? s.header = some bytes ∧ Header.read? bytes = some algorithm := by
  rw [open?]
  cases segments? text with
  | none => simp
  | some s' =>
    simp only
    constructor
    · intro h
      split at h
      · cases h
      · split at h
        · cases h
        · cases h
          exact ⟨rfl, _, ‹_›, ‹_›⟩
    · rintro ⟨hs, bytes, hbytes, halgorithm⟩
      obtain rfl := Option.some.inj hs
      simp [hbytes, halgorithm]

/-- A payload is a segment of bytes, which are a value, which passes. -/
theorem payload?_eq_ok_iff {segment : List Char} {v : Value} :
    payload? segment = .ok v ↔ ∃ bytes node, Base64Url.decode? segment = some bytes ∧
      Node.read? bytes = some node ∧ Value.ofNode? node = some v ∧
        Payload.passes node = true := by
  rw [payload?]
  constructor
  · intro h
    split at h
    · cases h
    · split at h
      · cases h
      · split at h
        · cases h
        · split at h
          · cases h
            exact ⟨_, _, ‹_›, ‹_›, ‹_›, ‹_›⟩
          · cases h
  · rintro ⟨bytes, node, hbytes, hnode, hv, hpasses⟩
    simp [hbytes, hnode, hv, hpasses]

/-- Claims are those of now exactly if now is in their window. -/
theorem claimsAt_eq_ok_iff {v : Value} {c : Claims} :
    claimsAt v now = .ok c ↔
      ∃ w, Validity.ofJson v = .ok w ∧ w.contains now = true ∧ Claims.ofJson v = .ok c := by
  rw [claimsAt]
  cases Validity.ofJson v with
  | error e => simp
  | ok w =>
    cases hw : w.contains now <;> cases Claims.ofJson v <;> simp [hw, Except.mapError]

/-- A token whose signature is right is read by its payload alone. -/
theorem verify_of_signature {s : Segments} (hopen : open? text = .ok (s, .hs512))
    (hmac : s.signature = mac secret s.message) :
    verify text secret now = payload? s.payload >>= fun v => claimsAt v now := by
  rw [verify, hopen]
  simp [bind, Except.bind, hmac]

/-- A token is accepted exactly if it is opened, bears its signature, and holds claims of now. -/
theorem verify_eq_ok_iff {c : Claims} :
    verify text secret now = .ok c ↔ ∃ s, open? text = .ok (s, .hs512) ∧
      s.signature = mac secret s.message ∧
        ∃ v, payload? s.payload = .ok v ∧ claimsAt v now = .ok c := by
  constructor
  · intro h
    obtain ⟨⟨s, algorithm⟩, hopen, hs⟩ := bind_eq_ok_iff.mp h
    -- Only a token that passes both tests goes on to its payload.
    by_cases halgorithm : algorithm = .hs512
    · subst halgorithm
      by_cases hmac : s.signature = mac secret s.message
      · rw [verify_of_signature hopen hmac] at h
        exact ⟨s, hopen, hmac, bind_eq_ok_iff.mp h⟩
      · simp [hmac, bind, Except.bind, throw, throwThe, MonadExceptOf.throw] at hs
    · simp [halgorithm, bind, Except.bind, throw, throwThe, MonadExceptOf.throw] at hs
  · rintro ⟨s, hopen, hmac, hpayload⟩
    rw [verify_of_signature hopen hmac]
    exact bind_eq_ok_iff.mpr hpayload

/-! ## What is written -/

/-- The values of a key are those of its members. -/
theorem valuesOf_memberNodes (key : String) (ms : List (String × Value)) :
    Header.valuesOf key (Value.memberNodes ms) =
      (ms.filter fun m => m.1 == key).map fun m => m.2.node := by
  simp [Header.valuesOf, Value.memberNodes_eq_map, List.filter_map, Function.comp_def,
    Json.text?_ofText]

/-- The header of an issued token names the algorithm by which it is signed. -/
theorem read?_issued : Header.read? (Utf8.encode Header.issued) = some .hs512 := by
  have hfits : Value.Fits 2 (.object [("typ", .string "JWT"), ("alg", .string "HS512")]) := by
    simp [Value.fits_object, Value.membersFit_cons, Value.membersFit_nil, Value.fits_string]
  have htext : Header.issued =
      Json.Printer.value (.object [("typ", .string "JWT"), ("alg", .string "HS512")]) := by
    decide
  have hstring : ∀ s : String, Header.variant? (Value.string s).node = some s := fun s => by
    rw [Value.node, Header.variant?, Json.text?_ofText]
  have htyp : Header.optional Header.isString (Value.string "JWT").node = true := by
    rw [Value.node, Header.optional, Header.isString, Header.string?, Json.text?_ofText]
    · rfl
    · rintro ⟨⟩
  -- The header is the text of a value, so what is read of it is known without reading it.
  rw [Header.read?, htext, Json.read?_written hfits]
  have hkeys : (Value.memberNodes [("typ", .string "JWT"), ("alg", .string "HS512")]).all
      (fun m => (Json.text? m.1).isSome) = true := by
    simp only [Value.memberNodes_eq_map, List.all_map, Function.comp_def, Json.text?_ofText]
    rfl
  simp only [Value.node, Header.ofMembers, hkeys, Header.optionalKeys, Header.atMostOne,
    valuesOf_memberNodes]
  simp [htyp, Header.algorithm?, hstring, Algorithm.names, List.lookup_cons]

/-- Claims in range are shallow and hold no number past 64 bits. -/
theorem fits_toJson {c : Claims} (h : c.InRange) : c.toJson.Fits Value.maxDepth := by
  obtain ⟨tokenId, issuer, issuedAt, notBefore, expiresAt, user⟩ := c
  have htime : ∀ t : Instant, Instant.inRange t.seconds = true → ∀ depth,
      (Value.int t.seconds).Fits depth := fun t ht depth =>
    Value.fits_int (Instant.fitsSigned_of_inRange ht)
  have hiat := htime issuedAt h.issuedAt
  have hexp := htime expiresAt h.expiresAt
  have huser : user.toJson.Fits 127 := by
    have hid : (Value.int user.id).Fits 126 := Value.fits_int h.id
    simp [User.toJson, Value.fits_object, Value.membersFit_cons, Value.membersFit_nil,
      Value.fits_string, Value.fits_bool, hid]
  cases notBefore with
  | none =>
    simp [Claims.toJson, Value.maxDepth, Value.fits_object, Value.membersFit_cons,
      Value.membersFit_nil, Value.fits_string, hiat, hexp, huser]
  | some t =>
    have hnbf := htime t (h.notBefore t rfl)
    simp [Claims.toJson, Value.maxDepth, Value.fits_object, Value.membersFit_cons,
      Value.membersFit_nil, Value.fits_string, hiat, hnbf, hexp, huser]

/-- Claims give each of the registered keys once, and nothing under them is a container. -/
theorem passes_node (c : Claims) : Payload.passes c.toJson.node = true := by
  obtain ⟨tokenId, issuer, issuedAt, notBefore, expiresAt, user⟩ := c
  cases notBefore <;>
    simp [Claims.toJson, Value.node, Value.memberNodes, Payload.passes, Payload.passesMembers,
      Payload.registered, Payload.isBound, List.lookup_cons, -String.reduceToList,
      Json.text?_ofText]

theorem payload?_toJson {c : Claims} (h : c.InRange) :
    payload? (Base64Url.encode (Utf8.encode (Json.Printer.value c.toJson))) =
      .ok c.toJson.sorted :=
  payload?_eq_ok_iff.mpr ⟨_, _, Base64Url.decode?_encode _, Json.read?_written (fits_toJson h),
    Json.ofNode_node _ _ (fits_toJson h), passes_node c⟩

/-- Claims that are signed are read back within their window, and outside of it have expired. -/
theorem claimsAt_sorted {c : Claims} (h : c.InRange) (t : Instant) :
    claimsAt c.toJson.sorted t =
      if c.validity.contains t = true then .ok c.floor else .error .expired := by
  have hclaims := Claims.ofJson_sorted h
  have hvalidity : Validity.ofJson c.toJson.sorted = .ok c.floor.validity := by
    rw [Claims.toJson, Value.sorted] at hclaims ⊢
    exact Validity.ofJson_of_claims hclaims
  have hfloor : c.floor.validity = c.validity := by
    simp [Claims.validity, Claims.floor, Function.comp_def, Instant.floor]
  rw [claimsAt, hvalidity, hclaims, hfloor]
  cases hw : c.validity.contains t <;> simp [hw, Except.mapError]

/-- The segments of the token that carries claims. -/
def signed (c : Claims) (secret : Bytes) : Segments :=
  let header := Base64Url.encode (Utf8.encode Header.issued)
  let payload := Base64Url.encode (Utf8.encode (Json.Printer.value c.toJson))
  ⟨header, payload, mac secret (header ++ '.' :: payload)⟩

theorem text_signed (c : Claims) (secret : Bytes) : (signed c secret).text = sign c secret := by
  simp only [signed, sign, Segments.text, Segments.message]

theorem signature_signed (c : Claims) (secret : Bytes) :
    (signed c secret).signature = mac secret (signed c secret).message := by
  simp only [signed, Segments.message]

/-- A token is printable, and nothing in it has to be escaped in a quoted text. -/
theorem printable_of_mem_sign {c : Claims} {secret : Bytes} {d : Char} (h : d ∈ sign c secret) :
    0x21 ≤ d.toNat ∧ d.toNat ≤ 0x7E ∧ d ≠ '"' ∧ d ≠ '\\' := by
  have hdot : 0x21 ≤ '.'.toNat ∧ '.'.toNat ≤ 0x7E ∧ '.' ≠ '"' ∧ '.' ≠ '\\' := by decide
  simp only [sign, mac, List.mem_append, List.mem_cons] at h
  rcases h with (h | rfl | h) | rfl | h
  · exact Base64Url.printable_of_mem_encode h
  · exact hdot
  · exact Base64Url.printable_of_mem_encode h
  · exact hdot
  · exact Base64Url.printable_of_mem_encode h

/-- A signed token is opened. -/
theorem open?_sign (c : Claims) (secret : Bytes) :
    open? (sign c secret) = .ok (signed c secret, .hs512) := by
  have hsegments : segments? (sign c secret) = some (signed c secret) :=
    segments?_eq_some_iff.mpr ⟨(text_signed c secret).symm, Base64Url.dot_not_mem_encode _,
      Base64Url.dot_not_mem_encode _⟩
  exact open?_eq_ok_iff.mpr ⟨hsegments, _, Base64Url.decode?_encode _, read?_issued⟩

/-- A signed token says its claims to the second while they are valid, and else is expired. -/
theorem verify_sign {c : Claims} (h : c.InRange) (secret : Bytes) (t : Instant) :
    verify (sign c secret) secret t =
      if c.validity.contains t = true then .ok c.floor else .error .expired := by
  have hpayload : payload? (signed c secret).payload = .ok c.toJson.sorted := payload?_toJson h
  rw [verify_of_signature (open?_sign c secret) (signature_signed c secret), hpayload]
  exact claimsAt_sorted h t

/-- The claims of a visitor in the first minute of 1970. -/
def visit : Claims where
  tokenId := "visit-1"
  issuer := "gatehouse"
  issuedAt := ⟨0, 0⟩
  notBefore := some ⟨0, 0⟩
  expiresAt := ⟨60, 0⟩
  user := { id := 1, name := "Visitor", email := "visitor@example.com", login := "visitor",
            isAdmin := false }

theorem inRange_visit : visit.InRange where
  id := by decide
  issuedAt := by decide
  notBefore := by
    rintro t ht
    obtain rfl := Option.some.inj ht
    decide
  expiresAt := by decide

theorem verify_visit : verify (sign visit [7]) [7] ⟨30, 0⟩ = .ok visit := by
  rw [verify_sign inRange_visit, if_pos (by decide)]
  rfl

end Token

end Gatehouse
