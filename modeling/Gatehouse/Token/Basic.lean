import Gatehouse.Bytes.Base64Url
import Gatehouse.Digest.Hmac
import Gatehouse.Token.Claims
import Gatehouse.Token.Error
import Gatehouse.Token.Header
import Gatehouse.Token.Payload

/-!
# Tokens

A token is three segments of base64url with dots between them: a header, the claims, and
the signature of the first two under a secret. `Token.issue` writes one for a user, valid
from an instant on for a number of minutes; the id of the token is given, as it is drawn at
random. `Token.verify` reads one at an instant. What it looks at, and in which order, is
`Token.verify`'s definition line by line; nothing of the payload is looked at before the
signature is found right.
-/

namespace Gatehouse.Token

open Json (Node Value)

/-! ## Segments -/

/-- What stands before the last dot and what stands behind it. -/
def cutLast? (text : List Char) : Option (List Char × List Char) :=
  match text.reverse.dropWhile (· != '.') with
  | [] => none
  | _ :: before => some (before.reverse, (text.reverse.takeWhile (· != '.')).reverse)

/-- The parts of a token. -/
structure Segments where
  header : List Char
  payload : List Char
  signature : List Char
deriving Repr, DecidableEq

/-- The text that is signed. -/
def Segments.message (s : Segments) : List Char :=
  s.header ++ '.' :: s.payload

/-- The text of the token. -/
def Segments.text (s : Segments) : List Char :=
  s.message ++ '.' :: s.signature

/-- The parts of a text, divided at its last two dots. -/
def segments? (text : List Char) : Option Segments := do
  let (message, signature) ← cutLast? text
  let (header, payload) ← cutLast? message
  return ⟨header, payload, signature⟩

/-- The signature of a text, as a segment. -/
def mac (secret : Bytes) (message : List Char) : List Char :=
  Base64Url.encode (Hmac.sign secret (Utf8.encode message))

/-! ## Issuing -/

/-- The instant at which a token issued at `now` expires. -/
def expiry (now : Instant) (minutes : Int) : Except TokenError Instant :=
  if minutes < 1 then .error (TokenError.tooShortLived minutes)
  else
    match now.addSeconds? (60 * minutes) with
    | some t => .ok t
    | none => .error (TokenError.tooLongLived minutes)

/-- The claims of a token issued at `now`. -/
def claims (user : User) (issuer : String) (minutes : Int) (now : Instant)
    (tokenId : String) : Except TokenError Claims := do
  let now := now.truncate
  let expiresAt ← expiry now minutes
  return { tokenId, issuer, issuedAt := now, notBefore := some now, expiresAt, user }

/-- The token that carries claims. -/
def sign (claims : Claims) (secret : Bytes) : List Char :=
  let payload := Base64Url.encode (Utf8.encode (Json.Printer.value claims.toJson))
  let message := Base64Url.encode (Utf8.encode Header.issued) ++ '.' :: payload
  message ++ '.' :: mac secret message

/-- A token for a user. -/
def issue (user : User) (issuer : String) (minutes : Int) (secret : Bytes)
    (now : Instant) (tokenId : String) : Except TokenError (List Char) :=
  if secret.isEmpty then .error TokenError.emptySecret
  else (claims user issuer minutes now tokenId).map fun c => sign c secret

/-! ## Verifying -/

/-- The parts of a token and the algorithm that its header names. -/
def open? (text : List Char) : Except TokenError (Segments × Algorithm) :=
  match segments? text with
  | none => .error TokenError.noSegments
  | some s =>
    match Base64Url.decode? s.header with
    | none => .error TokenError.badBase64
    | some bytes =>
      match Header.read? bytes with
      | none => .error TokenError.badHeader
      | some algorithm => .ok (s, algorithm)

/-- The value of a payload that is well formed and passes as written. -/
def payload? (segment : List Char) : Except TokenError Value :=
  match Base64Url.decode? segment with
  | none => .error TokenError.badBase64
  | some bytes =>
    match Node.read? bytes with
    | none => .error TokenError.badPayload
    | some node =>
      match Value.ofNode? node with
      | none => .error TokenError.badPayload
      | some value => if Payload.passes node then .ok value else .error TokenError.badPayload

/-- The claims of a payload at an instant: the bounds first, then all of them. -/
def claimsAt (payload : Value) (now : Instant) : Except TokenError Claims :=
  match Validity.ofJson payload with
  | .error e => .error (.claimsDecode e.message)
  | .ok validity =>
    if !validity.contains now then .error .expired
    else (Claims.ofJson payload).mapError fun e => .claimsDecode e.message

/-- The claims of a token that is signed with the secret and valid at an instant. -/
def verify (text : List Char) (secret : Bytes) (now : Instant) : Except TokenError Claims := do
  let (s, algorithm) ← open? text
  if algorithm ≠ .hs512 then throw .signature
  if s.signature ≠ mac secret s.message then throw .signature
  let payload ← payload? s.payload
  claimsAt payload now

end Gatehouse.Token
