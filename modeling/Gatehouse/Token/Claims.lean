import Gatehouse.Time.Instant
import Gatehouse.Token.Identity

/-!
# The claims of a token

What a token says: its own id, its issuer, when it was issued and from when to when it is
valid, and whom it speaks for. `Validity` is the part of the claims that is looked at
before the rest: the same two bounds, in whole seconds. Both have their form as JSON
records; in the claims the lower bound is left out when there is none.
-/

namespace Gatehouse

open Json (Value DecodeError)

/-- The claims of a token. -/
structure Claims where
  tokenId : String
  issuer : String
  issuedAt : Instant
  notBefore : Option Instant
  expiresAt : Instant
  user : User
deriving Repr, DecidableEq

namespace Claims

/-- Whether an instant lies between the bounds, both included. -/
def isValidAt (c : Claims) (now : Instant) : Bool :=
  (match c.notBefore with
    | some t => decide (t ≤ now)
    | none => true) && decide (now ≤ c.expiresAt)

def isAdmin (c : Claims) : Bool := c.user.isAdmin

/-- A number of seconds as an instant. -/
def timestamp : Value → Except DecodeError Instant
  | .int n =>
    match Instant.ofSeconds? n with
    | some t => .ok t
    | none => .error (.illegalTimestamp n)
  | v => .error (.wrongType (Json.Decode.found v) "a unix timestamp in seconds")

/-- The fields of the record. -/
def shape : List Json.Decode.Field :=
  [⟨"jti", Json.Decode.readable Json.Decode.string, true⟩,
    ⟨"iss", Json.Decode.readable Json.Decode.string, true⟩,
    ⟨"iat", Json.Decode.readable timestamp, true⟩,
    ⟨"nbf", Json.Decode.readable (Json.Decode.optional timestamp), false⟩,
    ⟨"exp", Json.Decode.readable timestamp, true⟩,
    ⟨"User", Json.Decode.readable User.ofJson, true⟩]

def toJson (c : Claims) : Value :=
  .object ([("jti", .string c.tokenId), ("iss", .string c.issuer),
    ("iat", .int c.issuedAt.seconds)] ++
    (match c.notBefore with
      | some t => [("nbf", .int t.seconds)]
      | none => []) ++
    [("exp", .int c.expiresAt.seconds), ("User", c.user.toJson)])

def ofJson (v : Value) : Except DecodeError Claims := do
  let ms ← Json.Decode.fields "Claims" shape v
  return {
    tokenId := ← Json.Decode.string (Json.Decode.field "jti" ms)
    issuer := ← Json.Decode.string (Json.Decode.field "iss" ms)
    issuedAt := ← timestamp (Json.Decode.field "iat" ms)
    notBefore := ← Json.Decode.optional timestamp (Json.Decode.field "nbf" ms)
    expiresAt := ← timestamp (Json.Decode.field "exp" ms)
    user := ← User.ofJson (Json.Decode.field "User" ms) }

end Claims

/-- The bounds of the validity of a token, in seconds. -/
structure Validity where
  notBefore : Option Int
  expires : Int
deriving Repr, DecidableEq

namespace Validity

/-- Whether the second of an instant lies between the bounds, both included. -/
def contains (w : Validity) (now : Instant) : Bool :=
  (match w.notBefore with
    | some t => decide (t ≤ now.seconds)
    | none => true) && decide (now.seconds ≤ w.expires)

/-- The fields of the record. -/
def shape : List Json.Decode.Field :=
  [⟨"nbf", Json.Decode.readable (Json.Decode.optional Json.Decode.int), false⟩,
    ⟨"exp", Json.Decode.readable Json.Decode.int, true⟩]

def ofJson (v : Value) : Except DecodeError Validity := do
  let ms ← Json.Decode.fields "RegisteredClaims" shape v
  return {
    notBefore := ← Json.Decode.optional Json.Decode.int (Json.Decode.field "nbf" ms)
    expires := ← Json.Decode.int (Json.Decode.field "exp" ms) }

end Validity

end Gatehouse
