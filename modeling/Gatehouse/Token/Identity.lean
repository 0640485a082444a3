import Gatehouse.Json.Decode
import Gatehouse.Json.Printer

/-!
# Who a token speaks for

The identity of an authenticated user, and its form as a JSON record.
-/

namespace Gatehouse

open Json (Value DecodeError)

/-- An authenticated user. -/
structure User where
  id : Int
  name : String
  email : String
  login : String
  isAdmin : Bool
deriving Repr, DecidableEq

namespace User

/-- The fields of the record. -/
def shape : List Json.Decode.Field :=
  [⟨"user_id", Json.Decode.readable Json.Decode.int, true⟩,
    ⟨"user_name", Json.Decode.readable Json.Decode.string, true⟩,
    ⟨"user_email", Json.Decode.readable Json.Decode.string, true⟩,
    ⟨"user_login", Json.Decode.readable Json.Decode.string, true⟩,
    ⟨"is_admin", Json.Decode.readable Json.Decode.bool, true⟩]

def toJson (u : User) : Value :=
  .object [("user_id", .int u.id), ("user_name", .string u.name), ("user_email", .string u.email),
    ("user_login", .string u.login), ("is_admin", .bool u.isAdmin)]

def ofJson (v : Value) : Except DecodeError User := do
  let ms ← Json.Decode.fields "UserIdentity" shape v
  return {
    id := ← Json.Decode.int (Json.Decode.field "user_id" ms)
    name := ← Json.Decode.string (Json.Decode.field "user_name" ms)
    email := ← Json.Decode.string (Json.Decode.field "user_email" ms)
    login := ← Json.Decode.string (Json.Decode.field "user_login" ms)
    isAdmin := ← Json.Decode.bool (Json.Decode.field "is_admin" ms) }

end User

end Gatehouse
