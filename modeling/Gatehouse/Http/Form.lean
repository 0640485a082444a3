import Gatehouse.Bytes.Hex
import Gatehouse.Http.Message

/-!
# Form bodies

A form is a list of names and values in the urlencoded notation: pairs with `&` between
them, a name and its value divided by the first `=`, a space written as a plus and any byte
as a percent sign with two hexadecimal digits (`Form.pairs`). Everything can be read: a
percent sign without digits stands for itself, and bytes that are no text become U+FFFD. A
request carries a form if it says so in its type and its body is not too long
(`Form.ofRequest`).
-/

namespace Gatehouse

/-- A request whose body is not taken as the form that was asked for. -/
inductive FormError
  | contentType
  | tooLong
  | duplicate (name : String)
deriving Repr, DecidableEq

/-- What the log is told. -/
def FormError.message : FormError → String
  | .contentType =>
    "Form requests must have \x60Content-Type: application/x-www-form-urlencoded\x60"
  | .tooLong => "Failed to buffer the request body: length limit exceeded"
  | .duplicate name =>
    "Failed to deserialize form body: duplicate field \x60" ++ name ++ "\x60"

namespace Form

/-! ## Reading -/

/-- The byte of two hexadecimal digits. -/
def byte? (high low : UInt8) : Option UInt8 := do
  let h ← Hex.value? (Char.ofNat high.toNat)
  let l ← Hex.value? (Char.ofNat low.toNat)
  return UInt8.ofNat (h * 16 + l)

/-- The bytes that are written, behind those already read, last one first. -/
def decodeFrom : Bytes → Bytes → Bytes
  | [], read => read.reverse
  | b :: bytes, read =>
    if b = 0x25 then
      match bytes with
      | h :: l :: rest =>
        match byte? h l with
        | some c => decodeFrom rest (c :: read)
        | none => decodeFrom (h :: l :: rest) (b :: read)
      | rest => decodeFrom rest (b :: read)
    else decodeFrom bytes ((if b = 0x2B then 0x20 else b) :: read)

/-- The text of a name or a value. -/
def text (written : Bytes) : String :=
  String.ofList (Utf8.decodeLossy (decodeFrom written []))

/-- The pieces between separators. `piece` is what has been read of the next one, last byte
first, and `done` the ones before it, last one first. -/
def piecesFrom (separator : UInt8) : Bytes → Bytes → List Bytes → List Bytes
  | [], piece, done => (piece.reverse :: done).reverse
  | b :: bytes, piece, done =>
    if b = separator then piecesFrom separator bytes [] (piece.reverse :: done)
    else piecesFrom separator bytes (b :: piece) done

/-- The name and the value of a pair. Without a `=` the value is empty. -/
def pair (piece : Bytes) : String × String :=
  (text (piece.takeWhile (· != 0x3D)), text ((piece.dropWhile (· != 0x3D)).drop 1))

/-- The names and values of a form, in order. -/
def pairs (body : Bytes) : List (String × String) :=
  ((piecesFrom 0x26 body [] []).filter fun p => !p.isEmpty).map pair

/-! ## Requests -/

/-- The type of a form. -/
def contentType : List Char := "application/x-www-form-urlencoded".toList

/-- The most bytes of a form. -/
def maxBytes : Nat := 2097152

/-- The names and values that a request carries. -/
def ofRequest (r : Request) : Except FormError (List (String × String)) :=
  match r.headers.text? "Content-Type" with
  | none => .error .contentType
  | some t =>
    if !contentType.isPrefixOf t then .error .contentType
    else if maxBytes < r.body.length then .error .tooLong
    else .ok (pairs r.body)

end Form

/-- What a client sends to log in: a name and the digest of a password. -/
structure Credentials where
  login : String
  hashed : String
deriving Repr, DecidableEq

namespace Credentials

/-- The credentials out of names and values, besides what has been found. Neither may come
twice, one that does not come is empty, and other names do not matter. -/
def collect : Option String → Option String → List (String × String) →
    Except FormError Credentials
  | login, hashed, [] => .ok ⟨login.getD "", hashed.getD ""⟩
  | login, hashed, (name, value) :: rest =>
    if name = "login" then
      if login.isSome then .error (.duplicate name) else collect (some value) hashed rest
    else if name = "hashed" then
      if hashed.isSome then .error (.duplicate name) else collect login (some value) rest
    else collect login hashed rest

/-- The credentials that a request carries. -/
def ofRequest (r : Request) : Except FormError Credentials :=
  Form.ofRequest r >>= collect none none

end Credentials

end Gatehouse
