import Gatehouse.Json.Value

/-!
# The header of a token

The header says by which algorithm a token is signed. It is read from the JSON text as
written, not from its value: a key may not be given twice, the known keys must hold what
they are for, and what stands under any other key is not looked at, so it may nest to any
depth and need not be text. A header may also be the array of its ten fields.
-/

namespace Gatehouse

open Json (Node Piece)

/-- The signature algorithms that a header can name. -/
inductive Algorithm
  | hs256 | hs384 | hs512
  | es256 | es384
  | rs256 | rs384 | rs512
  | ps256 | ps384 | ps512
  | edDsa
deriving Repr, DecidableEq

namespace Algorithm

/-- The algorithms by name. -/
def names : List (String × Algorithm) :=
  [("HS256", .hs256), ("HS384", .hs384), ("HS512", .hs512), ("ES256", .es256),
    ("ES384", .es384), ("RS256", .rs256), ("RS384", .rs384), ("RS512", .rs512),
    ("PS256", .ps256), ("PS384", .ps384), ("PS512", .ps512), ("EdDSA", .edDsa)]

end Algorithm

namespace Header

/-- The text of a string. -/
def string? : Node → Option String
  | .string ps => Json.text? ps
  | _ => none

/-- The name of a variant without data: a string, or an object whose only key it is and
whose value is null. -/
def variant? : Node → Option String
  | .string ps => Json.text? ps
  | .object [(key, .null)] => Json.text? key
  | _ => none

def algorithm? (n : Node) : Option Algorithm :=
  variant? n >>= fun name => Algorithm.names.lookup name

/-! ## What the optional keys hold -/

/-- Nothing, or something that passes a test. -/
def optional (test : Node → Bool) : Node → Bool
  | .null => true
  | n => test n

def isString (n : Node) : Bool := (string? n).isSome

def isStringList : Node → Bool
  | .array xs => xs.all isString
  | _ => false

/-- The members under a key. -/
def valuesOf (key : String) (members : List (List Piece × Node)) : List Node :=
  (members.filter fun m => Json.text? m.1 == some key).map Prod.snd

/-- Whether a key is given at most once, with a value that passes a test. -/
def atMostOne (key : String) (test : Node → Bool) (members : List (List Piece × Node)) : Bool :=
  match valuesOf key members with
  | [] => true
  | [v] => test v
  | _ => false

/-- Whether a key is given once, with a value that passes a test. -/
def exactlyOne (key : String) (test : Node → Bool) (members : List (List Piece × Node)) : Bool :=
  match valuesOf key members with
  | [v] => test v
  | _ => false

def isVariant (names : List String) (n : Node) : Bool :=
  match variant? n with
  | some name => names.contains name
  | none => false

/-- The algorithms that a key can be for. -/
def keyAlgorithms : List String :=
  Algorithm.names.map Prod.fst ++ ["RSA1_5", "RSA-OAEP", "RSA-OAEP-256"]

def curves : List String := ["P-256", "P-384", "P-521", "Ed25519"]

/-- Whether members describe a key of one of the four types. -/
def isKeyMaterial (members : List (List Piece × Node)) : Bool :=
  let kty (name : String) := exactlyOne "kty" (isVariant [name]) members
  let part (key : String) := exactlyOne key isString members
  let curve := exactlyOne "crv" (isVariant curves) members
  (kty "EC" && curve && part "x" && part "y") ||
    (kty "RSA" && part "n" && part "e") ||
    (kty "oct" && part "k") ||
    (kty "OKP" && curve && part "x")

/-- Whether a value is an embedded key: JSON values throughout, the common parameters of their
types, and the material of a key. -/
def isKey (n : Node) : Bool :=
  match n with
  | .object members =>
    (Json.Value.ofNode (Json.Value.maxDepth - 1) n).isSome &&
      atMostOne "use" (optional isString) members &&
      atMostOne "key_ops" (optional isStringList) members &&
      atMostOne "alg" (optional (isVariant keyAlgorithms)) members &&
      atMostOne "kid" (optional isString) members &&
      atMostOne "x5u" (optional isString) members &&
      atMostOne "x5c" (optional isStringList) members &&
      atMostOne "x5t" (optional isString) members &&
      atMostOne "x5t#S256" (optional isString) members &&
      isKeyMaterial members
  | _ => false

/-- The optional keys, in the order of the fields, with their tests. -/
def optionalKeys : List (String × (Node → Bool)) :=
  [("typ", isString), ("cty", isString), ("jku", isString), ("jwk", isKey), ("kid", isString),
    ("x5u", isString), ("x5c", isStringList), ("x5t", isString), ("x5t#S256", isString)]

/-! ## Reading -/

/-- The algorithm of a header given by its members. -/
def ofMembers (members : List (List Piece × Node)) : Option Algorithm :=
  if members.all (fun m => (Json.text? m.1).isSome) &&
      optionalKeys.all (fun (key, test) => atMostOne key (optional test) members) then
    match valuesOf "alg" members with
    | [v] => algorithm? v
    | _ => none
  else none

/-- The algorithm of a header given by its fields. -/
def ofItems : List Node → Option Algorithm
  | typ :: alg :: rest =>
    if rest.length = 8 ∧
        ((optionalKeys.zip (typ :: rest)).all fun (k, v) => optional k.2 v) = true then
      algorithm? alg
    else none
  | _ => none

/-- The algorithm that a header names. -/
def read? (bytes : Bytes) : Option Algorithm :=
  match Node.read? bytes with
  | some (.object members) => ofMembers members
  | some (.array items) => ofItems items
  | _ => none

/-- The header of the tokens that this library issues. -/
def issued : List Char :=
  "\x7b\"typ\":\"JWT\",\"alg\":\"HS512\"\x7d".toList

end Header

end Gatehouse
