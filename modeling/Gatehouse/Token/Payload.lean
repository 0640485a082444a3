import Gatehouse.Json.Value

/-!
# The payload of a token

A payload is looked at as written before its claims are read: the five registered keys may
be given only once (`Payload.passes`), a bound of the validity may be any value but a
container with something in it, and a subject any value but a container. An array of five
elements passes by the same rules, element by element.
-/

namespace Gatehouse.Payload

open Json (Node Piece)

/-- What may stand where a bound of the validity is looked for. -/
def isBound : Node → Bool
  | .array items => items.isEmpty
  | .object members => members.isEmpty
  | _ => true

/-- What may stand where a subject is looked for. -/
def isSubject : Node → Bool
  | .array _ | .object _ => false
  | _ => true

/-- The registered keys, with what may stand under them. -/
def registered : List (String × (Node → Bool)) :=
  [("exp", isBound), ("nbf", isBound), ("sub", isSubject), ("iss", fun _ => true),
    ("aud", fun _ => true)]

/-- Whether the members behind those of the keys `seen` pass. -/
def passesMembers : List String → List (List Piece × Node) → Bool
  | _, [] => true
  | seen, (key, v) :: rest =>
    match Json.text? key with
    | none => false
    | some key =>
      match registered.lookup key with
      | none => passesMembers seen rest
      | some test => !seen.contains key && test v && passesMembers (key :: seen) rest

/-- Whether a payload as written passes. -/
def passes : Node → Bool
  | .object members => passesMembers [] members
  | .array items =>
    items.length == registered.length && (registered.zip items).all fun (k, v) => k.2 v
  | _ => false

end Gatehouse.Payload
