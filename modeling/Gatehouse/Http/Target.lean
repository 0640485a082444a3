/-!
# Request targets

The target of a request is a path with an optional query, a whole URI, an authority or a
star. `Target.path` is the part of it that selects a route, as it is written.
-/

namespace Gatehouse.Target

/-- The text up to a query or a fragment. -/
def beforeQuery (text : List Char) : List Char :=
  text.takeWhile fun c => c != '?' && c != '#'

/-- What stands behind `://`, if it is there. -/
def behindScheme? : List Char → Option (List Char)
  | [] => none
  | ':' :: '/' :: '/' :: rest => some rest
  | _ :: rest => behindScheme? rest

/-- The path of a target. A URI without one has the path of the root, and an authority has
none. -/
def path (target : List Char) : List Char :=
  match target with
  | '/' :: _ => beforeQuery target
  | ['*'] => target
  | _ =>
    match behindScheme? target with
    | none => []
    | some rest =>
      match beforeQuery (rest.dropWhile fun c => c != '/' && c != '?' && c != '#') with
      | [] => ['/']
      | path => path

end Gatehouse.Target
