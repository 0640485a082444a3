import Gatehouse.Route.Verb
import Gatehouse.Server.Error
import Gatehouse.Text.Blank
import Gatehouse.Text.Quoted

/-!
# Route patterns

A pattern is a path, which stands for every method, or a verb and a path with white space
between them. White space around either is dropped, and a path begins with a slash.
-/

namespace Gatehouse

/-- What a route is registered under. -/
structure RoutePattern where
  verb : Option Verb
  path : String
deriving Repr, DecidableEq

namespace RoutePattern

/-- The error of a pattern with another method. -/
def unsupported (pattern : String) : ServerError :=
  .invalidRoute ("unsupported method in " ++ Text.quoted pattern)

/-- The error of a pattern whose path does not begin with a slash. -/
def notRooted (pattern : String) : ServerError :=
  .invalidRoute ("path must start with '/' in " ++ Text.quoted pattern)

/-- The pattern for a verb and a path, out of the trimmed text `whole`. -/
def rooted (whole : String) (verb : Option Verb) (path : List Char) :
    Except ServerError RoutePattern :=
  if path.head? = some '/' then .ok ⟨verb, String.ofList path⟩ else .error (notRooted whole)

/-- The pattern that a text stands for. -/
def ofString (text : String) : Except ServerError RoutePattern :=
  let whole := Text.trim text
  match Text.Blank.divide whole.toList with
  | none => rooted whole none whole.toList
  | some (method, path) =>
    match Verb.ofName? (String.ofList method) with
    | none => .error (unsupported whole)
    | some verb => rooted whole (some verb) (Text.Blank.trim path)

/-- The text of a pattern. -/
def text (p : RoutePattern) : String :=
  match p.verb with
  | some verb => verb.name ++ " " ++ p.path
  | none => p.path

end RoutePattern

end Gatehouse
