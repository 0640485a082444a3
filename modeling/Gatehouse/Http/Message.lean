import Gatehouse.Http.Headers
import Gatehouse.Http.Status
import Gatehouse.Http.Target
import Gatehouse.Json.Printer

/-!
# Requests and responses

A response has a status, a form and a body, and may list the methods that would have been
answered. Its headers tell the length of the body (`Response.headers`), also in answer to
`HEAD`, where the body itself is left out (`Response.bodyFor`).
-/

namespace Gatehouse

/-- A request. The method is any token. -/
structure Request where
  method : String
  target : String
  headers : Headers
  body : Bytes
deriving Repr, DecidableEq

/-- The path that a request is for. -/
def Request.path (r : Request) : String :=
  String.ofList (Target.path r.target.toList)

/-- The form of a body. -/
inductive ContentType
  | text
  | json
  | html
  | exposition
deriving Repr, DecidableEq

/-- The name of a form. -/
def ContentType.name : ContentType → String
  | .text => "text/plain; charset=utf-8"
  | .json => "application/json"
  | .html => "text/html; charset=utf-8"
  | .exposition => "text/plain; version=0.0.4; charset=utf-8"

/-- A response. -/
structure Response where
  status : Status
  contentType : Option ContentType := none
  allow : Option String := none
  body : String := ""
deriving Repr, DecidableEq

namespace Response

/-- A response of nothing but a status. -/
def ofStatus (status : Status) : Response := { status }

def text (status : Status) (body : String) : Response :=
  { status, contentType := some .text, body }

def json (status : Status) (body : Json.Value) : Response :=
  { status, contentType := some .json, body := body.render }

def html (status : Status) (body : List Char) : Response :=
  { status, contentType := some .html, body := String.ofList body }

/-- The number of bytes of the body. -/
def size (r : Response) : Nat :=
  r.body.utf8ByteSize

/-- The headers of a response, in order of their names. -/
def headers (r : Response) : List (String × String) :=
  (r.allow.map fun a => ("allow", a)).toList ++
    [("content-length", toString r.size)] ++
    (r.contentType.map fun t => ("content-type", t.name)).toList

/-- What is sent of a body in answer to a method. -/
def bodyFor (r : Response) (method : String) : String :=
  if method = "HEAD" then "" else r.body

end Response

end Gatehouse
