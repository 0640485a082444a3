/-!
# Verbs

The methods that a route can be registered for. A request may come with any other method.
-/

namespace Gatehouse

/-- A method that routes are registered for. -/
inductive Verb
  | get
  | head
  | post
  | put
  | delete
  | patch
  | options
  | trace
deriving Repr, DecidableEq

namespace Verb

/-- Every verb. -/
def all : List Verb :=
  [.get, .head, .post, .put, .delete, .patch, .options, .trace]

theorem mem_all (v : Verb) : v ∈ all := by
  cases v <;> decide

/-- The method token. -/
def name : Verb → String
  | .get => "GET"
  | .head => "HEAD"
  | .post => "POST"
  | .put => "PUT"
  | .delete => "DELETE"
  | .patch => "PATCH"
  | .options => "OPTIONS"
  | .trace => "TRACE"

/-- The verb of a method token, which has to be in upper case. -/
def ofName? (token : String) : Option Verb :=
  all.find? fun v => v.name == token

theorem ofName?_name (v : Verb) : ofName? v.name = some v := by
  cases v <;> decide

end Verb

end Gatehouse
