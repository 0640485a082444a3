/-!
# Status codes

A response may have any code of three digits. Nine of them are those that the service itself
answers with; a handler of another program may choose any other.
-/

namespace Gatehouse

/-- The status of a response: a number of three digits. -/
structure Status where
  code : Nat
  inRange : 100 ≤ code ∧ code < 1000
deriving Repr, DecidableEq

namespace Status

def ok : Status := ⟨200, by decide⟩
def badRequest : Status := ⟨400, by decide⟩
def unauthorized : Status := ⟨401, by decide⟩
def forbidden : Status := ⟨403, by decide⟩
def notFound : Status := ⟨404, by decide⟩
def methodNotAllowed : Status := ⟨405, by decide⟩
def requestTimeout : Status := ⟨408, by decide⟩
def internalError : Status := ⟨500, by decide⟩
def unavailable : Status := ⟨503, by decide⟩

end Status

end Gatehouse
