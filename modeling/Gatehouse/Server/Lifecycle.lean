/-!
# The life of a server

A server runs, then shuts down, then has stopped. It only goes forward
(`Lifecycle.advance`): a step that would lead back, or nowhere, is passed over.
-/

namespace Gatehouse

/-- Where a server is in its life. -/
inductive Lifecycle
  | running
  | shuttingDown
  | stopped
deriving Repr, DecidableEq

namespace Lifecycle

def name : Lifecycle → String
  | .running => "Running"
  | .shuttingDown => "ShuttingDown"
  | .stopped => "Stopped"

/-- Whether a state lies ahead of another. -/
def isAhead (next current : Lifecycle) : Bool :=
  match current, next with
  | .running, .shuttingDown | .running, .stopped | .shuttingDown, .stopped => true
  | _, _ => false

/-- The state after a step to `next`. -/
def advance (current next : Lifecycle) : Lifecycle :=
  if next.isAhead current then next else current

end Lifecycle

end Gatehouse
