import Gatehouse.Auth.Administrator
import Gatehouse.Server.Lifecycle
import Gatehouse.Token.Codec
import Gatehouse.Version

/-!
# What handlers share

The parts of a server that its handlers look at. None of them is changed by a request.
-/

namespace Gatehouse

/-- What the handlers of a server know of it. `willing` is what the program around the
server says of its own readiness. -/
structure Service where
  appName : String
  codec : TokenCodec
  administrator : Administrator
  version : ProgramInfo
  willing : Bool := true
  lifecycle : Lifecycle := .running
  startedAt : Instant
deriving DecidableEq

namespace Service

/-- Whether requests should be sent here. -/
def isReady (s : Service) : Bool :=
  s.lifecycle == .running && s.willing

/-- The diagnostic text. -/
def debug (s : Service) : String :=
  Text.openRecord "AppState"
    [("app_name", Text.quoted s.appName), ("codec", s.codec.debug),
      ("lifecycle", s.lifecycle.name), ("started_at", s.startedAt.debug)]

end Service

end Gatehouse
