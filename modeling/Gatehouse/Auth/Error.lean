import Gatehouse.Http.Status
import Gatehouse.Token.Error

/-!
# Why a request is refused

`AuthError` holds the cause, for the log (`AuthError.message`); a client sees only the status
and a fixed text (`AuthError.publicMessage`), the same for every token that is not accepted
and the same for every login that fails.
-/

namespace Gatehouse

/-- A request without the authority for what it asks. -/
inductive AuthError
  | missingAuthorization
  | invalidToken (cause : TokenError)
  | invalidCredentials
  | forbidden (reason : String)
  | unknownUser (login : String)
  | missingIdentity
deriving Repr, DecidableEq

namespace AuthError

/-- The status of the response. -/
def status : AuthError → Status
  | .missingAuthorization => .badRequest
  | .invalidToken _ | .invalidCredentials | .unknownUser _ => .unauthorized
  | .forbidden _ => .forbidden
  | .missingIdentity => .internalError

/-- What the client is told. -/
def publicMessage : AuthError → String
  | .missingAuthorization => "Authorization header missing"
  | .invalidToken _ => "Invalid token"
  | .invalidCredentials | .unknownUser _ => "Invalid credentials"
  | .forbidden reason => reason
  | .missingIdentity => "Internal server error"

/-- What the log is told. -/
def message : AuthError → String
  | .missingAuthorization => "Authorization 헤더가 없습니다"
  | .invalidToken cause => "유효하지 않은 토큰: " ++ cause.message
  | .invalidCredentials => "잘못된 자격증명"
  | .forbidden reason => "권한이 부족합니다: " ++ reason
  | .unknownUser login => "알 수 없는 사용자: " ++ login
  | .missingIdentity => "요청에 인증 정보가 없습니다"

/-- The refusal of a user who is no administrator. -/
def notAdmin : AuthError := .forbidden "User is not admin"

end AuthError

end Gatehouse
