import Gatehouse.Net.Address

/-!
# Errors of a server

What ends the life of a server before it has begun, or refuses a route.
-/

namespace Gatehouse

/-- An error of a server. -/
inductive ServerError
  | bind (address : SocketAddress) (reason : String)
  | serve (reason : String)
  | invalidRoute (reason : String)
deriving DecidableEq

/-- The text of the error. -/
def ServerError.message : ServerError → String
  | .bind address reason => address.text ++ " 바인딩 실패: " ++ reason
  | .serve reason => "서버 실행 에러: " ++ reason
  | .invalidRoute reason => "잘못된 라우트 패턴: " ++ reason

end Gatehouse
