/-!
# Why a token is refused

`TokenError` tells apart what can go wrong on the way from a text to claims, in the order in
which it is looked at: the form of the text, its signature, the form of the payload's
bounds, the bounds themselves, and the rest of the claims. Issuing fails only by `signing`.
-/

namespace Gatehouse

/-- A token that cannot be issued or is not accepted. -/
inductive TokenError
  | signing (detail : String)
  | malformed (detail : String)
  | signature
  | expired
  | claimsDecode (detail : String)
deriving Repr, DecidableEq

namespace TokenError

/-- The short name of the kind of error. -/
def kind : TokenError → String
  | .signing _ => "signing"
  | .malformed _ => "malformed"
  | .signature => "signature"
  | .expired => "expired"
  | .claimsDecode _ => "claims_decode"

/-- The text of the error. -/
def message : TokenError → String
  | .signing detail => "토큰 서명 실패: " ++ detail
  | .malformed detail => "잘못된 토큰 형식: " ++ detail
  | .signature => "토큰 서명이 유효하지 않습니다"
  | .expired => "토큰 유효 기간이 아닙니다"
  | .claimsDecode detail => "토큰 클레임 디코딩 실패: " ++ detail

/-- A text without two dots. -/
def noSegments : TokenError := .malformed "InvalidToken"

/-- A segment that is not base64url. -/
def badBase64 : TokenError := .malformed "Base64 error"

/-- A header that is not one. -/
def badHeader : TokenError := .malformed "JSON error"

/-- A payload that is no JSON text, or does not pass as written. -/
def badPayload : TokenError := .claimsDecode "JSON error"

/-- A secret without a byte. -/
def emptySecret : TokenError := .signing "secret must not be empty"

/-- A life of less than a minute. -/
def tooShortLived (minutes : Int) : TokenError :=
  .signing ("token lifetime must be at least 1 minute (got " ++ toString minutes ++ ")")

/-- A life that ends past the last instant. -/
def tooLongLived (minutes : Int) : TokenError :=
  .signing ("token lifetime out of range: " ++ toString minutes)

end TokenError

end Gatehouse
