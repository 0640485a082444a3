/-!
# What can be wrong with a configuration

`ConfigError` tells a value that is missing from one that breaks a rule, from a source that
cannot be read, and from logging that cannot start. `ConfigError.key` names the setting to
blame, if it is one, and `ConfigError.message` is the text for people.
-/

namespace Gatehouse

/-- A configuration that cannot be used. -/
inductive ConfigError
  | missing (key : String)
  | invalid (key reason : String)
  | source (reason : String)
  | logging (reason : String)
deriving Repr, DecidableEq

namespace ConfigError

/-- The setting to blame, by its environment-style name. -/
def key : ConfigError → Option String
  | .missing key | .invalid key _ => some key
  | .source _ | .logging _ => none

/-- The text of the error. -/
def message : ConfigError → String
  | .missing key => "필수 설정값이 없습니다: " ++ key
  | .invalid key reason => "잘못된 설정값 " ++ key ++ ": " ++ reason
  | .source reason => "설정 소스 에러: " ++ reason
  | .logging reason => "로깅 초기화 실패: " ++ reason

end ConfigError

/-- The reason for a text that has `count` characters where `least` are needed. -/
def tooShort (least count : Nat) : String :=
  "should contain at least " ++ toString least ++ " characters (got " ++ toString count ++ ")"

end Gatehouse
