import Gatehouse.Config.Error
import Gatehouse.Server.Error
import Gatehouse.Token.Error

/-!
# Why a program ends with an error

A failure is reported as a headline and the chain of its causes (`Failure.report`). A single
cause is indented, and more than one are numbered.
-/

namespace Gatehouse

/-- What ends a program with an error. -/
inductive Failure
  | config (e : ConfigError)
  | logging (e : ConfigError)
  | metrics (reason : String)
  | codec (e : TokenError)
  | server (e : ServerError)
deriving DecidableEq

/-- The error and what it comes from. -/
def ConfigError.chain (e : ConfigError) : List String :=
  e.message :: match e with
    | .source reason => [reason]
    | .missing _ | .invalid .. | .logging _ => []

/-- The error and what it comes from. -/
def ServerError.chain (e : ServerError) : List String :=
  e.message :: match e with
    | .bind _ reason | .serve reason => [reason]
    | .invalidRoute _ => []

namespace Failure

/-- The failure and its causes. -/
def chain : Failure → List String
  | .config e => "설정 로드 실패" :: e.chain
  | .logging e => "로깅 초기화 실패" :: e.chain
  | .metrics reason => ["메트릭 레코더 생성 실패", reason]
  | .codec e => ["토큰 코덱 생성 실패", e.message]
  | .server e => e.chain

/-- A text with `first` in front of its first line and `rest` in front of the others. -/
def indented (first rest text : String) : String :=
  first ++ ("\n" ++ rest).intercalate (text.splitOn "\n")

/-- A cause with its number, which takes five places. -/
def numbered (n : Nat) (text : String) : String :=
  let number := toString n
  indented (String.ofList (List.replicate (5 - number.length) ' ') ++ number ++ ": ")
    "       " text

/-- The causes, each on lines of its own. -/
def causes : List String → List String
  | [] => []
  | [text] => [indented "    " "    " text]
  | texts => texts.mapIdx numbered

/-- The report of a headline and its causes. -/
def reportOf : List String → String
  | [] => ""
  | headline :: texts =>
    "Error: " ++ headline ++
      if texts.isEmpty then "" else "\n\nCaused by:\n" ++ "\n".intercalate (causes texts)

/-- The report of a failure. -/
def report (f : Failure) : String :=
  reportOf f.chain

end Failure

end Gatehouse
