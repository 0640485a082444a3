import Gatehouse.Http.Headers
import Gatehouse.Text.Blank

/-!
# The token of a request

A token comes in the header `Authorization`, or where that is absent or empty in
`Sec-WebSocket-Protocol`; `Bearer.value?` chooses. A value that is there counts, even if it
is blank or cannot be read, in which case its token is the empty text. Around the token
there may be blanks, and in front of it the word of a subprotocol and the word for the kind
of token, each once (`Bearer.token`).
-/

namespace Gatehouse.Bearer

/-- The text without `lead` at its front, if it is there. -/
def strip (lead text : List Char) : List Char :=
  if lead.isPrefixOf text then text.drop lead.length else text

/-- The value of a header, unless it is empty. -/
def nonEmpty? (headers : Headers) (name : String) : Option Bytes :=
  (headers.first? name).filter fun v => !v.isEmpty

/-- The value that holds the token. -/
def value? (headers : Headers) : Option Bytes :=
  nonEmpty? headers "Authorization" <|> nonEmpty? headers "Sec-WebSocket-Protocol"

/-- What stands in front of a token that comes as the name of a subprotocol. -/
def subprotocol : List Char := "Authorization, ".toList

/-- What stands in front of a token. -/
def scheme : List Char := "Bearer ".toList

/-- The token of a value. -/
def token (value : Bytes) : List Char :=
  let text := Text.Blank.trim ((Header.visible? value).getD [])
  Text.Blank.trim (strip scheme (strip subprotocol text))

/-- The token of a request, if it comes with any. -/
def extract (headers : Headers) : Option (List Char) :=
  (value? headers).map token

end Gatehouse.Bearer
