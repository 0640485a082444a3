import Gatehouse.Bytes.Utf8
import Gatehouse.Number.Notation

/-!
# Header lists

The headers of a request in the order in which they came. A name stands for itself in any
case of its ASCII letters; `Headers.first?` is the value of the first header of a name, and
`visible?` the text of a value that is made of printable ASCII and tabs.
`Headers.contentLength?` is the length that a request claims for its body.
-/

namespace Gatehouse

/-- A header of a request. -/
structure Header where
  name : String
  value : Bytes
deriving Repr, DecidableEq

/-- The headers of a request, in order. -/
abbrev Headers := List Header

namespace Header

/-- Whether two names are the same but for case. -/
def sameName (a b : String) : Bool :=
  a.toList.map Char.toLower == b.toList.map Char.toLower

/-- A tab, or printable ASCII. -/
def isVisible (b : UInt8) : Bool :=
  b == 0x09 || (0x20 ≤ b && b ≤ 0x7E)

/-- The text of a value, if it is visible throughout. -/
def visible? (value : Bytes) : Option (List Char) :=
  if value.all isVisible then some (value.map fun b => Char.ofNat b.toNat) else none

end Header

namespace Headers

/-- The value of the first header of a name. -/
def first? (headers : Headers) (name : String) : Option Bytes :=
  (headers.find? fun h => Header.sameName h.name name).map Header.value

/-- The visible text of the first header of a name. -/
def text? (headers : Headers) (name : String) : Option (List Char) :=
  headers.first? name >>= Header.visible?

/-- The greatest number of bytes that a body can have. -/
def maxLength : Nat := Width.maxUnsigned

/-- The number of a text of digits, which may have a plus in front. -/
def count? (text : List Char) : Option Nat :=
  let digits := match text with
    | '+' :: digits => digits
    | digits => digits
  if digits.isEmpty || !digits.all Char.isDigit then none
  else some (Notation.ofDigits digits)

/-- The length of the body by the first header that tells it. -/
def contentLength? (headers : Headers) : Option Nat :=
  (headers.text? "Content-Length" >>= count?).filter fun n => n ≤ maxLength

end Headers

end Gatehouse
