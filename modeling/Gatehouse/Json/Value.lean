import Gatehouse.Json.Node
import Gatehouse.Number.Notation

/-!
# JSON values

A value is what a written tree stands for (`Value.ofNode?`): strings are text, numbers are
whole numbers of 64 bits or doubles, and an object has each of its keys once, in the order
of their code points, with the value written last. Nesting ends at `maxDepth`.
-/

namespace Gatehouse.Json

/-- A JSON value. -/
inductive Value
  | null
  | bool (b : Bool)
  | int (n : Int)
  | float (x : Binary64)
  | string (s : String)
  | array (items : List Value)
  | object (members : List (String × Value))
deriving Repr

/-! ## Strings -/

/-- The character of a pair of code units. -/
def pairOf (high low : Nat) : Char :=
  Char.ofNat (0x10000 + (high - 0xD800) * 0x400 + (low - 0xDC00))

/-- The bytes of the pieces in UTF-8. A code unit of a pair must have its other half. -/
def bytesOfPieces : List Piece → Bytes → Option Bytes
  | [], done => some done.reverse
  | .byte b :: rest, done => bytesOfPieces rest (b :: done)
  | .escape c :: rest, done => bytesOfPieces rest ((String.utf8EncodeChar c).reverse ++ done)
  | .unit u :: rest, done =>
    if u < 0xD800 ∨ 0xDFFF < u then
      bytesOfPieces rest ((String.utf8EncodeChar (Char.ofNat u)).reverse ++ done)
    else if 0xDC00 ≤ u then none
    else
      match rest with
      | .unit v :: rest =>
        if 0xDC00 ≤ v ∧ v ≤ 0xDFFF then
          bytesOfPieces rest ((String.utf8EncodeChar (pairOf u v)).reverse ++ done)
        else none
      | _ => none

/-- The text of a string, if it is one. -/
def text? (pieces : List Piece) : Option String :=
  (bytesOfPieces pieces []).bind Utf8.toString?

/-! ## Numbers -/

/-- The greatest significand. -/
def maxSignificand : Nat := Width.maxUnsigned

/-- The digits that still fit into the significand, appended to it, and those that do not. -/
def absorb : Nat → List Char → Nat × List Char
  | significand, [] => (significand, [])
  | significand, d :: rest =>
    let next := significand * 10 + (d.toNat - 48)
    if next ≤ maxSignificand then absorb next rest else (significand, d :: rest)

/-- A significand times a power of ten, in double precision. Below `10 ^ -308` the power is
taken in two steps or more; past the greatest double there is no result. -/
def scale : Nat → Binary64 → Int → Option Binary64
  | 0, x, _ => some x
  | fuel + 1, x, exponent =>
    if exponent.natAbs ≤ 308 then
      let power := Binary64.ofNat (Nat.pow 10 exponent.natAbs)
      if 0 ≤ exponent then
        let y := x.mul power
        if y.isInfinite then none else some y
      else some (x.div power)
    else if x.isZero then some x
    else if 0 ≤ exponent then none
    else scale fuel (x.div (Binary64.ofNat (Nat.pow 10 308))) (exponent + 308)

/-- The greatest exponent that is counted out. -/
def maxWrittenExponent : Nat := 2147483647

/-- The double of a number that is no whole number of 64 bits. -/
def Numeral.float? (n : Numeral) : Option Binary64 :=
  let (whole, skipped) := absorb 0 n.whole
  let written := n.fraction.getD []
  let (significand, rest) := absorb whole written
  let shift : Int := skipped.length - (written.length - rest.length : Nat)
  let x :=
    match n.exponent with
    | none => scale 8 (Binary64.ofNat significand) shift
    | some (negative, digits) =>
      let e := Notation.ofDigits digits
      if maxWrittenExponent < e then
        if significand ≠ 0 ∧ !negative then none else some Binary64.zero
      else scale 8 (Binary64.ofNat significand) (shift + Binary64.signed negative e)
  x.map fun x => if n.negative then x.neg else x

/-- The value of a number. -/
def Numeral.value? (n : Numeral) : Option Value :=
  let whole := Notation.ofDigits n.whole
  if n.fraction.isNone ∧ n.exponent.isNone ∧ whole ≤ maxSignificand ∧
      (n.negative → whole ≠ 0 ∧ whole ≤ Width.minSigned.natAbs) then
    some (.int (Binary64.signed n.negative whole))
  else n.float?.map .float

/-! ## Objects -/

/-- The members with one more. A key has its place in the order, and its last value. -/
def insert (key : String) (x : Value) : List (String × Value) → List (String × Value)
  | [] => [(key, x)]
  | (k, y) :: rest =>
    if key = k then (key, x) :: rest
    else if key < k then (key, x) :: (k, y) :: rest
    else (k, y) :: insert key x rest

/-- The value of a key. -/
def lookup (key : String) (members : List (String × Value)) : Option Value :=
  (members.find? fun m => m.1 == key).map Prod.snd

namespace Value

/-- Containers may stand in one another to a depth below this. -/
def maxDepth : Nat := 128

mutual

/-- The value of a tree with containers to a depth below `depth`. -/
def ofNode (depth : Nat) : Node → Option Value
  | .null => some .null
  | .bool b => some (.bool b)
  | .number n => n.value?
  | .string ps => (text? ps).map .string
  | .array xs => if depth ≤ 1 then none else (ofItems (depth - 1) xs).map .array
  | .object ms =>
    if depth ≤ 1 then none
    else (ofMembers (depth - 1) ms []).map .object

/-- The values of the elements. -/
def ofItems (depth : Nat) : List Node → Option (List Value)
  | [] => some []
  | x :: rest =>
    match ofNode depth x, ofItems depth rest with
    | some v, some vs => some (v :: vs)
    | _, _ => none

/-- The members, put into those already read. -/
def ofMembers (depth : Nat) :
    List (List Piece × Node) → List (String × Value) → Option (List (String × Value))
  | [], done => some done
  | (key, x) :: rest, done =>
    match text? key, ofNode depth x with
    | some k, some v => ofMembers depth rest (insert k v done)
    | _, _ => none

end

/-- The value of a tree. -/
def ofNode? (node : Node) : Option Value :=
  ofNode maxDepth node

/-- The value of a document. -/
def read? (bytes : Bytes) : Option Value :=
  (Node.read? bytes).bind ofNode?

/-- The value of a document in a string. -/
def ofString? (s : String) : Option Value :=
  read? (Utf8.ofString s)

end Value

end Gatehouse.Json
