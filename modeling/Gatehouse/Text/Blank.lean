import Gatehouse.Text.Ranges

/-!
# White space

The characters with the property White_Space, and what is done with them: cutting them off
the ends of a text (`Blank.trim`) and dividing a text at the first of them
(`Blank.divide`).
-/

namespace Gatehouse.Text

/-- The code points of the property White_Space. -/
def blankTable : List (Nat × Nat) :=
  [(0x9, 0xD), (0x20, 0x20), (0x85, 0x85), (0xA0, 0xA0), (0x1680, 0x1680), (0x2000, 0x200A),
   (0x2028, 0x2029), (0x202F, 0x202F), (0x205F, 0x205F), (0x3000, 0x3000)]

/-- White space of any kind. -/
def isBlank (c : Char) : Bool :=
  inRanges blankTable c.toNat

namespace Blank

/-- The text without the white space in front of it. -/
def trimStart (text : List Char) : List Char :=
  text.dropWhile isBlank

/-- The text without the white space behind it. -/
def trimEnd (text : List Char) : List Char :=
  (text.reverse.dropWhile isBlank).reverse

/-- The text without the white space around it. -/
def trim (text : List Char) : List Char :=
  trimEnd (trimStart text)

/-- What stands before the first white space and what stands behind it, if there is any. -/
def divide (text : List Char) : Option (List Char × List Char) :=
  match text.dropWhile fun c => !isBlank c with
  | [] => none
  | _ :: rest => some (text.takeWhile fun c => !isBlank c, rest)

end Blank

/-- The string without the white space around it. -/
def trim (s : String) : String :=
  String.ofList (Blank.trim s.toList)

end Gatehouse.Text
