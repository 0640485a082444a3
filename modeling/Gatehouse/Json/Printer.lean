import Gatehouse.Json.Value

/-!
# Writing JSON

The compact form of a value, members in the order in which the value holds them. In a
string only the quote, the backslash and the control characters below U+0020 are written
behind a backslash, five of them by a letter (`Printer.escape`).
-/

namespace Gatehouse.Json

namespace Printer

/-- The form of a character in a string. -/
def escape (c : Char) : List Char :=
  if c = '"' then ['\\', '"']
  else if c = '\\' then ['\\', '\\']
  else if c = '\x08' then ['\\', 'b']
  else if c = '\x0c' then ['\\', 'f']
  else if c = '\n' then ['\\', 'n']
  else if c = '\r' then ['\\', 'r']
  else if c = '\t' then ['\\', 't']
  else if c.toNat < 0x20 then
    ['\\', 'u', '0', '0', Hex.digit (c.toNat / 16), Hex.digit (c.toNat % 16)]
  else [c]

/-- A string between quotes. -/
def string (s : String) : List Char :=
  '"' :: s.toList.flatMap escape ++ ['"']

/-- Texts with commas between them. -/
def commas : List (List Char) → List Char
  | [] => []
  | [x] => x
  | x :: rest => x ++ ',' :: commas rest

mutual

/-- The characters of a value. -/
def value : Value → List Char
  | .null => ['n', 'u', 'l', 'l']
  | .bool b => if b then ['t', 'r', 'u', 'e'] else ['f', 'a', 'l', 's', 'e']
  | .int n => Notation.int n
  | .float x => match x with
    | .finite .. => (Notation.marked x).toList
    | _ => ['n', 'u', 'l', 'l']
  | .string s => string s
  | .array xs => '[' :: commas (items xs) ++ [']']
  | .object ms => '\x7b' :: commas (members ms) ++ ['\x7d']

def items : List Value → List (List Char)
  | [] => []
  | x :: rest => value x :: items rest

def members : List (String × Value) → List (List Char)
  | [] => []
  | (k, x) :: rest => (string k ++ ':' :: value x) :: members rest

end

end Printer

/-- The compact text of a value. -/
def Value.render (x : Value) : String :=
  String.ofList (Printer.value x)

end Gatehouse.Json
