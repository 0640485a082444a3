import Gatehouse.Bytes.Hex
import Gatehouse.Text.Printable

/-!
# Diagnostic text

How values appear in diagnostics: a string between quotes, with everything that would not
show or would end it behind a backslash (`quoted`), records with named fields (`record`,
`openRecord`), and lists (`listing`).
-/

namespace Gatehouse.Text

/-- The form of a character between quotes. -/
def escaped (c : Char) : List Char :=
  if c = '\x00' then ['\\', '0']
  else if c = '\t' then ['\\', 't']
  else if c = '\r' then ['\\', 'r']
  else if c = '\n' then ['\\', 'n']
  else if c = '\\' then ['\\', '\\']
  else if c = '"' then ['\\', '"']
  else if isExtending c || !isPrintable c then
    ['\\', 'u', '\x7b'] ++ Hex.ofNat c.toNat ++ ['\x7d']
  else [c]

/-- A string between quotes. -/
def quoted (s : String) : String :=
  String.ofList ('"' :: s.toList.flatMap escaped ++ ['"'])

/-- A name and, if there are fields, their names and texts between braces. -/
def record (name : String) (fields : List (String × String)) : String :=
  if fields.isEmpty then name
  else name ++ " \x7b " ++ ", ".intercalate (fields.map fun f => f.1 ++ ": " ++ f.2) ++ " \x7d"

/-- As `record`, for a record that has more fields than are shown. -/
def openRecord (name : String) (fields : List (String × String)) : String :=
  name ++ " \x7b " ++ String.join (fields.map fun f => f.1 ++ ": " ++ f.2 ++ ", ") ++ ".. \x7d"

/-- Texts between square brackets. -/
def listing (items : List String) : String :=
  "[" ++ ", ".intercalate items ++ "]"

end Gatehouse.Text
