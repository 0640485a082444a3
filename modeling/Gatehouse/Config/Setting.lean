import Gatehouse.Number.Notation
import Gatehouse.Text.Quoted

/-!
# Settings

A setting is a value from some source, before anyone has asked for it as a text or as a
number. Both questions convert (`Setting.text`, `Setting.int`): a truth value counts as one
or zero, words for truth values and decimal texts are numbers, a double is rounded, and
every scalar has a text. Tables, lists and nothing are neither, and the error says what was
found, what was expected, for which key, and from which origin.
-/

namespace Gatehouse

/-- A value of a source. Of a table only its being one matters, and whether it is empty. -/
inductive Setting
  | nothing
  | bool (b : Bool)
  | int (n : Int)
  | large (n : Nat)
  | float (x : Binary64)
  | text (s : String)
  | list
  | table (isEmpty : Bool)
deriving Repr, DecidableEq

/-- A setting that cannot be read as what it is asked for. -/
structure SettingError where
  found : String
  expected : String
  key : String
  origin : Option String
deriving Repr, DecidableEq

/-- The text of the error. -/
def SettingError.message (e : SettingError) : String :=
  "invalid type: " ++ e.found ++ ", expected " ++ e.expected ++ " for key `" ++ e.key ++ "`" ++
    match e.origin with
    | some origin => " in " ++ origin
    | none => ""

namespace Setting

/-- What an error calls a setting. -/
def found : Setting → String
  | .nothing => "unit value"
  | .bool b => "boolean `" ++ toString b ++ "`"
  | .int n => "64-bit integer `" ++ toString n ++ "`"
  | .large n => "64-bit unsigned integer `" ++ toString n ++ "`"
  | .float x => "floating point `" ++ Notation.plain x ++ "`"
  | .text s => "string " ++ Text.quoted s
  | .list => "sequence"
  | .table _ => "map"

/-- A setting as a text, if it is a scalar. -/
def text? : Setting → Option String
  | .bool b => some (toString b)
  | .int n => some (toString n)
  | .large n => some (toString n)
  | .float x => some (Notation.plain x)
  | .text s => some s
  | .nothing | .list | .table _ => none

/-- The number that a text stands for: a word for a truth value, or digits. -/
def intOfText? (s : String) : Option Int :=
  let lower := Notation.lower s.toList
  if lower ∈ ["true".toList, "on".toList, "yes".toList] then some 1
  else if lower ∈ ["false".toList, "off".toList, "no".toList] then some 0
  else Notation.int64? s.toList

/-- A setting as a whole number of 64 bits. -/
def int? : Setting → Option Int
  | .bool b => some (if b then 1 else 0)
  | .int n => some n
  | .float x => some (x.clamp Width.minSigned Width.maxSigned)
  | .text s => intOfText? s
  | .large _ | .nothing | .list | .table _ => none

/-- What is expected where a number is asked for. -/
def expectedInt : Setting → String
  | .large _ => "an signed 64 bit or less integer"
  | _ => "an integer"

/-- The setting of a text whose type is guessed: a truth value, a whole number, a double, or
else the text itself. -/
def guess (s : String) : Setting :=
  let lower := Notation.lower s.toList
  if lower = "true".toList then .bool true
  else if lower = "false".toList then .bool false
  else match Notation.int64? s.toList with
    | some n => .int n
    | none => match Notation.read? s.toList with
      | some x => .float x
      | none => .text s

end Setting

end Gatehouse
