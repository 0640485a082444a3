import Gatehouse.Json.Value
import Gatehouse.Text.Quoted

/-!
# Reading values as data

Scalars and records out of JSON values, with the reason when one does not fit
(`DecodeError`). A record is an object with its fields as members, in any order and among
others, or an array with exactly its fields as elements (`Decode.fields`). Members are
looked at in the order of their keys, then the absent fields in the order of the record.
-/

namespace Gatehouse.Json

/-- Why a value is not what it is read as. -/
inductive DecodeError
  | wrongType (found expected : String)
  | wrongValue (found expected : String)
  | wrongLength (length : Nat) (expected : String)
  | missingField (key : String)
  | illegalTimestamp (seconds : Int)
deriving Repr, DecidableEq

/-- The text of the reason. -/
def DecodeError.message : DecodeError → String
  | .wrongType found expected => "invalid type: " ++ found ++ ", expected " ++ expected
  | .wrongValue found expected => "invalid value: " ++ found ++ ", expected " ++ expected
  | .wrongLength length expected =>
    "invalid length " ++ toString length ++ ", expected " ++ expected
  | .missingField key => "missing field `" ++ key ++ "`"
  | .illegalTimestamp seconds => "value is not a legal timestamp: " ++ toString seconds

namespace Decode

/-- What a reason calls a value. -/
def found : Value → String
  | .null => "null"
  | .bool b => "boolean `" ++ toString b ++ "`"
  | .int n => "integer `" ++ toString n ++ "`"
  | .float x => "floating point `" ++ Notation.marked x ++ "`"
  | .string s => "string " ++ Text.quoted s
  | .array _ => "sequence"
  | .object _ => "map"

/-! ## Scalars -/

def string : Value → Except DecodeError String
  | .string s => .ok s
  | v => .error (.wrongType (found v) "a string")

def bool : Value → Except DecodeError Bool
  | .bool b => .ok b
  | v => .error (.wrongType (found v) "a boolean")

/-- A whole number of 64 bits with a sign. -/
def int : Value → Except DecodeError Int
  | .int n => if Width.fitsSigned n then .ok n else .error (.wrongValue (found (.int n)) "i64")
  | v => .error (.wrongType (found v) "i64")

/-- A value that may be missing. -/
def optional {α : Type} (read : Value → Except DecodeError α) :
    Value → Except DecodeError (Option α)
  | .null => .ok none
  | v => (read v).map some

/-! ## Records -/

/-- A field of a record: its key, what its value has to be, and whether it may be absent. -/
structure Field where
  key : String
  check : Value → Except DecodeError Unit
  required : Bool := true

/-- A check that a value can be read. -/
def readable {α : Type} (read : Value → Except DecodeError α) (v : Value) :
    Except DecodeError Unit :=
  (read v).map fun _ => ()

/-- Every member that is a field holds what the field has to hold. -/
def checkMembers (shape : List Field) : List (String × Value) → Except DecodeError Unit
  | [] => .ok ()
  | (key, v) :: rest =>
    match shape.find? fun f => f.key == key with
    | some f => f.check v >>= fun _ => checkMembers shape rest
    | none => checkMembers shape rest

/-- Every field that may not be absent is a member. -/
def checkPresent (members : List (String × Value)) : List Field → Except DecodeError Unit
  | [] => .ok ()
  | f :: rest =>
    if f.required && (lookup f.key members).isNone then .error (.missingField f.key)
    else checkPresent members rest

/-- The fields of a record from its elements; `total` is their number in the record. -/
def ofElements (name : String) (total : Nat) :
    Nat → List Field → List Value → Except DecodeError (List (String × Value))
  | _, [], [] => .ok []
  | position, [], rest =>
    .error (.wrongLength (position + rest.length) "fewer elements in array")
  | position, f :: shape, [] =>
    if f.required then
      .error (.wrongLength position
        ("struct " ++ name ++ " with " ++ toString total ++ " elements"))
    else ofElements name total (position + 1) shape []
  | position, f :: shape, v :: rest => do
    f.check v
    let fields ← ofElements name total (position + 1) shape rest
    return (f.key, v) :: fields

/-- The fields of a record, by key. -/
def fields (name : String) (shape : List Field) : Value →
    Except DecodeError (List (String × Value))
  | .object members => do
    checkMembers shape members
    checkPresent members shape
    return members
  | .array items => ofElements name shape.length 0 shape items
  | v => .error (.wrongType (found v) ("struct " ++ name))

/-- The value of a field; nothing is null. -/
def field (key : String) (members : List (String × Value)) : Value :=
  (lookup key members).getD .null

end Decode

end Gatehouse.Json
