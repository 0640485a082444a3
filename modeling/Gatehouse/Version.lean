import Gatehouse.Json.Decode
import Gatehouse.Json.Printer

/-!
# Version information

What a service tells about the program it is, and its form as a JSON record.
-/

namespace Gatehouse

open Json (Value DecodeError)

/-- The description of a program. -/
structure ProgramInfo where
  app : String
  version : String
  repository : String := ""
  revision : String := ""
  buildStamp : String := ""
  authUrl : String := ""
deriving Repr, DecidableEq

namespace ProgramInfo

/-- The keys of the record, in order. -/
def keys : List String :=
  ["app", "version", "repository", "revision", "buildStamp", "authUrl"]

/-- The fields of the record. -/
def shape : List Json.Decode.Field :=
  keys.map fun key => ⟨key, Json.Decode.readable Json.Decode.string, true⟩

def toJson (i : ProgramInfo) : Value :=
  .object [("app", .string i.app), ("version", .string i.version),
    ("repository", .string i.repository), ("revision", .string i.revision),
    ("buildStamp", .string i.buildStamp), ("authUrl", .string i.authUrl)]

def ofJson (v : Value) : Except DecodeError ProgramInfo := do
  let ms ← Json.Decode.fields "AppInfo" shape v
  return {
    app := ← Json.Decode.string (Json.Decode.field "app" ms)
    version := ← Json.Decode.string (Json.Decode.field "version" ms)
    repository := ← Json.Decode.string (Json.Decode.field "repository" ms)
    revision := ← Json.Decode.string (Json.Decode.field "revision" ms)
    buildStamp := ← Json.Decode.string (Json.Decode.field "buildStamp" ms)
    authUrl := ← Json.Decode.string (Json.Decode.field "authUrl" ms) }

end ProgramInfo

end Gatehouse
