import Gatehouse.Config.Setting

/-!
# Sources of settings

A source is a list of entries, each with the setting it gives to a key. Keys can reach into
tables and lists (`Path`), which turns what stood there into a table or a list. Sources are
laid over one another with `Source.put`: a later entry wins, except that an empty table
changes nothing.
-/

namespace Gatehouse

/-- A setting and where it came from. -/
structure Entry where
  setting : Setting
  origin : Option String := none
deriving Repr, DecidableEq

/-- Settings by key. -/
abbrev Source := List (String × Entry)

namespace Source

/-- The entry of a key. -/
def get? (s : Source) (key : String) : Option Entry :=
  s.lookup key

/-- The source with a new entry for a key. -/
def set (s : Source) (key : String) (e : Entry) : Source :=
  (key, e) :: s.filter fun p => p.1 != key

/-- The source with an entry laid over it. A table merges with what stands at its key: one
without members only makes sure that something stands there. -/
def put (s : Source) (key : String) (e : Entry) : Source :=
  match e.setting with
  | .table isEmpty =>
    if isEmpty && (s.get? key).isSome then s else s.set key ⟨.table isEmpty, none⟩
  | _ => s.set key e

end Source

/-- A key as it is written: a name, and whether it reaches into a table or a list there. -/
inductive Path
  | name (key : String)
  | inTable (key : String)
  | inList (key : String)
deriving Repr, DecidableEq

namespace Path

/-- Characters of a name. -/
def isNameChar (c : Char) : Bool :=
  c.isAlphanum || c == ' ' || c == '_' || c == '-'

/-- The rest behind a number between brackets, of which the first is already read. -/
def subscript (text : List Char) : Option (List Char) :=
  let text := text.dropWhile (· == ' ')
  let text := match text with
    | '-' :: rest => rest
    | _ => text
  let digits := text.takeWhile Notation.isDigit
  match (text.dropWhile Notation.isDigit).dropWhile (· == ' ') with
  | ']' :: rest => if digits.isEmpty then none else some rest
  | _ => none

/-- Whether a text is a sequence of members and subscripts. -/
def isTail : Nat → List Char → Bool
  | _, [] => true
  | 0, _ => false
  | fuel + 1, '.' :: rest =>
    !(rest.takeWhile isNameChar).isEmpty && isTail fuel (rest.dropWhile isNameChar)
  | fuel + 1, '[' :: rest =>
    match subscript rest with
    | some rest => isTail fuel rest
    | none => false
  | _, _ => false

/-- The path of a key. What is no path is a name as it stands. -/
def ofString (s : String) : Path :=
  let text := s.toList
  let head := String.ofList (text.takeWhile isNameChar)
  let tail := text.dropWhile isNameChar
  if head.isEmpty || !isTail tail.length tail then .name s
  else match tail with
    | '.' :: _ => .inTable head
    | '[' :: _ => .inList head
    | _ => .name head

end Path

/-- The source with an entry laid over it at a path. -/
def Source.putAt (s : Source) (path : Path) (e : Entry) : Source :=
  match path with
  | .name key => s.put key e
  | .inTable key =>
    match s.get? key with
    | some ⟨.table _, origin⟩ => s.set key ⟨.table false, origin⟩
    | _ => s.set key ⟨.table false, none⟩
  | .inList key =>
    match s.get? key with
    | some ⟨.list, origin⟩ => s.set key ⟨.list, origin⟩
    | _ => s.set key ⟨.list, none⟩

end Gatehouse
