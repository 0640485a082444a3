import Gatehouse.Text.Blank
import Gatehouse.Text.Letter

/-!
# Files of variables

A file of variables holds one assignment a line, with comments, an optional `export`, single
and double quotes that may span lines, escapes, and references to variables. Reading stops
at the first line that is not well formed; the assignments before it count. The first
assignment to a name wins, and a variable that is already set is not changed
(`DotEnv.load`).
-/

namespace Gatehouse

/-- Variables by name. -/
abbrev Variables := List (String × String)

namespace DotEnv

/-! ## Logical lines -/

/-- Where a line stands with respect to quotes and escapes. -/
inductive Standing
  | plain
  | blank
  | escape
  | single
  | double
  | doubleEscape
deriving Repr, DecidableEq

/-- Where a line stands after one more character; nothing at the start of a comment. -/
def Standing.next : Standing → Char → Option Standing
  | .blank, c =>
    if c = '#' then none
    else if c = '\\' then some .escape
    else if c = '"' then some .double
    else if c = '\x27' then some .single
    else some .plain
  | .escape, _ => some .plain
  | .plain, c =>
    if Text.isBlank c && c != '\n' && c != '\r' then some .blank
    else if c = '\\' then some .escape
    else if c = '"' then some .double
    else if c = '\x27' then some .single
    else some .plain
  | .double, c =>
    if c = '\\' then some .doubleEscape else if c = '"' then some .plain else some .double
  | .doubleEscape, _ => some .double
  | .single, c => if c = '\x27' then some .plain else some .single

/-- Where a line stands at its end, or the characters of it before a comment. -/
def scan : Standing → List Char → List Char → Standing ⊕ List Char
  | s, [], _ => .inl s
  | s, c :: rest, done =>
    match s.next c with
    | some s => scan s rest (c :: done)
    | none => .inr done.reverse

/-- The physical lines, each with the character that ends it. -/
def physicalLines : List Char → List Char → List (List Char)
  | [], [] => []
  | [], line => [line.reverse]
  | '\n' :: rest, line => ('\n' :: line).reverse :: physicalLines rest []
  | c :: rest, line => physicalLines rest (c :: line)

/-- The line without the characters that end it. -/
def dropEnd (line : List Char) : List Char :=
  match line.reverse with
  | '\n' :: '\r' :: rest => rest.reverse
  | '\n' :: rest => rest.reverse
  | _ => line

/-- The logical lines from here on; nothing for one that does not end. -/
def logicalLines : Standing → List Char → List (List Char) → List (Option (List Char))
  | s, _, [] => if s = .plain then [] else [none]
  | s, open_, line :: rest =>
    if (Text.Blank.trimStart (open_ ++ line)).head? == some '#' then
      some [] :: logicalLines .plain [] rest
    else match scan s line [] with
      | .inl .plain => some (dropEnd (open_ ++ line)) :: logicalLines .plain [] rest
      | .inr before => some (open_ ++ before) :: logicalLines .plain [] rest
      | .inl s => logicalLines s (open_ ++ line) rest

/-! ## Values -/

/-- How a reference to a variable is being read. -/
inductive Reference
  | none
  | bare
  | braced
deriving Repr, DecidableEq

/-- A value that is being read. -/
structure Reading where
  single : Bool := false
  double : Bool := false
  escaped : Bool := false
  ending : Bool := false
  reference : Reference := .none
  name : List Char := []
  output : List Char := []

/-- The value of a variable: from the environment, or else from the file. -/
def resolve (environment file : Variables) (name : List Char) : List Char :=
  let name := String.ofList name
  match environment.lookup name with
  | some value => value.toList
  | none => ((file.lookup name).getD "").toList

/-- The value with the variable of the reference behind it. -/
def Reading.close (r : Reading) (look : List Char → List Char) : Reading :=
  { r with output := r.output ++ look r.name, name := [] }

/-- The reading after one more character: a fault, the start of a comment, or more. -/
def Reading.next (r : Reading) (look : List Char → List Char) (c : Char) :
    Option (Option Reading) :=
  let push (r : Reading) : Reading := { r with output := r.output ++ [c] }
  if r.ending then
    if c = ' ' ∨ c = '\t' then some (some r) else if c = '#' then some none else none
  else if r.escaped then
    if c ∈ ['\\', '\x27', '"', '$', ' '] then some (some (push { r with escaped := false }))
    else if c = 'n' then
      some (some { r with escaped := false, output := r.output ++ ['\n'] })
    else none
  else if r.single then
    if c = '\x27' then some (some { r with single := false }) else some (some (push r))
  else match r.reference with
    | .bare =>
      if Text.isAlphanumeric c then some (some { r with name := r.name ++ [c] })
      else if c = '\x7b' ∧ r.name.isEmpty then some (some { r with reference := .braced })
      else if c = '$' then some (some (r.close look))
      else some (some (push { r.close look with reference := .none }))
    | .braced =>
      if c = '\x7d' then some (some { r.close look with reference := .none })
      else some (some { r with name := r.name ++ [c] })
    | .none =>
      if c = '$' then some (some { r with reference := .bare })
      else if r.double then
        if c = '"' then some (some { r with double := false })
        else if c = '\\' then some (some { r with escaped := true })
        else some (some (push r))
      else if c = '\x27' then some (some { r with single := true })
      else if c = '"' then some (some { r with double := true })
      else if c = '\\' then some (some { r with escaped := true })
      else if c = ' ' ∨ c = '\t' then some (some { r with ending := true })
      else some (some (push r))

/-- The value of a reading at its end. -/
def Reading.finish (r : Reading) (look : List Char → List Char) : Option (List Char) :=
  if r.reference = .braced ∨ r.single ∨ r.double then none else some (r.close look).output

/-- The value that a text stands for. -/
def value (look : List Char → List Char) : Reading → List Char → Option (List Char)
  | r, [] => r.finish look
  | r, c :: rest =>
    match r.next look c with
    | none => none
    | some none => r.finish look
    | some (some r) => value look r rest

/-! ## Assignments -/

def isNameStart (c : Char) : Bool :=
  c.isAlpha || c == '_'

def isNameChar (c : Char) : Bool :=
  c.isAlphanum || c == '_' || c == '.'

/-- A name in front of a text, and the rest. -/
def name? (text : List Char) : Option (List Char × List Char) :=
  match text with
  | c :: _ =>
    if isNameStart c then some (text.takeWhile isNameChar, text.dropWhile isNameChar) else none
  | [] => none

/-- The rest behind an equals sign, which blanks may precede. -/
def equals? (text : List Char) : Option (List Char) :=
  match Text.Blank.trimStart text with
  | '=' :: rest => some rest
  | _ => none

/-- The name of an assignment and the text of its value. -/
def assignment? (text : List Char) : Option (List Char × List Char) := do
  let (key, rest) ← name? text
  match equals? rest with
  | some rest => return (key, rest)
  | none =>
    if key ≠ "export".toList then none
    else
      let (key, rest) ← name? (Text.Blank.trimStart rest)
      let rest ← equals? rest
      return (key, rest)

/-- A line: a fault, no assignment, or one. -/
def line? (environment file : Variables) (text : List Char) :
    Option (Option (String × String)) :=
  let text := Text.Blank.trim text
  if text.isEmpty ∨ text.head? = some '#' then some none
  else do
    let (key, rest) ← assignment? text
    let rest := Text.Blank.trimStart rest
    let value ←
      if rest.isEmpty ∨ rest.head? = some '#' then some []
      else value (resolve environment file) {} rest
    return some (String.ofList key, String.ofList value)

/-- The environment after the lines, up to the first fault. -/
def loadLines : Variables → Variables → List (Option (List Char)) → Variables
  | environment, _, [] => environment
  | environment, _, none :: _ => environment
  | environment, file, some line :: rest =>
    match line? environment file line with
    | none => environment
    | some none => loadLines environment file rest
    | some (some (key, value)) =>
      let environment :=
        if (environment.lookup key).isSome then environment else environment ++ [(key, value)]
      loadLines environment ((key, value) :: file) rest

/-- The environment with the variables of a file that it does not have itself. -/
def load (environment : Variables) (file : String) : Variables :=
  let text := match file.toList with
    | c :: rest => if c.toNat = 0xFEFF then rest else c :: rest
    | [] => []
  loadLines environment [] (logicalLines .plain [] (physicalLines text []))

end DotEnv

end Gatehouse
