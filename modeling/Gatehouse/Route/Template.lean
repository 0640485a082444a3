/-!
# Path templates

A template is the path of a route, read character by character: a character that stands for
itself, a parameter between braces, or, at the end, a parameter with a star for all that is
left. A brace that is written twice stands for itself (`Template.unescape`).

A parameter takes a path up to the next slash and the rest takes all of it; neither takes
anything of a path that has ended (`Template.matchesPath`). Where two templates match a path,
the one with a character at the first place where they differ goes before the one with a
parameter there (`Template.precedes`). Templates conflict if no path could tell which of
them it belongs to (`Template.conflicts`).
-/

namespace Gatehouse

/-- A part of a template. -/
inductive TemplatePart
  | literal (c : Char)
  | parameter (name : List Char)
  | rest (name : List Char)
deriving Repr, DecidableEq

/-- The parts of a template, in order. -/
abbrev Template := List TemplatePart

namespace Template

/-! ## Reading -/

/-- The characters of a text, and whether each is a brace that was written twice. -/
def unescape : List Char → List (Char × Bool)
  | '\x7b' :: '\x7b' :: text => ('\x7b', true) :: unescape text
  | '\x7d' :: '\x7d' :: text => ('\x7d', true) :: unescape text
  | c :: text => (c, false) :: unescape text
  | [] => []

/-- The part between two braces, if it may stand in front of `next`: what follows a parameter
is a slash, and nothing follows the rest. -/
def part? (name : List Char) (next : Option Char) : Option TemplatePart :=
  match name, next with
  | [], _ | ['*'], _ => none
  | '*' :: name, none => some (.rest name)
  | '*' :: _, some _ => none
  | name, none => some (.parameter name)
  | name, some c => if c = '/' then some (.parameter name) else none

/-- The parts of a text. `name` is what has been read of a name, last character first, if
the text begins between two braces. The first character of a name may be any but a closing
brace; the others are no stars and no slashes. -/
def readFrom : Option (List Char) → List (Char × Bool) → Option Template
  | none, [] => some []
  | some _, [] => none
  | none, (c, escaped) :: text =>
    if c = '\x7d' ∧ !escaped then none
    else if c = '\x7b' ∧ !escaped then readFrom (some []) text
    else (readFrom none text).map (.literal c :: ·)
  | some name, (c, escaped) :: text =>
    if c = '\x7d' ∧ (name.isEmpty ∨ !escaped) then
      match part? name.reverse (text.head?.map Prod.fst), readFrom none text with
      | some p, some ps => some (p :: ps)
      | _, _ => none
    else if !name.isEmpty ∧ (c = '*' ∨ c = '/') then none
    else readFrom (some (c :: name)) text

/-- Whether a part is no character. -/
def isWild : TemplatePart → Bool
  | .literal _ => false
  | .parameter _ | .rest _ => true

/-- How many parameters a template may have. -/
def maxWild : Nat := 25

/-- Whether a colon or a star stands at the start of the path or behind a slash. These mark
parameters in another notation, which is refused. -/
def hasMark : List Char → Bool
  | [] => false
  | '/' :: ':' :: _ | '/' :: '*' :: _ => true
  | _ :: text => hasMark text

/-- The template that a path is, if it is one. -/
def ofPath? (path : String) : Option Template :=
  if hasMark ('/' :: path.toList) then none
  else (readFrom none (unescape path.toList)).filter fun ps => ps.countP isWild ≤ maxWild

/-! ## Matching -/

/-- Whether a path is an instance of a template. -/
def matchesPath : Template → List Char → Bool
  | [], path => path.isEmpty
  | .literal _ :: _, [] => false
  | .literal c :: ps, d :: path => c == d && matchesPath ps path
  | .parameter _ :: ps, path =>
    !path.isEmpty && matchesPath ps (path.dropWhile (· != '/'))
  | .rest _ :: _, path => !path.isEmpty

/-- Whether the first template has a character where it first differs from the second. -/
def precedes : Template → Template → Bool
  | .literal c :: ps, .literal d :: qs => c == d && precedes ps qs
  | .literal _ :: _, _ :: _ => true
  | .parameter _ :: ps, .parameter _ :: qs => precedes ps qs
  | _, _ => false

/-- Whether two templates are the same but for names, or one has a parameter where the other
has the rest. -/
def conflicts : Template → Template → Bool
  | [], [] => true
  | .literal c :: ps, .literal d :: qs => c == d && conflicts ps qs
  | .parameter _ :: ps, .parameter _ :: qs => conflicts ps qs
  | .rest _ :: _, .rest _ :: _ | .rest _ :: _, .parameter _ :: _ => true
  | .parameter _ :: _, .rest _ :: _ => true
  | _, _ => false

/-- Whether no two of the templates conflict. -/
def compatible : List Template → Bool
  | [] => true
  | t :: ts => !ts.any (conflicts t) && compatible ts

end Template

end Gatehouse
