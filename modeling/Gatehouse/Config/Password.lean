import Gatehouse.Config.Error
import Gatehouse.Text.Blank
import Gatehouse.Text.Letter

/-!
# The administrator's password

A password needs eight characters, and among them a number, an upper-case letter, a
lower-case letter and a special character. White space and three punctuation marks are not
allowed at all. `Password.isComplex` decides this in one pass, in which each character
counts for the first class it belongs to.
-/

namespace Gatehouse.Password

/-- The classes that a password has shown so far. -/
structure Seen where
  number : Bool := false
  upper : Bool := false
  lower : Bool := false
  special : Bool := false
deriving Repr, DecidableEq

/-- Characters that no password may hold. -/
def isForbidden (c : Char) : Bool :=
  c == '#' || c == '|' || c == '\x27' || Text.isBlank c

/-- What has been seen after one more character, unless it is forbidden. -/
def Seen.next (s : Seen) (c : Char) : Option Seen :=
  if Text.isNumeric c then some { s with number := true }
  else if Text.isUpper c then some { s with upper := true }
  else if Text.isLower c then some { s with lower := true }
  else if isForbidden c then none
  else if !Text.isAlphanumeric c && !Text.isControl c then some { s with special := true }
  else some s

/-- Whether every class has been seen. -/
def Seen.all (s : Seen) : Bool :=
  s.number && s.upper && s.lower && s.special

/-- Whether what has been seen, and the rest of a password, satisfy the rule. -/
def isComplexFrom : Seen → List Char → Bool
  | s, [] => s.all
  | s, c :: rest =>
    match s.next c with
    | some s => isComplexFrom s rest
    | none => false

/-- Whether a password has all four classes and no forbidden character. -/
def isComplex (password : String) : Bool :=
  isComplexFrom {} password.toList

/-- The fewest characters of a password. -/
def minLength : Nat := 8

/-- Why a password is refused, if it is. -/
def check (password : String) : Except ConfigError Unit :=
  let count := password.toList.length
  if count < minLength then .error (.invalid "ADMIN_PASSWORD" (tooShort minLength count))
  else if !isComplex password then
    .error (.invalid "ADMIN_PASSWORD"
      ("should contain at least one lowercase letter, one uppercase letter, one digit and one " ++
        "special character, without whitespace, #, | or '"))
  else .ok ()

end Gatehouse.Password
