import Gatehouse.Auth.Error
import Gatehouse.Bytes.Hex
import Gatehouse.Config.Service
import Gatehouse.Digest.Sha256
import Gatehouse.Token.Claims

/-!
# The administrator

The one account that can log in. What is kept of its password is a digest, and a client
sends that digest (`Administrator.accepts`).
-/

namespace Gatehouse

/-- The SHA-256 digest of a password, in lower-case hexadecimal. -/
def Password.digest (password : String) : String :=
  String.ofList (Hex.encode (Sha256.digest (Utf8.ofString password)))

/-- The account of the administrator. -/
structure Administrator where
  login : String
  digest : String
  email : String
  id : Int
deriving Repr, DecidableEq

namespace Administrator

/-- The account with a password. -/
def new (login password email : String) (id : Int) : Administrator :=
  { login, digest := Password.digest password, email, id }

def ofSettings (s : AccountSettings) : Administrator :=
  new s.login s.password s.email s.id

/-- Whether a login and the digest of a password are those of the account. -/
def accepts (a : Administrator) (login digest : String) : Bool :=
  login == a.login && digest == a.digest

/-- Whom a token for the account speaks for. -/
def identity (a : Administrator) : User :=
  { id := a.id, name := "Administrator", email := a.email, login := a.login, isAdmin := true }

/-- The user with a login. -/
def user (a : Administrator) (login : String) : Except AuthError User :=
  if login = a.login then .ok a.identity else .error (.unknownUser login)

end Administrator

/-- Claims have to be an administrator's. -/
def adminOnly (c : Claims) : Except AuthError Unit :=
  if c.isAdmin then .ok () else .error AuthError.notAdmin

end Gatehouse
