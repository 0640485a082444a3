import Gatehouse.Token.Basic

/-!
# Issuing and verifying by a clock

A codec holds a secret, an issuer and a life of tokens; it issues and verifies at what its
clock reads. A clock is the system's, whose reading is an input, or a manual one: a count of
seconds in 64 bits that is set and moved by hand, wraps around, and reads as the start of
1970 where it is no instant.
-/

namespace Gatehouse

/-- A clock that is moved by hand. -/
structure ManualClock where
  seconds : Int64
deriving DecidableEq

namespace ManualClock

/-- A clock that stands at the second of an instant. -/
def ofInstant (t : Instant) : ManualClock := ⟨Int64.ofInt t.seconds⟩

/-- The clock a number of whole seconds later. -/
def advance (c : ManualClock) (seconds : Int) : ManualClock :=
  ⟨c.seconds + Int64.ofInt seconds⟩

/-- What the clock reads. -/
def now (c : ManualClock) : Instant :=
  (Instant.ofSeconds? c.seconds.toInt).getD Instant.epoch

def debug (c : ManualClock) : String :=
  Text.record "FixedClock" [("seconds", toString c.seconds.toInt)]

end ManualClock

/-- A clock of a codec. -/
inductive Clock
  | system
  | manual (c : ManualClock)
deriving DecidableEq

namespace Clock

/-- What the clock reads when the system's clock reads `systemNow`. -/
def now (c : Clock) (systemNow : Instant) : Instant :=
  match c with
  | .system => systemNow
  | .manual c => c.now

def debug : Clock → String
  | .system => "SystemClock"
  | .manual c => c.debug

end Clock

/-- What issues and verifies the tokens of a service. -/
structure TokenCodec where
  secret : Bytes
  issuer : String
  minutes : Int
  clock : Clock := .system
deriving DecidableEq

namespace TokenCodec

/-- A codec on the system's clock. The life of tokens has to be possible at `systemNow`. -/
def new (secret : Bytes) (issuer : String) (minutes : Int) (systemNow : Instant) :
    Except TokenError TokenCodec :=
  if secret.isEmpty then .error TokenError.emptySecret
  else (Token.expiry systemNow minutes).map fun _ => { secret, issuer, minutes }

def withClock (c : TokenCodec) (clock : ManualClock) : TokenCodec :=
  { c with clock := .manual clock }

/-- The claims of a token for a user at what the clock reads. -/
def claims (c : TokenCodec) (user : User) (systemNow : Instant) (tokenId : String) :
    Except TokenError Claims :=
  Token.claims user c.issuer c.minutes (c.clock.now systemNow) tokenId

/-- The token that carries claims. -/
def sign (c : TokenCodec) (claims : Claims) : List Char :=
  Token.sign claims c.secret

/-- A token for a user at what the clock reads. -/
def issue (c : TokenCodec) (user : User) (systemNow : Instant) (tokenId : String) :
    Except TokenError (List Char) :=
  (c.claims user systemNow tokenId).map c.sign

/-- The claims of a token at what the clock reads. -/
def verify (c : TokenCodec) (text : List Char) (systemNow : Instant) :
    Except TokenError Claims :=
  Token.verify text c.secret (c.clock.now systemNow)

/-- The diagnostic text of a codec, without its secret. -/
def debug (c : TokenCodec) : String :=
  Text.record "JwtCodec"
    [("secret", Text.quoted "[REDACTED]"), ("issuer", Text.quoted c.issuer),
      ("ttl_minutes", toString c.minutes), ("clock", c.clock.debug)]

end TokenCodec

end Gatehouse
