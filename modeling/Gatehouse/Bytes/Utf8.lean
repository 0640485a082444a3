/-!
# Text as bytes

UTF-8 over byte lists. `Utf8.encode` writes characters, `Utf8.decode?` reads them
back and refuses every byte sequence that is not the encoding of a text, and
`Utf8.decodeLossy` replaces what it cannot read by U+FFFD. Both readers run one
machine over the bytes (`Utf8.lead`, `Utf8.Pending.feed`): a lead byte fixes how many
continuation bytes are owed and the range of the first of them, which keeps out
overlong forms, surrogates and values past U+10FFFF.
-/

namespace Gatehouse

/-- A sequence of bytes. -/
abbrev Bytes := List UInt8

namespace Utf8

/-- The UTF-8 form of a text. -/
def encode (text : List Char) : Bytes :=
  text.flatMap String.utf8EncodeChar

/-- A character that is not complete: the bytes still owed, the range of the next one,
and the value of the bits read so far. -/
structure Pending where
  owed : Nat
  low : Nat
  high : Nat
  value : Nat
deriving Repr, DecidableEq

/-- What a byte is between two characters. -/
inductive Lead
  | char (c : Char)
  | pending (p : Pending)
  | invalid
deriving Repr, DecidableEq

/-- A byte between two characters. -/
def lead (b : UInt8) : Lead :=
  let n := b.toNat
  if n < 0x80 then .char (Char.ofNat n)
  else if n < 0xC2 then .invalid
  else if n < 0xE0 then .pending ⟨1, 0x80, 0xBF, n % 0x20⟩
  else if n = 0xE0 then .pending ⟨2, 0xA0, 0xBF, 0⟩
  else if n = 0xED then .pending ⟨2, 0x80, 0x9F, 0xD⟩
  else if n < 0xF0 then .pending ⟨2, 0x80, 0xBF, n % 0x10⟩
  else if n = 0xF0 then .pending ⟨3, 0x90, 0xBF, 0⟩
  else if n < 0xF4 then .pending ⟨3, 0x80, 0xBF, n % 8⟩
  else if n = 0xF4 then .pending ⟨3, 0x80, 0x8F, 4⟩
  else .invalid

/-- The next byte of a character: the character, if the byte completes it. A byte that
is out of range is no part of it. -/
def Pending.feed (p : Pending) (b : UInt8) : Lead :=
  let n := b.toNat
  if p.low ≤ n ∧ n ≤ p.high then
    let value := p.value * 0x40 + n % 0x40
    if p.owed ≤ 1 then .char (Char.ofNat value)
    else .pending ⟨p.owed - 1, 0x80, 0xBF, value⟩
  else .invalid

/-- The text of the bytes, behind the characters already read. -/
def decodeFrom : Option Pending → Bytes → List Char → Option (List Char)
  | none, [], read => some read.reverse
  | some _, [], _ => none
  | none, b :: bytes, read =>
    match lead b with
    | .char c => decodeFrom none bytes (c :: read)
    | .pending p => decodeFrom (some p) bytes read
    | .invalid => none
  | some p, b :: bytes, read =>
    match p.feed b with
    | .char c => decodeFrom none bytes (c :: read)
    | .pending q => decodeFrom (some q) bytes read
    | .invalid => none

/-- The text that the bytes encode, if they encode one. -/
def decode? (bytes : Bytes) : Option (List Char) :=
  decodeFrom none bytes []

/-- What stands for a sequence that is no character. -/
def replacement : Char := Char.ofNat 0xFFFD

/-- As `decodeFrom`, with `replacement` for every longest start of a character that
breaks off and for every byte that starts none. -/
def decodeLossyFrom : Option Pending → Bytes → List Char → List Char
  | none, [], read => read.reverse
  | some _, [], read => (replacement :: read).reverse
  | none, b :: bytes, read =>
    match lead b with
    | .char c => decodeLossyFrom none bytes (c :: read)
    | .pending p => decodeLossyFrom (some p) bytes read
    | .invalid => decodeLossyFrom none bytes (replacement :: read)
  | some p, b :: bytes, read =>
    match p.feed b with
    | .char c => decodeLossyFrom none bytes (c :: read)
    | .pending q => decodeLossyFrom (some q) bytes read
    | .invalid =>
      match lead b with
      | .char c => decodeLossyFrom none bytes (c :: replacement :: read)
      | .pending q => decodeLossyFrom (some q) bytes (replacement :: read)
      | .invalid => decodeLossyFrom none bytes (replacement :: replacement :: read)

/-- The text of the bytes, with U+FFFD where they hold none. -/
def decodeLossy (bytes : Bytes) : List Char :=
  decodeLossyFrom none bytes []

/-- The UTF-8 form of a string. -/
def ofString (s : String) : Bytes :=
  encode s.toList

/-- The string that the bytes encode, if they encode one. -/
def toString? (bytes : Bytes) : Option String :=
  (decode? bytes).map String.ofList

end Utf8

end Gatehouse
